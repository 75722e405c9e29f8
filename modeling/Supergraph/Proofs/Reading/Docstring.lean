import Supergraph.Emit.Docstring
import Supergraph.Proofs.Reading.Scanner

/-!
# Reading docstrings

A string literal stands between single or double quotes, and then its escapes are read back, or
between three quotes of a kind, and then it ends with the next three of them. The literal for the
first line of a description reads back as that line, whatever quotes and backslashes are in it.

## Main definitions

* `untilTriple` — a text up to the next three quotes
* `stringLiteral?` — the text of a string literal

## Main results

* `untilTriple_append` — a text ends where it is closed when it neither holds the closing quotes nor
  ends with one
* `stringLiteral?_docstringLiteral` — docstrings are read back
-/

namespace Supergraph.Reading

/-- The text up to the next three quotes, and what follows them. -/
def untilTriple (quote : Char) : List Char → Option (List Char × List Char)
  | a :: b :: c :: rest =>
    if a = quote ∧ b = quote ∧ c = quote then some ([], rest)
    else (untilTriple quote (b :: c :: rest)).map fun (text, after) => (a :: text, after)
  | _ => none

/-- The text of a literal after its three opening quotes. Texts with escapes are not read. -/
def tripleQuoted? (quote : Char) (cs : List Char) : Option (List Char) :=
  match untilTriple quote cs with
  | some (text, []) => if '\\' ∈ text then none else some text
  | _ => none

/-- The text of a literal between single quotes or double quotes. -/
def singleQuoted? (cs : List Char) : Option (List Char) :=
  match tokens? cs with
  | some [.text value] => some value.toList
  | _ => none

/-- The text of a string literal that nothing follows. A null character is read like any other,
though a source file that holds one is refused as a whole. -/
def stringLiteral? (cs : List Char) : Option (List Char) :=
  match cs with
  | a :: b :: c :: rest =>
    if (a = '\'' ∨ a = '"') ∧ b = a ∧ c = a then tripleQuoted? a rest else singleQuoted? cs
  | _ => singleQuoted? cs

variable {cs : List Char}

/-! ### Three quotes -/

/-- A character stays part of the text unless it begins three quotes. -/
theorem untilTriple_cons {quote a b c : Char} {rest : List Char}
    (other : ¬(a = quote ∧ b = quote ∧ c = quote)) :
    untilTriple quote (a :: b :: c :: rest) =
      (untilTriple quote (b :: c :: rest)).map fun (text, after) => (a :: text, after) := by
  rw [untilTriple, if_neg other]

/-- Three quotes do not begin within a text that holds no three and does not end with one. -/
theorem untilTriple_append (free : Emit.holdsTripleQuote cs = false)
    (last : cs.getLast? ≠ some '"') (after : List Char) :
    untilTriple '"' (cs ++ '"' :: '"' :: '"' :: after) = some (cs, after) := by
  induction cs with
  | nil => rfl
  | cons a cs ih =>
    -- The closing quotes may be reached within two characters.
    match cs with
    | [] =>
      have other : a ≠ '"' := by simpa using last
      exact untilTriple_cons fun same => other same.1
    | [b] =>
      have other : b ≠ '"' := by simpa using last
      have closed : untilTriple '"' ([b] ++ '"' :: '"' :: '"' :: after) = some ([b], after) :=
        untilTriple_cons fun same => other same.1
      rw [List.cons_append, List.nil_append] at closed
      rw [List.cons_append, List.cons_append, List.nil_append,
        untilTriple_cons fun same => other same.2.1, closed]
      rfl
    | b :: c :: rest =>
      have other : ¬(a = '"' ∧ b = '"' ∧ c = '"') := by
        rintro ⟨rfl, rfl, rfl⟩
        cases free
      have shorter : Emit.holdsTripleQuote (b :: c :: rest) = false := by
        rw [Emit.holdsTripleQuote] at free
        · exact free
        · rintro tail rfl more
          cases more
          exact other ⟨rfl, rfl, rfl⟩
      have closed := ih shorter (by simpa using last)
      rw [List.cons_append, List.cons_append] at closed
      rw [List.cons_append, List.cons_append, List.cons_append, untilTriple_cons other, closed]
      rfl

/-- A text without escapes is read back from between three quotes. -/
theorem stringLiteral?_tripleQuoted (free : Emit.holdsTripleQuote cs = false)
    (last : cs.getLast? ≠ some '"') (plain : '\\' ∉ cs) :
    stringLiteral? ('"' :: '"' :: '"' :: (cs ++ ['"', '"', '"'])) = some cs := by
  rw [stringLiteral?, if_pos ⟨.inr rfl, rfl, rfl⟩, tripleQuoted?, untilTriple_append free last]
  exact if_neg plain

/-! ### One quote -/

/-- What stands for a character between quotes does not begin with the quote. -/
theorem exists_escapeChar_eq {quote : Char} (isQuote : quote = '\'' ∨ quote = '"') (c : Char) :
    ∃ first rest, Text.escapeChar quote c = first :: rest ∧ first ≠ quote := by
  have other : '\\' ≠ quote := by
    rcases isQuote with rfl | rfl <;> decide
  rw [Text.escapeChar]
  split_ifs with escaped
  all_goals first
    | exact ⟨_, _, rfl, other⟩
    | exact ⟨_, _, rfl, fun same => escaped (by simp [same])⟩

/-- A quoted text does not begin with three quotes. -/
theorem stringLiteral?_quotedChars (cs : List Char) :
    stringLiteral? (Text.quotedChars cs) = some cs := by
  have single : singleQuoted? (Text.quotedChars cs) = some cs := by
    have scanned := tokens?_quotedChars cs []
    rw [List.append_nil] at scanned
    rw [singleQuoted?, scanned]
    exact congrArg some String.toList_ofList
  rw [Text.quotedChars] at single ⊢
  cases cs with
  | nil => exact single
  | cons c cs =>
    obtain ⟨first, rest, begins, other⟩ := exists_escapeChar_eq (quoteFor_eq (c :: cs)) c
    obtain ⟨third, more, tail⟩ : ∃ third more, rest ++ cs.flatMap
        (Text.escapeChar (Text.quoteFor (c :: cs))) ++ [Text.quoteFor (c :: cs)] = third :: more :=
      List.exists_cons_of_ne_nil (by simp)
    simp only [List.flatMap_cons, begins, List.cons_append, tail] at single ⊢
    rw [stringLiteral?, if_neg fun same => other same.2.1]
    exact single

/-- A docstring begins with a quote. -/
theorem head?_docstringLiteral (cs : List Char) :
    (Emit.docstringLiteral cs).head? = some '\'' ∨ (Emit.docstringLiteral cs).head? = some '"' := by
  rw [Emit.docstringLiteral]
  split
  · rcases quoteFor_eq cs with quote | quote
    · exact .inl (congrArg some quote)
    · exact .inr (congrArg some quote)
  · exact .inr rfl

/-- The literal of a docstring reads back as its text. -/
theorem stringLiteral?_docstringLiteral (cs : List Char) :
    stringLiteral? (Emit.docstringLiteral cs) = some cs := by
  rw [Emit.docstringLiteral]
  by_cases quoting : Emit.needsQuoting cs
  · rw [if_pos quoting]
    exact stringLiteral?_quotedChars cs
  · rw [if_neg quoting]
    simp only [Emit.needsQuoting, Bool.or_eq_true, not_or, beq_iff_eq, List.contains_iff_mem,
      Bool.not_eq_true] at quoting
    obtain ⟨⟨free, plain⟩, last⟩ := quoting
    exact stringLiteral?_tripleQuoted free last plain

end Supergraph.Reading

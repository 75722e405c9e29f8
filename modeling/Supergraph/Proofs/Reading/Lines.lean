import Supergraph.Proofs.Reading.TypedDict
import Supergraph.Proofs.Table

/-!
# Texts on one line

A text that is joined from lines splits into these lines when no character of them ends a line.
Names and hints have no such character, and in quoted texts and docstrings none is left: the former
escape them, the latter are cut off before the first.

## Main definitions

* `isLine` — the texts that stay on one line
* `linesOf` — the lines of a text

## Main results

* `linesOf_intercalate` — joined lines are read back
* `isPrintable_of_mem_quotedChars` — quoted texts are printable
* `isLine_of_isName`, `isLine_quoted`, `isLine_docstring`, `Shape.isLine_hint` — what stays on one
  line
-/

namespace Supergraph

namespace Reading

/-- Whether no character ends a line. -/
def isLine (text : String) : Bool :=
  text.toList.all isInLine

/-- The lines of a text. -/
def linesOf (text : String) : List (List Char) :=
  text.toList.splitOnP fun c => !isInLine c

@[simp] theorem isLine_append (first second : String) :
    isLine (first ++ second) = (isLine first && isLine second) := by
  rw [isLine, String.toList_append, List.all_append]
  rfl

@[simp] theorem isLine_ofList (cs : List Char) : isLine (String.ofList cs) = cs.all isInLine := by
  rw [isLine, String.toList_ofList]

theorem isLine_intercalate {sep : String} (stays : isLine sep) {parts : List String}
    (each : ∀ part ∈ parts, isLine part) : isLine (String.intercalate sep parts) := by
  induction parts with
  | nil => rfl
  | cons part rest ih =>
    obtain ⟨here, others⟩ := List.forall_mem_cons.1 each
    cases rest with
    | nil => rwa [String.intercalate_singleton]
    | cons second rest => simp [String.intercalate_cons_cons, here, stays, ih others]

/-- Lines that are joined are the lines of the text. -/
theorem linesOf_intercalate {lines : List String} (inhabited : lines ≠ [])
    (each : ∀ line ∈ lines, isLine line) :
    linesOf (String.intercalate "\n" lines) = lines.map String.toList := by
  have inside : ∀ {line : String}, isLine line → ∀ c ∈ line.toList, (!isInLine c) = false := by
    intro line stays c member
    rw [List.all_eq_true.1 stays c member]
    rfl
  induction lines with
  | nil => exact absurd rfl inhabited
  | cons line rest ih =>
    obtain ⟨here, others⟩ := List.forall_mem_cons.1 each
    cases rest with
    | nil =>
      rw [String.intercalate_singleton, linesOf, List.splitOnP_eq_singleton (inside here)]
      rfl
    | cons second rest =>
      have text : (String.intercalate "\n" (line :: second :: rest)).toList =
          line.toList ++ '\n' :: (String.intercalate "\n" (second :: rest)).toList := by
        simp [String.intercalate_cons_cons]
      rw [linesOf, text, List.splitOnP_append_cons_of_forall_mem (inside here) '\n' rfl]
      exact congrArg _ (ih (List.cons_ne_nil _ _) others)

/-! ### Names and quoted texts -/

theorem isInLine_of_isNamePart {c : Char} (part : Text.isNamePart c) : isInLine c := by
  have feed : c ≠ '\n' := Text.ne_of_isNamePart part (by decide)
  have back : c ≠ '\r' := Text.ne_of_isNamePart part (by decide)
  simp [isInLine, feed, back]

theorem isLine_of_isName {name : String} (named : Text.isName name.toList) : isLine name :=
  List.all_eq_true.2 fun c member => isInLine_of_isNamePart (Text.forall_isNamePart named c member)

theorem isPrintable_of_mem_hexDigits {width n : Nat} {c : Char}
    (member : c ∈ Text.hexDigits width n) : Text.isPrintable c := by
  have digits : ∀ digit < 16, Text.isPrintable (Text.hexDigit digit) := by decide
  induction width generalizing n with
  | zero => cases member
  | succ width ih =>
    rcases List.mem_append.1 member with leading | last
    · exact ih leading
    · rw [List.mem_singleton.1 last]
      exact digits _ (Nat.mod_lt n (by decide))

/-- Between quotes the characters that are not printable are written otherwise. -/
theorem isPrintable_of_mem_escapeChar {quote c d : Char} (isQuote : quote = '\'' ∨ quote = '"')
    (member : d ∈ Text.escapeChar quote c) : Text.isPrintable d := by
  have quoteStays : Text.isPrintable quote := by
    rcases isQuote with rfl | rfl <;> decide
  have hexadecimal : ∀ {width : Nat} {letter : Char}, Text.isPrintable letter →
      d ∈ '\\' :: letter :: Text.hexDigits width c.toNat → Text.isPrintable d := by
    intro width letter stays among
    rcases List.mem_cons.1 among with rfl | among
    · decide
    · rcases List.mem_cons.1 among with rfl | digit
      · exact stays
      · exact isPrintable_of_mem_hexDigits digit
  have escape : ∀ {letter : Char}, Text.isPrintable letter → d ∈ ['\\', letter] →
      Text.isPrintable d := by
    intro letter stays among
    rcases List.mem_cons.1 among with rfl | same
    · decide
    · exact List.mem_singleton.1 same ▸ stays
  rw [Text.escapeChar] at member
  split_ifs at member with plain tab feed back printable
  · refine escape ?_ member
    rcases Bool.or_eq_true_iff.1 plain with same | same
    · exact eq_of_beq same ▸ quoteStays
    · exact eq_of_beq same ▸ by decide
  · exact escape (by decide) member
  · exact escape (by decide) member
  · exact escape (by decide) member
  · exact List.mem_singleton.1 member ▸ printable
  · exact hexadecimal (by decide) member
  · exact hexadecimal (by decide) member
  · exact hexadecimal (by decide) member

/-- A quoted text holds printable characters only. -/
theorem isPrintable_of_mem_quotedChars {cs : List Char} {c : Char}
    (member : c ∈ Text.quotedChars cs) : Text.isPrintable c := by
  have isQuote := quoteFor_eq cs
  have quoteStays : Text.isPrintable (Text.quoteFor cs) := by
    rcases isQuote with same | same <;> rw [same] <;> decide
  simp only [Text.quotedChars, List.cons_append, List.mem_cons, List.mem_append, List.mem_flatMap,
    List.not_mem_nil, or_false] at member
  rcases member with rfl | ⟨_, _, escaped⟩ | rfl
  · exact quoteStays
  · exact isPrintable_of_mem_escapeChar isQuote escaped
  · exact quoteStays

theorem isInLine_of_isPrintable {c : Char} (printable : Text.isPrintable c) : isInLine c := by
  have feed : c ≠ '\n' := by
    rintro rfl
    exact absurd printable (by decide)
  have back : c ≠ '\r' := by
    rintro rfl
    exact absurd printable (by decide)
  simp [isInLine, feed, back]

theorem all_isInLine_quotedChars (cs : List Char) : (Text.quotedChars cs).all isInLine :=
  List.all_eq_true.2 fun _ member =>
    isInLine_of_isPrintable (isPrintable_of_mem_quotedChars member)

@[simp] theorem isLine_quoted (text : String) : isLine (Text.quoted text) := by
  rw [Text.quoted, isLine_ofList]
  exact all_isInLine_quotedChars text.toList

/-! ### Docstrings -/

theorem mem_of_mem_trim {cs : List Char} {c : Char} (member : c ∈ Text.trim cs) : c ∈ cs := by
  rw [Text.trim, Text.trimEnd, List.mem_reverse] at member
  have ahead := List.mem_reverse.1 ((List.dropWhile_sublist _).subset member)
  exact (List.dropWhile_sublist _).subset ahead

theorem all_isInLine_summary (description : String) : (Emit.summary description).all isInLine := by
  refine List.all_eq_true.2 fun c member => ?_
  have apart := List.all_eq_true.1 List.all_takeWhile c (mem_of_mem_trim member)
  have other : ∀ d, Text.isLineBreak d → c ≠ d := by
    rintro d breaks rfl
    rw [breaks] at apart
    cases apart
  simp [isInLine, other '\n' (by decide), other '\r' (by decide)]

theorem all_isInLine_docstringLiteral {cs : List Char} (stays : cs.all isInLine) :
    (Emit.docstringLiteral cs).all isInLine := by
  rw [Emit.docstringLiteral]
  split
  · exact all_isInLine_quotedChars cs
  · rw [List.all_append, List.all_append, stays]
    rfl

/-- The docstring of a class stays on one line. -/
theorem isLine_of_mem_classDocstring {d : Declaration} {line : String}
    (member : line ∈ Emit.classDocstring d) : isLine line := by
  rw [Emit.classDocstring] at member
  split at member
  next text _ =>
    rw [Emit.docstring] at member
    split at member
    next => cases member
    next =>
      rw [List.mem_singleton.1 member, isLine_append, isLine_ofList,
        all_isInLine_docstringLiteral (all_isInLine_summary text)]
      rfl
  next => cases member

end Reading

/-! ### Hints -/

namespace Shape

open Reading

variable {s : Shape}

theorem isLine_baseHint (named : Text.isName s.name.toList) : isLine s.baseHint := by
  have anything : isLine opaqueHint := by decide
  have enum : isLine "str" := by decide
  rw [baseHint]
  cases s.kind with
  | enum => exact enum
  | object => exact isLine_of_isName named
  | scalar =>
    cases found : scalarHints.lookup s.name with
    | none => exact anything
    | some hint =>
      have stay : ∀ entry ∈ scalarHints, isLine entry.2 := by decide
      exact stay _ (Table.mem_of_lookup_eq_some found)

theorem isLine_optional {hint : String} (stays : isLine hint) : isLine (optional hint) := by
  rw [optional, isLine_append, isLine_append, stays]
  rfl

/-- The hint of a shape stays on one line if the name of its base does. -/
theorem isLine_hint (named : Text.isName s.name.toList) : isLine s.hint := by
  have base := isLine_baseHint named
  have element : isLine (if s.elementNullable then optional s.baseHint else s.baseHint) := by
    split
    · exact isLine_optional base
    · exact base
  have inner : isLine s.nonNullHint := by
    rw [nonNullHint]
    split
    · rw [isLine_append, isLine_append, element]
      rfl
    · exact base
  rw [hint]
  split
  · exact isLine_optional inner
  · exact inner

end Shape

end Supergraph

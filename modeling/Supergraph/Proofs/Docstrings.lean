import Mathlib.Data.List.DropRight
import Supergraph.Proofs.Reading.Lines

/-!
# Docstrings denote first lines

The docstring of a class is one string literal: the first line of a description, without the blanks
around it. Descriptions may hold anything, quotes, backslashes and separators of lines among it.
Still the literal stays on its line, and a reader who meets it finds the text in it and stops right
behind its last quote, whatever comes next.

## Main definitions

* `Text.IsTrimmed`, `Text.IsFirstLine` — a text without the blanks at its ends, and its first line
* `Reading.leadingLiteral?` — the text of the literal that characters begin with, and what follows

## Main results

* `Text.isTrimmed_trim`, `Text.isFirstLine_firstLine` — what trimming and cutting off give
* `Reading.leadingLiteral?_docstringLiteral` — where the literal of a docstring ends, and its text
* `docstring_denotes_first_line` — the docstring of a description
-/

namespace Supergraph

/-! ### Trimmed texts and first lines -/

namespace Text

/-- A text is what is left of characters when the blanks at their two ends are taken away. -/
structure IsTrimmed (cs text : List Char) : Prop where
  surrounded : ∃ before after, cs = before ++ text ++ after ∧
    (∀ c ∈ before, isBlank c) ∧ ∀ c ∈ after, isBlank c
  begins : ∀ c ∈ text.head?, isBlank c = false
  ends : ∀ c ∈ text.getLast?, isBlank c = false

/-- A line is what stands before the first line break. -/
def IsFirstLine (cs line : List Char) : Prop :=
  ∃ rest, cs = line ++ rest ∧ (∀ c ∈ line, isLineBreak c = false) ∧
    ∀ c ∈ rest.head?, isLineBreak c

variable {cs text line : List Char} {c : Char}

theorem isTrimmed_trim (cs : List Char) : IsTrimmed cs (trim cs) := by
  have split : (trim cs) ++ (cs.dropWhile isBlank).rtakeWhile isBlank = cs.dropWhile isBlank :=
    List.rdropWhile_append_rtakeWhile
  refine ⟨⟨cs.takeWhile isBlank, (cs.dropWhile isBlank).rtakeWhile isBlank, ?_, ?_, ?_⟩, ?_, ?_⟩
  · rw [List.append_assoc, split, List.takeWhile_append_dropWhile]
  · exact fun c member => List.mem_takeWhile_imp member
  · exact fun c member => List.mem_rtakeWhile_imp member
  · intro c first
    -- The text begins as the characters do when the blanks before them are gone.
    obtain ⟨rest, begins⟩ := List.head?_eq_some_iff.1 first
    have ahead : (cs.dropWhile isBlank).head? = some c := by
      rw [← split, begins]
      rfl
    have solid := List.head?_dropWhile_not isBlank cs
    rwa [ahead] at solid
  · intro c last
    obtain ⟨solid, rfl⟩ := List.mem_getLast?_eq_getLast last
    exact Bool.eq_false_iff.2 (List.rdropWhile_last_not isBlank (cs.dropWhile isBlank) solid)

/-- Nothing is left exactly of blanks. -/
theorem IsTrimmed.eq_nil_iff (trimmed : IsTrimmed cs text) :
    text = [] ↔ ∀ c ∈ cs, isBlank c := by
  obtain ⟨before, after, rfl, blank, blankToo⟩ := trimmed.surrounded
  constructor
  · rintro rfl c member
    rw [List.append_nil] at member
    exact (List.mem_append.1 member).elim (blank c) (blankToo c)
  · intro all
    cases text with
    | nil => rfl
    | cons c rest =>
      have solid := trimmed.begins c rfl
      rw [all c (by simp)] at solid
      cases solid

theorem isFirstLine_firstLine (cs : List Char) : IsFirstLine cs (firstLine cs) := by
  refine ⟨cs.dropWhile fun c => !isLineBreak c, List.takeWhile_append_dropWhile.symm, ?_, ?_⟩
  · intro c member
    simpa using List.mem_takeWhile_imp member
  · intro c first
    have stops := List.head?_dropWhile_not (fun c => !isLineBreak c) cs
    rw [Option.mem_def.1 first] at stops
    simpa using stops

/-- The first line of a trimmed text begins as the text does. -/
theorem IsFirstLine.exists_not_isBlank (first : IsFirstLine text line)
    (trimmed : IsTrimmed cs text) (inhabited : text ≠ []) : ∃ c ∈ line, isBlank c = false := by
  obtain ⟨rest, rfl, _, stops⟩ := first
  cases line with
  | cons c line => exact ⟨c, List.mem_cons_self, trimmed.begins c rfl⟩
  | nil =>
    -- A text that begins with a line break begins with a blank.
    obtain ⟨c, rest, rfl⟩ := List.exists_cons_of_ne_nil inhabited
    have solid := trimmed.begins c rfl
    rw [isBlank_of_isLineBreak (stops c rfl)] at solid
    cases solid

/-- No line break is printable. -/
theorem isLineBreak_eq_false_of_isPrintable (printable : isPrintable c) :
    isLineBreak c = false := by
  have gaps : ∀ range ∈ printableRanges.toList,
      0x85 < range.1 ∧ (range.2 < 0x2028 ∨ 0x2029 < range.1) := by decide +kernel
  rw [Bool.eq_false_iff]
  intro breaks
  simp only [isLineBreak, Bool.or_eq_true, Bool.and_eq_true, decide_eq_true_eq,
    beq_iff_eq] at breaks
  rw [isPrintable] at printable
  simp only at printable
  split at printable
  next =>
    simp only [Bool.and_eq_true, decide_eq_true_eq] at printable
    omega
  next =>
    obtain ⟨range, member, inside⟩ := Array.any_eq_true'.1 printable
    obtain ⟨low, high⟩ := gaps range (Array.mem_toList_iff.2 member)
    simp only [Bool.and_eq_true, decide_eq_true_eq] at inside
    omega

end Text

/-! ### Reading a literal -/

namespace Reading

/-- The text of a literal between single quotes or double quotes and what follows the literal, read
on from within it. -/
def Scan.closing? : Scan → List Char → Option (List Char × List Char)
  | _, [] => none
  | s, c :: cs =>
    match s.step c with
    | some (s', []) => s'.closing? cs
    | some (_, [.text value]) => some (value.toList, cs)
    | _ => none

/-- The text of the string literal that characters begin with, and what follows the literal. Three
quotes open a literal that ends with the next three; with escapes in it, it is not read. One quote
opens a literal that ends with the next one that is not escaped. A null character is read like any
other, though a source file that holds one is refused as a whole. -/
def leadingLiteral? (cs : List Char) : Option (List Char × List Char) :=
  match cs with
  | a :: b :: c :: rest =>
    if a = '\'' ∨ a = '"' then
      if b = a ∧ c = a then (untilTriple a rest).filter fun (text, _) => '\\' ∉ text
      else (Scan.text a []).closing? (b :: c :: rest)
    else none
  | a :: rest => if a = '\'' ∨ a = '"' then (Scan.text a []).closing? rest else none
  | [] => none

variable {cs rest : List Char}

theorem Scan.Passes.closing? {s t : Scan} (passes : Scan.Passes cs s t) (rest : List Char) :
    s.closing? (cs ++ rest) = t.closing? rest := by
  induction passes with
  | nil => rfl
  | cons stepped _ ih =>
    rw [List.cons_append, Scan.closing?, stepped]
    exact ih

/-- A text in escaped form is read up to the quote behind it. -/
theorem closing?_flatMap_escapeChar {quote : Char} (isQuote : quote = '\'' ∨ quote = '"')
    (cs rest : List Char) :
    (Scan.text quote []).closing? (cs.flatMap (Text.escapeChar quote) ++ quote :: rest) =
      some (cs, rest) := by
  have closed : (Scan.text quote ([] ++ cs)).step quote =
      some (.between, [.text (String.ofList cs)]) := by
    rw [Scan.step, if_pos rfl, List.nil_append]
  rw [(passes_flatMap_escapeChar isQuote cs).closing?, Scan.closing?, closed]
  simp only [String.toList_ofList]

/-- The literal of a docstring is read up to its last quote. -/
theorem leadingLiteral?_docstringLiteral (cs rest : List Char) :
    leadingLiteral? (Emit.docstringLiteral cs ++ rest) = some (cs, rest) := by
  rw [Emit.docstringLiteral]
  by_cases quoting : Emit.needsQuoting cs
  · have isQuote := quoteFor_eq cs
    obtain ⟨c, more, rfl⟩ : ∃ c more, cs = c :: more := by
      refine List.exists_cons_of_ne_nil ?_
      rintro rfl
      cases quoting
    -- Three quotes in a row would be one that is not escaped.
    obtain ⟨first, escaped, begins, other⟩ := exists_escapeChar_eq isQuote c
    obtain ⟨third, tail, goesOn⟩ : ∃ third tail, escaped ++ more.flatMap
        (Text.escapeChar (Text.quoteFor (c :: more))) ++ Text.quoteFor (c :: more) :: rest =
          third :: tail :=
      List.exists_cons_of_ne_nil (by simp)
    have closed := closing?_flatMap_escapeChar isQuote (c :: more) rest
    rw [List.flatMap_cons, begins, List.cons_append, List.cons_append, goesOn] at closed
    rw [if_pos quoting, Text.quotedChars, List.flatMap_cons, begins]
    simp only [List.cons_append, List.append_assoc, List.nil_append] at goesOn ⊢
    rw [goesOn, leadingLiteral?, if_pos isQuote, if_neg fun same => other same.1, closed]
  · rw [if_neg quoting]
    simp only [Emit.needsQuoting, Bool.or_eq_true, not_or, beq_iff_eq, List.contains_iff_mem,
      Bool.not_eq_true] at quoting
    obtain ⟨⟨free, plain⟩, last⟩ := quoting
    simp only [List.cons_append, List.nil_append, List.append_assoc]
    rw [leadingLiteral?, if_pos (.inr rfl), if_pos ⟨rfl, rfl⟩, untilTriple_append free last]
    simp [plain]

/-- The literal of a first line has no line break. -/
theorem isLineBreak_eq_false_of_mem_docstringLiteral
    (stays : ∀ c ∈ cs, Text.isLineBreak c = false) :
    ∀ c ∈ Emit.docstringLiteral cs, Text.isLineBreak c = false := by
  intro c member
  have quotes (among : c ∈ ['"', '"', '"']) : Text.isLineBreak c = false := by
    obtain rfl : c = '"' := by simpa using among
    rfl
  rw [Emit.docstringLiteral] at member
  split at member
  · exact Text.isLineBreak_eq_false_of_isPrintable (isPrintable_of_mem_quotedChars member)
  · rcases List.mem_append.1 member with among | closing
    · rcases List.mem_append.1 among with opening | inside
      · exact quotes opening
      · exact stays c inside
    · exact quotes closing

end Reading

/-! ### Docstrings -/

namespace Emit

theorem docstring_of_blank {description : String} (indent : String)
    (blank : ∀ c ∈ description.toList, Text.isBlank c) : docstring description indent = [] := by
  have nothing := (Text.isTrimmed_trim description.toList).eq_nil_iff.2 blank
  rw [docstring, nothing]
  rfl

theorem docstring_of_not_blank {description : String} (indent : String)
    (solid : ¬∀ c ∈ description.toList, Text.isBlank c) :
    docstring description indent =
      [indent ++ String.ofList (docstringLiteral (summary description))] := by
  have something : Text.trim description.toList ≠ [] :=
    fun nothing => solid ((Text.isTrimmed_trim description.toList).eq_nil_iff.1 nothing)
  rw [docstring, if_neg (by simpa using something)]

/-- The first line of a description that is not made of blanks is not either. -/
theorem summary_ne_nil {description : String}
    (solid : ¬∀ c ∈ description.toList, Text.isBlank c) : summary description ≠ [] := by
  have stripped := Text.isTrimmed_trim description.toList
  have first := Text.isFirstLine_firstLine (Text.trim description.toList)
  obtain ⟨c, member, other⟩ := first.exists_not_isBlank stripped (solid ∘ stripped.eq_nil_iff.1)
  intro empty
  rw [(Text.isTrimmed_trim _).eq_nil_iff.1 empty c member] at other
  cases other

end Emit

/-- A description has no docstring exactly when it is made of blanks. Otherwise its docstring is one
line, the indentation and a literal without line breaks. A reader finds in the literal the first
line of the trimmed description, trimmed and not empty, and stops where the literal does, whatever
follows. -/
theorem docstring_denotes_first_line (description indent : String) :
    (Emit.docstring description indent = [] ↔ ∀ c ∈ description.toList, Text.isBlank c) ∧
      (¬(∀ c ∈ description.toList, Text.isBlank c) →
        ∃ literal : String, Emit.docstring description indent = [indent ++ literal] ∧
          (∀ c ∈ literal.toList, Text.isLineBreak c = false) ∧
          ∃ stripped line text, Text.IsTrimmed description.toList stripped ∧
            Text.IsFirstLine stripped line ∧ Text.IsTrimmed line text ∧ text ≠ [] ∧
            ∀ rest, Reading.leadingLiteral? (literal.toList ++ rest) = some (text, rest)) := by
  constructor
  · refine ⟨fun nothing => ?_, Emit.docstring_of_blank indent⟩
    by_contra solid
    cases nothing.symm.trans (Emit.docstring_of_not_blank indent solid)
  · intro solid
    have first := Text.isFirstLine_firstLine (Text.trim description.toList)
    refine ⟨_, Emit.docstring_of_not_blank indent solid, ?_, _, _, _, Text.isTrimmed_trim _, first,
      Text.isTrimmed_trim _, Emit.summary_ne_nil solid, fun rest => ?_⟩
    · obtain ⟨_, _, stays, _⟩ := first
      rw [String.toList_ofList]
      exact Reading.isLineBreak_eq_false_of_mem_docstringLiteral fun c member =>
        stays c (Reading.mem_of_mem_trim member)
    · rw [String.toList_ofList]
      exact Reading.leadingLiteral?_docstringLiteral _ rest

/-- Three quotes, and a backslash and a quote at the end of a first line, are read back. -/
theorem quotes_denote_first_line :
    ¬(∀ c ∈ "\n Says \"\"\"hi\\\" \u2028 and more".toList, Text.isBlank c) ∧
      ∃ literal : String,
        Emit.docstring "\n Says \"\"\"hi\\\" \u2028 and more" "  " = ["  " ++ literal] ∧
        ∀ rest, Reading.leadingLiteral? (literal.toList ++ rest) =
          some ("Says \"\"\"hi\\\"".toList, rest) := by
  have solid : ¬∀ c ∈ "\n Says \"\"\"hi\\\" \u2028 and more".toList, Text.isBlank c :=
    fun blank => absurd (blank 'S' (by decide)) (by decide)
  obtain ⟨literal, same, _, _, _, text, _, _, _, _, reads⟩ :=
    (docstring_denotes_first_line _ "  ").2 solid
  have written : Emit.docstring "\n Says \"\"\"hi\\\" \u2028 and more" "  " =
      ["  " ++ "'Says \"\"\"hi\\\\\"'"] := by decide +kernel
  obtain rfl := (String.append_right_inj "  ").1 (List.singleton_inj.1 (same.symm.trans written))
  have computed : Reading.leadingLiteral? "'Says \"\"\"hi\\\\\"'".toList =
      some ("Says \"\"\"hi\\\"".toList, []) := by decide +kernel
  have read := reads []
  rw [List.append_nil, computed] at read
  cases read
  exact ⟨solid, _, same, reads⟩

end Supergraph

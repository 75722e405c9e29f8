import Supergraph.Text.Name

/-!
# Identifiers of the emitted modules

Enum keys and enum values become identifiers of the emitted modules. A word that is no
identifier is mended character by character; a reserved word gets an underscore.

## Main definitions

* `reservedWords` — the words that no identifier may be
* `mend` — a word in which every character that no name holds is an underscore
* `escapeIdentifier` — the identifier that stands for a word

## Main results

* `isReserved_escapeIdentifier`, `isName_escapeIdentifier` — no identifier is reserved, and that of
  a name is a name
* `escapeIdentifier_eq_iff` — the names that have the same identifier
-/

namespace Supergraph.Text

/-- The reserved words of the emitted language. -/
def reservedWords : List String :=
  ["False", "None", "True", "and", "as", "assert", "async", "await", "break", "class", "continue",
    "def", "del", "elif", "else", "except", "finally", "for", "from", "global", "if", "import",
    "in", "is", "lambda", "nonlocal", "not", "or", "pass", "raise", "return", "try", "while",
    "with", "yield"]

/-- Whether a word is reserved. -/
def isReserved (word : String) : Bool :=
  reservedWords.contains word

/-- A word that is left as it is: a name, which may be followed by one line feed. -/
def isPlainWord (word : List Char) : Bool :=
  isName word || (word.getLast? == some '\n' && isName word.dropLast)

/-- Every character that no name holds becomes an underscore, and a word that is then empty or
begins with a digit gets one in front. -/
def mend (word : List Char) : List Char :=
  match word.map fun c => if isNamePart c then c else '_' with
  | [] => ['_']
  | c :: cs => if c.isDigit then '_' :: c :: cs else c :: cs

/-- The identifier that stands for a word in the emitted modules. -/
def escapeIdentifier (word : String) : String :=
  -- A mended word may be a reserved one.
  let base := if isPlainWord word.toList then word else String.ofList (mend word.toList)
  if isReserved base then base ++ "_" else base

theorem escapeIdentifier_of_isName {word : String} (named : isName word.toList) :
    escapeIdentifier word = if isReserved word then word ++ "_" else word := by
  have plain : isPlainWord word.toList = true := by
    rw [isPlainWord, named, Bool.true_or]
  rw [escapeIdentifier, if_pos plain]

/-- A reserved word with an underscore is not reserved. -/
theorem isReserved_append_underscore {word : String} (reserved : isReserved word) :
    isReserved (word ++ "_") = false := by
  have mended : ∀ w ∈ reservedWords, isReserved (w ++ "_") = false := by decide +kernel
  exact mended word (List.contains_iff_mem.1 reserved)

/-- Identifiers are not reserved. -/
theorem isReserved_escapeIdentifier (word : String) :
    isReserved (escapeIdentifier word) = false := by
  simp only [escapeIdentifier]
  generalize (if isPlainWord word.toList then word else String.ofList (mend word.toList)) = base
  split
  next reserved => exact isReserved_append_underscore reserved
  next other => simpa using other

/-- The identifier of a name is a name. -/
theorem isName_escapeIdentifier {word : String} (named : isName word.toList) :
    isName (escapeIdentifier word).toList := by
  rw [escapeIdentifier_of_isName named]
  split
  · obtain ⟨c, cs, spelled, starts, parts⟩ := exists_cons_of_isName named
    rw [String.toList_append, spelled]
    exact Bool.and_eq_true_iff.2 ⟨starts, by simpa [isNamePart] using parts⟩
  · exact named

/-- Two names have the same identifier when they are the same, and when one is a reserved word and
the other is this word with an underscore. -/
theorem escapeIdentifier_eq_iff {first second : String} (one : isName first.toList)
    (other : isName second.toList) :
    escapeIdentifier first = escapeIdentifier second ↔ first = second ∨
      (isReserved first ∧ second = first ++ "_") ∨ (isReserved second ∧ first = second ++ "_") := by
  rw [escapeIdentifier_of_isName one, escapeIdentifier_of_isName other]
  by_cases reserved : isReserved first <;> by_cases reservedToo : isReserved second
  · -- An underscore is added to both, and neither is the other with one.
    have noFirst : first ≠ second ++ "_" := by
      rintro rfl
      rw [isReserved_append_underscore reservedToo] at reserved
      cases reserved
    have noSecond : second ≠ first ++ "_" := by
      rintro rfl
      rw [isReserved_append_underscore reserved] at reservedToo
      cases reservedToo
    simp [reserved, reservedToo, noFirst, noSecond]
  · have different : first ≠ second := fun same => reservedToo (same ▸ reserved)
    simp [reserved, reservedToo, different, eq_comm]
  · have different : first ≠ second := fun same => reserved (same ▸ reservedToo)
    simp [reserved, reservedToo, different]
  · simp [reserved, reservedToo]

end Supergraph.Text

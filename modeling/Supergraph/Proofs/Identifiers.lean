import Mathlib.Tactic.Common
import Supergraph.Text.Identifier

/-!
# What escaping makes of a word

A word is left as it is when it is plain: when it is a name, or a name that one line feed follows.
Any other word is mended, which makes a name of it, and in the end a reserved word gets an
underscore. So an identifier is a name, unless a name came with a line feed, which is kept. The
identifiers are the words that escaping leaves as they are, and it merges two names only where one
is made of the other by the underscore.

## Main definitions

* `IsNameLine` — a name that one line feed follows

## Main results

* `isName_mend` — mended words are names
* `isPlainWord_escapeIdentifier`, `escapeIdentifier_eq_self_iff` — identifiers are plain and not
  reserved, and these are the words that are left as they are
* `identifier_is_name_iff` — when an identifier is a name
* `escaping_is_stable_and_merges_iff` — escaping twice, and the names that are merged
-/

namespace Supergraph.Text

/-- A name that one line feed follows. -/
def IsNameLine (word : List Char) : Prop :=
  ∃ name, isName name ∧ word = name ++ ['\n']

variable {word : String} {cs : List Char}

/-! ### Plain words -/

theorem isPlainWord_iff : isPlainWord cs ↔ isName cs ∨ IsNameLine cs := by
  rw [isPlainWord, Bool.or_eq_true, Bool.and_eq_true, beq_iff_eq]
  refine or_congr_right ?_
  constructor
  · rintro ⟨last, named⟩
    obtain ⟨name, rfl⟩ := List.getLast?_eq_some_iff.1 last
    rw [List.dropLast_concat] at named
    exact ⟨name, named, rfl⟩
  · rintro ⟨name, named, rfl⟩
    exact ⟨List.getLast?_concat, by rwa [List.dropLast_concat]⟩

/-- A name holds no line feed. -/
theorem IsNameLine.not_isName (line : IsNameLine cs) : ¬isName cs := by
  obtain ⟨name, _, rfl⟩ := line
  intro named
  have part := forall_isNamePart named '\n' (List.mem_append_right name List.mem_cons_self)
  cases part

theorem isName_of_isReserved (reserved : isReserved word) : isName word.toList := by
  have all : ∀ w ∈ reservedWords, isName w.toList := by decide +kernel
  exact all word (List.contains_iff_mem.1 reserved)

/-! ### Mended words -/

/-- Mending makes a name of every word: no digit is left in front. -/
theorem isName_mend (cs : List Char) : isName (mend cs) := by
  have parts : ∀ c ∈ cs.map fun c => if isNamePart c then c else '_', isNamePart c := by
    intro c member
    obtain ⟨d, _, rfl⟩ := List.mem_map.1 member
    split
    next part => exact part
    next => rfl
  rw [mend]
  generalize (cs.map fun c => if isNamePart c then c else '_') = mended at parts
  cases mended with
  | nil => rfl
  | cons c rest =>
    obtain ⟨part, others⟩ := List.forall_mem_cons.1 parts
    simp only
    split
    next =>
      have all : (c :: rest).all isNamePart := List.all_eq_true.2 parts
      rw [isName, all]
      rfl
    next other =>
      -- A part of a name that is no digit may begin one.
      have starts : isNameStart c := by
        simpa [isNamePart, Char.isAlphanum, other, isNameStart] using part
      exact Bool.and_eq_true_iff.2 ⟨starts, List.all_eq_true.2 others⟩

/-! ### Identifiers -/

/-- A plain word that is not reserved is its own identifier. -/
theorem escapeIdentifier_of_plain (plain : isPlainWord word.toList)
    (free : isReserved word = false) : escapeIdentifier word = word := by
  rw [escapeIdentifier, if_pos plain]
  simp [free]

/-- The identifier of a word that is not plain is that of a name, the mended word. -/
theorem escapeIdentifier_of_not_plain (other : ¬isPlainWord word.toList) :
    escapeIdentifier word = escapeIdentifier (String.ofList (mend word.toList)) := by
  have named : isName (String.ofList (mend word.toList)).toList := by
    rw [String.toList_ofList]
    exact isName_mend word.toList
  rw [escapeIdentifier_of_isName named, escapeIdentifier, if_neg other]

/-- The identifier of a word is a name, unless the word is a name with a line feed. -/
theorem isName_escapeIdentifier_of_not_isNameLine (other : ¬IsNameLine word.toList) :
    isName (escapeIdentifier word).toList := by
  by_cases plain : isPlainWord word.toList
  · exact isName_escapeIdentifier ((isPlainWord_iff.1 plain).resolve_right other)
  -- What is mended is a name, and the underscore keeps it one.
  · rw [escapeIdentifier_of_not_plain plain]
    refine isName_escapeIdentifier ?_
    rw [String.toList_ofList]
    exact isName_mend word.toList

/-- A name with a line feed is left as it is, since no reserved word has one. -/
theorem IsNameLine.escapeIdentifier_eq (line : IsNameLine word.toList) :
    escapeIdentifier word = word := by
  refine escapeIdentifier_of_plain (isPlainWord_iff.2 (.inr line)) ?_
  by_contra reserved
  rw [Bool.not_eq_false] at reserved
  exact line.not_isName (isName_of_isReserved reserved)

theorem isPlainWord_escapeIdentifier (word : String) :
    isPlainWord (escapeIdentifier word).toList := by
  rw [isPlainWord_iff]
  by_cases line : IsNameLine word.toList
  · rw [line.escapeIdentifier_eq]
    exact .inr line
  · exact .inl (isName_escapeIdentifier_of_not_isNameLine line)

/-- The words that are left as they are. -/
theorem escapeIdentifier_eq_self_iff :
    escapeIdentifier word = word ↔ isPlainWord word.toList ∧ isReserved word = false := by
  constructor
  · intro same
    exact same ▸ ⟨isPlainWord_escapeIdentifier word, isReserved_escapeIdentifier word⟩
  · rintro ⟨plain, free⟩
    exact escapeIdentifier_of_plain plain free

/-! ### Main results -/

/-- An identifier is never reserved. It is a name exactly when the word is not a name that one line
feed follows; such a word is its own identifier. -/
theorem identifier_is_name_iff (word : String) :
    isReserved (escapeIdentifier word) = false ∧
      (isName (escapeIdentifier word).toList ↔ ¬IsNameLine word.toList) ∧
      (IsNameLine word.toList → escapeIdentifier word = word) := by
  refine ⟨isReserved_escapeIdentifier word, ⟨?_, isName_escapeIdentifier_of_not_isNameLine⟩,
    IsNameLine.escapeIdentifier_eq⟩
  intro named line
  rw [line.escapeIdentifier_eq] at named
  exact line.not_isName named

/-- A line feed goes when there is more to mend, and stays when there is not. -/
theorem lines_of_names_keep_line_feed :
    isName (escapeIdentifier "2FA\n").toList ∧ IsNameLine "FA\n".toList ∧
      escapeIdentifier "FA\n" = "FA\n" := by
  have other : ¬IsNameLine "2FA\n".toList := by
    intro line
    exact absurd (isPlainWord_iff.2 (.inr line)) (by decide)
  have line : IsNameLine "FA\n".toList := ⟨"FA".toList, by decide, by decide⟩
  exact ⟨(identifier_is_name_iff _).2.1.2 other, line, (identifier_is_name_iff _).2.2 line⟩

/-- The identifier of a name with a line feed is no name. -/
theorem line_feed_stays_in_identifier :
    escapeIdentifier "ASTRONAUTS\n" = "ASTRONAUTS\n" ∧
      ¬isName (escapeIdentifier "ASTRONAUTS\n").toList := by
  decide

/-- Escaping an identifier again leaves it as it is. Two distinct names have the same identifier
exactly when one is a reserved word and the other this word with an underscore. -/
theorem escaping_is_stable_and_merges_iff :
    (∀ word, escapeIdentifier (escapeIdentifier word) = escapeIdentifier word) ∧
      ∀ first second : String, isName first.toList → isName second.toList → first ≠ second →
        (escapeIdentifier first = escapeIdentifier second ↔
          isReserved first ∧ second = first ++ "_" ∨
            isReserved second ∧ first = second ++ "_") := by
  constructor
  · intro word
    exact escapeIdentifier_eq_self_iff.2
      ⟨isPlainWord_escapeIdentifier word, isReserved_escapeIdentifier word⟩
  · intro first second one other distinct
    rw [escapeIdentifier_eq_iff one other, or_iff_right distinct]

/-- A reserved word and this word with an underscore are merged, and the word with two is not. -/
theorem reserved_word_merges_with_underscore :
    escapeIdentifier "class" = escapeIdentifier "class_" ∧
      escapeIdentifier "class" ≠ escapeIdentifier "class__" := by
  have merges := escaping_is_stable_and_merges_iff.2 "class"
  refine ⟨(merges "class_" ?_ ?_ ?_).2 ?_, fun same => ?_⟩
  · decide
  · decide
  · decide
  · exact .inl ⟨by decide, rfl⟩
  · exact absurd ((merges "class__" (by decide) (by decide) (by decide)).1 same) (by decide)

end Supergraph.Text

/-!
# Names

The names of the schema language are ASCII words: a letter or an underscore, then letters, digits
and underscores. The same words, less the reserved ones, are the identifiers of the emitted modules.

## Main definitions

* `isNameStart`, `isNamePart` — the characters a name begins with and goes on with
* `isName` — the words that are names

## Main results

* `exists_cons_of_isName`, `forall_isNamePart` — the first character of a name and all of them
-/

namespace Supergraph.Text

/-- A letter of the basic alphabet or an underscore. -/
def isNameStart (c : Char) : Bool :=
  c.isAlpha || c == '_'

/-- A letter of the basic alphabet, one of its ten digits, or an underscore. -/
def isNamePart (c : Char) : Bool :=
  c.isAlphanum || c == '_'

/-- A nonempty word that begins and goes on as a name does. -/
def isName : List Char → Bool
  | [] => false
  | c :: cs => isNameStart c && cs.all isNamePart

/-- What begins a name may also go on with it. -/
theorem isNamePart_of_isNameStart {c : Char} (h : isNameStart c = true) : isNamePart c = true := by
  simp only [isNameStart, isNamePart, Char.isAlphanum, Bool.or_eq_true] at h ⊢
  exact h.imp_left Or.inl

variable {cs : List Char} {c d : Char}

/-- A name has a first character. -/
theorem exists_cons_of_isName (named : isName cs) :
    ∃ first rest, cs = first :: rest ∧ isNameStart first ∧ ∀ c ∈ rest, isNamePart c := by
  cases cs with
  | nil => cases named
  | cons first rest =>
    obtain ⟨starts, parts⟩ := Bool.and_eq_true_iff.1 named
    exact ⟨first, rest, rfl, starts, List.all_eq_true.1 parts⟩

theorem forall_isNamePart (named : isName cs) : ∀ c ∈ cs, isNamePart c := by
  obtain ⟨first, rest, rfl, starts, parts⟩ := exists_cons_of_isName named
  exact List.forall_mem_cons.2 ⟨isNamePart_of_isNameStart starts, parts⟩

/-- The characters of names are apart from all others. -/
theorem ne_of_isNamePart (part : isNamePart c) (other : isNamePart d = false) : c ≠ d := by
  rintro rfl
  rw [part] at other
  cases other

end Supergraph.Text

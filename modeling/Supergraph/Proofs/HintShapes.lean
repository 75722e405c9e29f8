import Supergraph.Proofs.Shapes
import Supergraph.Text.Name

/-!
# What hints tell of references

The hint of a shape is the hint of its base in brackets after words: `Optional` where a value may be
null, `list` where it is a list. The hint of a base has no bracket, so that the words can be read
off the hint, and they tell the wrappers of the reference. Leaving out the outermost `Optional` says
what excluding null from the whole reference says.

## Main definitions

* `nested` — a hint in brackets after words
* `TypeRef.wrappers` — the wrappers of a reference
* `TypeRef.required`, `Shape.required` — a reference, or a shape, with null excluded from the whole
* `Shape.words` — the words of the hint of a shape
* `wordsOfWrappers`, `wrappersOfWords` — from wrappers to words and back

## Main results

* `nested_inj` — a hint in brackets tells the words and what is in the brackets
* `Shape.hint_eq`, `Shape.nonNullHint_eq` — hints as words around the hint of the base
* `Shape.words_eq_iff` — the words tell the wrappers
* `hint_tells_wrappers_iff` — hints, wrappers and bases
-/

namespace Supergraph

/-! ### Brackets after words -/

/-- A text without an opening bracket. -/
def IsBare (text : String) : Prop :=
  '[' ∉ text.toList

/-- A name of the schema language has no bracket. -/
theorem isBare_of_isName {name : String} (named : Text.isName name.toList) : IsBare name := by
  intro member
  exact absurd (Text.forall_isNamePart named '[' member) (by decide)

/-- A hint in brackets after a word. -/
def bracketed (word hint : String) : String :=
  word ++ "[" ++ hint ++ "]"

/-- A hint in brackets after words, the first of which stands outermost. -/
def nested (words : List String) (hint : String) : String :=
  words.foldr bracketed hint

section Brackets

variable {word other hint base : String}

theorem toList_bracketed (word hint : String) :
    (bracketed word hint).toList = word.toList ++ '[' :: (hint.toList ++ [']']) := by
  simp [bracketed]

/-- The word before the brackets ends at the first of them. -/
theorem takeWhile_bracketed (bare : IsBare word) (hint : String) :
    (bracketed word hint).toList.takeWhile (· != '[') = word.toList := by
  have letters : ∀ c ∈ word.toList, (c != '[') = true := by
    intro c member
    simp only [bne_iff_ne]
    rintro rfl
    exact bare member
  rw [toList_bracketed, List.takeWhile_append_of_pos letters,
    List.takeWhile_cons_of_neg (by simp), List.append_nil]

theorem bracketed_inj {inner : String} (bare : IsBare word) (bareToo : IsBare other) :
    bracketed word hint = bracketed other inner ↔ word = other ∧ hint = inner := by
  constructor
  · intro same
    have words : word.toList = other.toList := by
      rw [← takeWhile_bracketed bare hint, same, takeWhile_bracketed bareToo]
    obtain rfl := String.toList_inj.1 words
    have rests := congrArg String.toList same
    rw [toList_bracketed, toList_bracketed, List.append_cancel_left_eq, List.cons.injEq,
      List.append_cancel_right_eq] at rests
    exact ⟨rfl, String.toList_inj.1 rests.2⟩
  · rintro ⟨rfl, rfl⟩
    rfl

theorem bracketed_ne (bare : IsBare base) : bracketed word hint ≠ base := by
  rintro rfl
  refine bare ?_
  rw [toList_bracketed]
  simp

/-- The words and what is in the brackets are read off a hint. -/
theorem nested_inj {words others : List String} {inner : String} (bare : ∀ w ∈ words, IsBare w)
    (bareToo : ∀ w ∈ others, IsBare w) (bareBase : IsBare base) (bareInner : IsBare inner) :
    nested words base = nested others inner ↔ words = others ∧ base = inner := by
  induction words generalizing others with
  | nil =>
    -- Without words a hint has no bracket, which a hint with words has.
    cases others with
    | nil => simp [nested]
    | cons other others => simp [nested, (bracketed_ne bareBase).symm]
  | cons word words ih =>
    cases others with
    | nil => simp [nested, bracketed_ne bareInner]
    | cons other others =>
      obtain ⟨bareWord, bareWords⟩ := List.forall_mem_cons.1 bare
      obtain ⟨bareOther, bareOthers⟩ := List.forall_mem_cons.1 bareToo
      change bracketed word (nested words base) = bracketed other (nested others inner) ↔ _
      rw [bracketed_inj bareWord bareOther, ih bareWords bareOthers, List.cons.injEq, and_assoc]

end Brackets

/-! ### Wrappers -/

/-- What a reference is wrapped in. -/
inductive Wrapper where
  | list
  | nonNull
  deriving DecidableEq, Repr

namespace TypeRef

/-- The wrappers of a reference, from the outermost to the innermost. -/
def wrappers : TypeRef → List Wrapper
  | named _ | absent => []
  | list item => .list :: item.wrappers
  | nonNull item => .nonNull :: item.wrappers

/-- The reference with null excluded from the whole. -/
def required (type : TypeRef) : TypeRef :=
  if type.isNonNull then type else .nonNull type

end TypeRef

/-- The words of the hint of a reference in wrappers. -/
def wordsOfWrappers : List Wrapper → List String
  | [] => ["Optional"]
  | .list :: inner => "Optional" :: "list" :: wordsOfWrappers inner
  | .nonNull :: inner => (wordsOfWrappers inner).tail

/-- The wrappers of a reference whose hint has words. -/
def wrappersOfWords : List String → List Wrapper
  | [] => [.nonNull]
  | "list" :: inner => .nonNull :: .list :: wrappersOfWords inner
  | "Optional" :: "list" :: inner => .list :: wrappersOfWords inner
  | _ => []

namespace Shape

/-- The words of the hint without the outermost `Optional`. -/
def nonNullWords (s : Shape) : List String :=
  if s.isList then if s.elementNullable then ["list", "Optional"] else ["list"] else []

/-- The words of the hint. -/
def words (s : Shape) : List String :=
  if s.nullable then "Optional" :: s.nonNullWords else s.nonNullWords

/-- The shape with null excluded from the whole. -/
def required (s : Shape) : Shape :=
  if s.isList then { s with listNullable := false } else { s with elementNullable := false }

variable {schema : Schema} {type : TypeRef} {s t : Shape}

/-! ### Words and wrappers -/

theorem words_eq (wellFormed : s.IsWellFormed) :
    s.words = wordsOfWrappers s.toTypeRef.wrappers := by
  obtain ⟨kind, name, elementNullable, isList, listNullable⟩ := s
  cases isList with
  | false =>
    obtain rfl : listNullable = false := wellFormed rfl
    cases elementNullable <;> rfl
  | true => cases elementNullable <;> cases listNullable <;> rfl

theorem wrappers_toTypeRef (wellFormed : s.IsWellFormed) :
    s.toTypeRef.wrappers = wrappersOfWords s.words := by
  obtain ⟨kind, name, elementNullable, isList, listNullable⟩ := s
  cases isList with
  | false =>
    obtain rfl : listNullable = false := wellFormed rfl
    cases elementNullable <;> rfl
  | true => cases elementNullable <;> cases listNullable <;> rfl

/-- The words of hints tell the wrappers of references, and the wrappers tell the words. -/
theorem words_eq_iff (wellFormed : s.IsWellFormed) (wellFormedToo : t.IsWellFormed) :
    s.words = t.words ↔ s.toTypeRef.wrappers = t.toTypeRef.wrappers := by
  constructor
  · intro same
    rw [wrappers_toTypeRef wellFormed, same, wrappers_toTypeRef wellFormedToo]
  · intro same
    rw [words_eq wellFormed, same, words_eq wellFormedToo]

/-! ### Hints -/

theorem nonNullHint_eq (s : Shape) : s.nonNullHint = nested s.nonNullWords s.baseHint := by
  rw [nonNullHint, nonNullWords]
  cases s.isList with
  | false => rfl
  | true => cases s.elementNullable <;> rfl

theorem hint_eq (s : Shape) : s.hint = nested s.words s.baseHint := by
  rw [hint, words, nonNullHint_eq]
  cases s.nullable <;> rfl

theorem isBare_of_mem_words {word : String} (member : word ∈ s.words) : IsBare word := by
  have either : word = "Optional" ∨ word = "list" := by
    simp only [words, nonNullWords] at member
    grind
  rcases either with rfl | rfl <;> simp [IsBare]

/-- The hint of a base has no bracket if the name of the base is one of the schema language. -/
theorem isBare_baseHint (named : Text.isName s.name.toList) : IsBare s.baseHint := by
  rw [baseHint]
  cases s.kind with
  | enum => simp [IsBare]
  | object => exact isBare_of_isName named
  | scalar =>
    cases found : scalarHints.lookup s.name with
    | none => simp [IsBare, opaqueHint]
    | some hint =>
      have bare : ∀ entry ∈ scalarHints, IsBare entry.2 := by
        simp [scalarHints, IsBare]
      exact bare _ (Table.mem_of_lookup_eq_some found)

theorem hint_eq_hint_iff (wellFormed : s.IsWellFormed) (wellFormedToo : t.IsWellFormed)
    (named : Text.isName s.name.toList) (namedToo : Text.isName t.name.toList) :
    s.hint = t.hint ↔
      s.toTypeRef.wrappers = t.toTypeRef.wrappers ∧ s.baseHint = t.baseHint := by
  rw [hint_eq, hint_eq, ← words_eq_iff wellFormed wellFormedToo]
  exact nested_inj (fun _ => isBare_of_mem_words) (fun _ => isBare_of_mem_words)
    (isBare_baseHint named) (isBare_baseHint namedToo)

/-! ### Excluding null -/

/-- Excluding null from the whole leaves out the outermost `Optional`. -/
theorem hint_required (s : Shape) : s.required.hint = s.nonNullHint := by
  obtain ⟨kind, name, elementNullable, isList, listNullable⟩ := s
  cases isList <;> rfl

theorem toTypeRef_required (s : Shape) : s.required.toTypeRef = s.toTypeRef.required := by
  obtain ⟨kind, name, elementNullable, isList, listNullable⟩ := s
  cases isList with
  | false => cases elementNullable <;> rfl
  | true => cases listNullable <;> rfl

/-- A reference that has a shape has one when null is excluded from the whole. -/
theorem ofTypeRef_required (shaped : ofTypeRef schema type = .ok s) :
    ofTypeRef schema type.required = .ok s.required := by
  obtain ⟨rfl, wellFormed, known⟩ := ofTypeRef_eq_ok_iff.1 shaped
  refine ofTypeRef_eq_ok_iff.2 ⟨toTypeRef_required s, ?_, ?_⟩
  · obtain ⟨kind, name, elementNullable, isList, listNullable⟩ := s
    cases isList with
    | false => exact wellFormed
    | true => exact fun other => by cases other
  · obtain ⟨kind, name, elementNullable, isList, listNullable⟩ := s
    cases isList <;> exact known

end Shape

/-- Two references to types with names of the schema language have the same hint exactly when they
have the same wrappers and the hints of their bases are the same. The hint without the outermost
`Optional` is the hint of the reference from which null is excluded as a whole. -/
theorem hint_tells_wrappers_iff (schema : Schema) :
    (∀ first second s t, Shape.ofTypeRef schema first = .ok s →
      Shape.ofTypeRef schema second = .ok t → Text.isName s.name.toList →
      Text.isName t.name.toList →
        (s.hint = t.hint ↔ first.wrappers = second.wrappers ∧ s.baseHint = t.baseHint)) ∧
    ∀ type s, Shape.ofTypeRef schema type = .ok s →
      ∃ t, Shape.ofTypeRef schema type.required = .ok t ∧ s.nonNullHint = t.hint := by
  constructor
  · intro first second s t shaped shapedToo named namedToo
    obtain ⟨rfl, wellFormed, _⟩ := Shape.ofTypeRef_eq_ok_iff.1 shaped
    obtain ⟨rfl, wellFormedToo, _⟩ := Shape.ofTypeRef_eq_ok_iff.1 shapedToo
    exact Shape.hint_eq_hint_iff wellFormed wellFormedToo named namedToo
  · intro type s shaped
    exact ⟨s.required, Shape.ofTypeRef_required shaped, s.hint_required.symm⟩

/-- In the store lists of identifiers and lists of strings have one hint, since both are texts, and
lists of strings that are never null have another. -/
theorem storeSchema_hints :
    ∃ identifiers strings required : Shape,
      Shape.ofTypeRef (storeSchema "inventory" "reviews") (.list (.named "ID")) =
        .ok identifiers ∧
      Shape.ofTypeRef (storeSchema "inventory" "reviews") (.list (.named "String")) =
        .ok strings ∧
      Shape.ofTypeRef (storeSchema "inventory" "reviews") (.list (.nonNull (.named "String"))) =
        .ok required ∧
      identifiers.hint = strings.hint ∧ strings.hint ≠ required.hint ∧
      ∃ whole, Shape.ofTypeRef (storeSchema "inventory" "reviews")
        (.nonNull (.list (.named "ID"))) = .ok whole ∧ identifiers.nonNullHint = whole.hint := by
  obtain ⟨tells, whole⟩ := hint_tells_wrappers_iff (storeSchema "inventory" "reviews")
  refine ⟨⟨.scalar, "ID", true, true, true⟩, ⟨.scalar, "String", true, true, true⟩,
    ⟨.scalar, "String", false, true, true⟩, rfl, rfl, rfl, ?_, ?_,
    whole (.list (.named "ID")) _ rfl⟩
  · exact (tells (.list (.named "ID")) (.list (.named "String")) _ _ rfl rfl
      (by decide) (by decide)).2 ⟨rfl, rfl⟩
  · intro same
    have wrapped := (tells (.list (.named "String")) (.list (.nonNull (.named "String"))) _ _
      rfl rfl (by decide) (by decide)).1 same
    cases wrapped.1

end Supergraph

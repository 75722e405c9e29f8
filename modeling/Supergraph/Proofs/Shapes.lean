import Supergraph.Proofs.Conservation
import Supergraph.Proofs.References

/-!
# Which references have a shape

A reference has a shape when it is the name of a type, or a list of it, with null excluded from the
items, from the whole, or from both. The shape says all that the reference says: written as a
reference again it is the same, and no two shapes are written alike. The walk down a reference
refuses a second list and a second exclusion of null before it has come below more wrappers than any
reference with a shape has, so that its limit of depth is never met.

## Main definitions

* `TypeRef.IsFlat` — the six forms of references to a name
* `Shape.toTypeRef` — the reference that a shape describes
* `Shape.IsWellFormed` — shapes that say nothing of a list that is none
* `Shape.within` — a reference in the wrappers that have been crossed on the way down to it

## Main results

* `Shape.of_descend` — the walk keeps what it has crossed
* `Shape.descend_ne_tooDeep` — the walk does not meet its limit
* `Shape.ofTypeRef_eq_ok_iff` — the shape of a reference is the one that describes it
* `shape_of_reference_iff` — the references that have a shape, and what becomes of the others
-/

namespace Supergraph

namespace TypeRef

/-- The reference, with null excluded from it unless it may be null. -/
def marked (type : TypeRef) (nullable : Bool) : TypeRef :=
  if nullable then type else .nonNull type

/-- The references to a name with at most one list and without an exclusion of null that is made
twice. -/
inductive IsFlat (name : String) : TypeRef → Prop
  | named : IsFlat name (.named name)
  | required : IsFlat name (.nonNull (.named name))
  | list : IsFlat name (.list (.named name))
  | listOfRequired : IsFlat name (.list (.nonNull (.named name)))
  | requiredList : IsFlat name (.nonNull (.list (.named name)))
  | requiredListOfRequired : IsFlat name (.nonNull (.list (.nonNull (.named name))))

end TypeRef

namespace Shape

/-- The reference that a shape describes. -/
def toTypeRef (s : Shape) : TypeRef :=
  let item := (TypeRef.named s.name).marked s.elementNullable
  if s.isList then (TypeRef.list item).marked s.listNullable else item

/-- A shape that is no list does not say that the list may be null. -/
def IsWellFormed (s : Shape) : Prop :=
  s.isList = false → s.listNullable = false

variable {schema : Schema} {type : TypeRef} {shape : Shape} {depth : Nat} {nullable : Bool}
  {listNullable : Option Bool}

/-! ### Walking down -/

/-- A reference in the wrappers that have been crossed on the way down to it: the last exclusion of
null, and the list with its own. -/
def within (nullable : Bool) (listNullable : Option Bool) (type : TypeRef) : TypeRef :=
  match listNullable with
  | none => type.marked nullable
  | some whole => (TypeRef.list (type.marked nullable)).marked whole

theorem within_nonNull (listNullable : Option Bool) (item : TypeRef) :
    within true listNullable (.nonNull item) = within false listNullable item := by
  cases listNullable <;> rfl

theorem within_list (nullable : Bool) (item : TypeRef) :
    within nullable none (.list item) = within true (some nullable) item :=
  rfl

/-- The shape that a walk ends with describes the reference it has come to in the wrappers it has
crossed. -/
theorem of_descend (shaped : descend schema depth nullable listNullable type = .ok shape) :
    shape.toTypeRef = within nullable listNullable type ∧ shape.IsWellFormed := by
  fun_induction descend schema depth nullable listNullable type with
  | case1 => cases shaped
  | case2 _ _ _ _ ih =>
    -- What may be null so far is now what excludes it.
    rw [within_nonNull]
    exact ih shaped
  | case3 => cases shaped
  | case4 => cases shaped
  | case5 _ _ _ _ ih =>
    -- What has been said of null so far was said of the list.
    rw [within_list]
    exact ih shaped
  | case6 _ _ listNullable _ =>
    obtain ⟨kind, _, last⟩ := bind_except_eq_ok_iff.1 shaped
    cases last
    cases listNullable with
    | none => exact ⟨rfl, fun _ => rfl⟩
    | some whole => exact ⟨rfl, fun other => by cases other⟩
  | case7 => cases shaped

/-- The wrappers that a walk may still cross: an exclusion of null, and a list with one in it. -/
def wrappersLeft (nullable : Bool) (listNullable : Option Bool) : Nat :=
  nullable.toNat + if listNullable.isNone then 2 else 0

/-- A walk that has kept within the limit keeps within it. -/
theorem descend_ne_tooDeep (room : depth + wrappersLeft nullable listNullable ≤ maxWrappers) :
    descend schema depth nullable listNullable type ≠ .error .tooDeep := by
  fun_induction descend schema depth nullable listNullable type with
  | case1 _ _ _ _ beyond => omega
  | case2 _ listNullable _ _ ih =>
    refine ih ?_
    have crossed : wrappersLeft true listNullable = wrappersLeft false listNullable + 1 := by
      simp [wrappersLeft, Nat.add_comm]
    omega
  | case3 => simp
  | case4 => simp
  | case5 _ nullable _ _ ih =>
    refine ih ?_
    have crossed : wrappersLeft true (some nullable) + 1 ≤ wrappersLeft nullable none := by
      simp [wrappersLeft]
    omega
  | case6 =>
    intro failed
    rcases bind_except_eq_error_iff.1 failed with unknown | ⟨_, _, last⟩
    · rw [Schema.baseKind] at unknown
      split at unknown <;> cases unknown
    · cases last
  | case7 => simp

/-! ### References and shapes -/

theorem ofTypeRef_ne_tooDeep : ofTypeRef schema type ≠ .error .tooDeep :=
  descend_ne_tooDeep (Nat.le_refl maxWrappers)

/-- The reference that a shape describes is flat. -/
theorem isFlat_toTypeRef (s : Shape) : s.toTypeRef.IsFlat s.name := by
  obtain ⟨kind, name, elementNullable, isList, listNullable⟩ := s
  cases isList <;> cases elementNullable <;> cases listNullable <;> constructor

/-- The shape of the reference that a shape describes is that shape. -/
theorem ofTypeRef_toTypeRef (wellFormed : shape.IsWellFormed)
    (known : schema.baseKind shape.name = .ok shape.kind) :
    ofTypeRef schema shape.toTypeRef = .ok shape := by
  obtain ⟨kind, name, elementNullable, isList, listNullable⟩ := shape
  cases isList with
  | false =>
    obtain rfl : listNullable = false := wellFormed rfl
    cases elementNullable <;>
      simp [toTypeRef, TypeRef.marked, ofTypeRef, descend, maxWrappers, known]
  | true =>
    cases elementNullable <;> cases listNullable <;>
      simp [toTypeRef, TypeRef.marked, ofTypeRef, descend, maxWrappers, known]

/-- The shape of a reference is the one that describes it and has the kind of its base. -/
theorem ofTypeRef_eq_ok_iff :
    ofTypeRef schema type = .ok shape ↔
      shape.toTypeRef = type ∧ shape.IsWellFormed ∧
        schema.baseKind shape.name = .ok shape.kind := by
  constructor
  · intro shaped
    obtain ⟨described, wellFormed⟩ := of_descend shaped
    exact ⟨described, wellFormed, baseKind_of_ofTypeRef shaped⟩
  · rintro ⟨rfl, wellFormed, known⟩
    exact ofTypeRef_toTypeRef wellFormed known

theorem exists_baseKind_iff {name : String} :
    (∃ kind, schema.baseKind name = .ok kind) ↔ (schema.body? name).isSome := by
  rw [Schema.baseKind]
  cases schema.body? name <;> simp

end Shape

namespace TypeRef.IsFlat

variable {name : String} {type : TypeRef}

theorem baseName_eq (flat : type.IsFlat name) : type.baseName = .ok name := by
  cases flat <;> rfl

/-- Every flat reference is described by a shape, of whatever kind its base is. -/
theorem exists_shape (flat : type.IsFlat name) (kind : BaseKind) :
    ∃ shape : Shape, shape.toTypeRef = type ∧ shape.IsWellFormed ∧ shape.name = name ∧
      shape.kind = kind := by
  cases flat with
  | named => exact ⟨⟨kind, name, true, false, false⟩, rfl, fun _ => rfl, rfl, rfl⟩
  | required => exact ⟨⟨kind, name, false, false, false⟩, rfl, fun _ => rfl, rfl, rfl⟩
  | list => exact ⟨⟨kind, name, true, true, true⟩, rfl, nofun, rfl, rfl⟩
  | listOfRequired => exact ⟨⟨kind, name, false, true, true⟩, rfl, nofun, rfl, rfl⟩
  | requiredList => exact ⟨⟨kind, name, true, true, false⟩, rfl, nofun, rfl, rfl⟩
  | requiredListOfRequired => exact ⟨⟨kind, name, false, true, false⟩, rfl, nofun, rfl, rfl⟩

end TypeRef.IsFlat

/-- The references that have a shape are the flat ones to types of the schema. -/
theorem Shape.exists_ofTypeRef_iff {schema : Schema} {type : TypeRef} :
    (∃ shape, Shape.ofTypeRef schema type = .ok shape) ↔
      ∃ name, type.IsFlat name ∧ (schema.body? name).isSome := by
  simp only [ofTypeRef_eq_ok_iff, ← exists_baseKind_iff]
  constructor
  · rintro ⟨shape, rfl, _, known⟩
    exact ⟨shape.name, isFlat_toTypeRef shape, shape.kind, known⟩
  · rintro ⟨name, flat, kind, known⟩
    obtain ⟨shape, described, wellFormed, rfl, rfl⟩ := flat.exists_shape kind
    exact ⟨shape, described, wellFormed, known⟩

/-- A reference has a shape exactly when it is flat and refers to a type of the schema. The shape is
the only one that is written as this reference and has the kind of the type, and it has the name
under all wrappers. A reference without a shape is refused for what it is, and never because the
walk has come too deep. -/
theorem shape_of_reference_iff (schema : Schema) (type : TypeRef) :
    ((∃ shape, Shape.ofTypeRef schema type = .ok shape) ↔
        ∃ name, type.IsFlat name ∧ (schema.body? name).isSome) ∧
      (∀ shape, Shape.ofTypeRef schema type = .ok shape ↔ shape.toTypeRef = type ∧
        shape.IsWellFormed ∧ schema.baseKind shape.name = .ok shape.kind) ∧
      (∀ shape, Shape.ofTypeRef schema type = .ok shape → type.baseName = .ok shape.name) ∧
      ((¬∃ name, type.IsFlat name ∧ (schema.body? name).isSome) →
        ∃ cause ≠ UnsupportedType.tooDeep, Shape.ofTypeRef schema type = .error cause) := by
  refine ⟨Shape.exists_ofTypeRef_iff, fun shape => Shape.ofTypeRef_eq_ok_iff, ?named, ?refused⟩
  case named =>
    intro shape shaped
    obtain ⟨rfl, _⟩ := Shape.ofTypeRef_eq_ok_iff.1 shaped
    exact (Shape.isFlat_toTypeRef shape).baseName_eq
  case refused =>
    intro other
    rw [← Shape.exists_ofTypeRef_iff, ← exists_error_iff] at other
    obtain ⟨cause, failed⟩ := other
    refine ⟨cause, ?_, failed⟩
    rintro rfl
    exact Shape.ofTypeRef_ne_tooDeep failed

/-- In the store a list of names that are never null has a shape, and a list of lists has none. -/
theorem storeSchema_shapes :
    (∃ shape, shape = ⟨.scalar, "String", false, true, true⟩ ∧
      Shape.ofTypeRef (storeSchema "inventory" "reviews")
        (.list (.nonNull (.named "String"))) = .ok shape ∧
      shape.toTypeRef = .list (.nonNull (.named "String"))) ∧
    ∃ cause ≠ UnsupportedType.tooDeep, Shape.ofTypeRef (storeSchema "inventory" "reviews")
      (.nonNull (.list (.nonNull (.list (.nonNull (.named "String")))))) = .error cause := by
  constructor
  · obtain ⟨_, describes, _⟩ := shape_of_reference_iff (storeSchema "inventory" "reviews")
      (.list (.nonNull (.named "String")))
    exact ⟨_, rfl, (describes _).2 ⟨rfl, nofun, rfl⟩, rfl⟩
  · obtain ⟨_, _, _, refused⟩ := shape_of_reference_iff (storeSchema "inventory" "reviews")
      (.nonNull (.list (.nonNull (.list (.nonNull (.named "String"))))))
    refine refused ?_
    rintro ⟨_, flat, _⟩
    cases flat

end Supergraph

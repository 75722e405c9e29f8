import Mathlib.Data.List.Nodup
import Supergraph.Sdl.DocumentRules
import Supergraph.Sdl.Meaning

/-!
# What literals mean

A literal in which no object has a member twice means a value whose records have members of distinct
names.

## Main definitions

* `Value.FloatFree`, `Value.IsDistinct` — values without floating-point numbers and without members
  of the same name
* `Value.isFloatFree` — whether a value has no floating-point numbers
* `Sdl.Literal.IsClean` — literals whose objects have no member twice

## Main results

* `Value.isFloatFree_iff` — the two agree
* `Sdl.Literal.IsClean.isDistinct_value` — what such a literal means
-/

namespace Supergraph

namespace Value

/-- A value in which no floating-point number occurs. The undefined number is one, which is what an
integer means that is too long to be read. -/
inductive FloatFree : Value → Prop
  | null : FloatFree .null
  | bool (b : Bool) : FloatFree (.bool b)
  | int (n : Int) : FloatFree (.int n)
  | text (s : String) : FloatFree (.text s)
  | list {items : List Value} (each : ∀ v ∈ items, FloatFree v) : FloatFree (.list items)
  | record {members : List (String × Value)} (each : ∀ m ∈ members, FloatFree m.2) :
      FloatFree (.record members)

mutual

/-- Whether no floating-point number occurs in a value. -/
def isFloatFree : Value → Bool
  | .null | .bool _ | .int _ | .text _ => true
  | .float _ => false
  | .list items => areFloatFree items
  | .record members => membersFloatFree members

/-- Whether none occurs in any item. -/
def areFloatFree : List Value → Bool
  | [] => true
  | v :: rest => isFloatFree v && areFloatFree rest

/-- Whether none occurs in the value of any member. -/
def membersFloatFree : List (String × Value) → Bool
  | [] => true
  | (_, v) :: rest => isFloatFree v && membersFloatFree rest

end

theorem floatFree_list_iff {items : List Value} :
    FloatFree (.list items) ↔ ∀ v ∈ items, FloatFree v := by
  constructor
  · intro free
    cases free with
    | list each => exact each
  · exact .list

theorem floatFree_record_iff {members : List (String × Value)} :
    FloatFree (.record members) ↔ ∀ m ∈ members, FloatFree m.2 := by
  constructor
  · intro free
    cases free with
    | record each => exact each
  · exact .record

mutual

theorem isFloatFree_iff : ∀ v : Value, v.isFloatFree ↔ v.FloatFree
  | .null => iff_of_true rfl .null
  | .bool b => iff_of_true rfl (.bool b)
  | .int n => iff_of_true rfl (.int n)
  | .text s => iff_of_true rfl (.text s)
  | .float _ => iff_of_false Bool.false_ne_true nofun
  | .list items => by rw [isFloatFree, areFloatFree_iff, floatFree_list_iff]
  | .record members => by rw [isFloatFree, membersFloatFree_iff, floatFree_record_iff]

theorem areFloatFree_iff : ∀ items : List Value, areFloatFree items ↔ ∀ v ∈ items, v.FloatFree
  | [] => by simp [areFloatFree]
  | v :: rest => by
    rw [areFloatFree, Bool.and_eq_true, isFloatFree_iff v, areFloatFree_iff rest,
      List.forall_mem_cons]

theorem membersFloatFree_iff : ∀ members : List (String × Value),
    membersFloatFree members ↔ ∀ m ∈ members, m.2.FloatFree
  | [] => by simp [membersFloatFree]
  | (_, v) :: rest => by
    rw [membersFloatFree, Bool.and_eq_true, isFloatFree_iff v, membersFloatFree_iff rest,
      List.forall_mem_cons]

end

instance (v : Value) : Decidable v.FloatFree :=
  decidable_of_iff _ (isFloatFree_iff v)

/-- A value whose records, at every depth, have members of distinct names. -/
inductive IsDistinct : Value → Prop
  | null : IsDistinct .null
  | bool (b : Bool) : IsDistinct (.bool b)
  | int (n : Int) : IsDistinct (.int n)
  | float (x : Binary64) : IsDistinct (.float x)
  | text (s : String) : IsDistinct (.text s)
  | list {items : List Value} (each : ∀ v ∈ items, IsDistinct v) : IsDistinct (.list items)
  | record {members : List (String × Value)} (distinct : (members.map Prod.fst).Nodup)
      (each : ∀ m ∈ members, IsDistinct m.2) : IsDistinct (.record members)

end Value

namespace Sdl

/-- No object in the literal has a member twice. -/
def Literal.IsClean (l : Literal) : Prop :=
  literalViolations l = []

mutual

theorem isDistinct_value : ∀ l : Literal, l.IsClean → l.value.IsDistinct
  | .null, _ => .null
  | .bool b, _ => .bool b
  | .int text, _ => by
    rw [Literal.value, integerValue]
    split
    · exact .int _
    · exact .float _
  | .float _, _ => .float _
  | .string s, _ => .text s
  | .enum name, _ => .text name
  | .list items, clean => .list (isDistinct_itemValues items clean)
  | .object members, clean => by
    obtain ⟨distinct, _, each⟩ := isDistinct_memberValues members [] clean
    exact .record distinct each
  | .variable _, _ => .null

theorem isDistinct_itemValues : ∀ items : List Literal, itemViolations items = [] →
    ∀ v ∈ Literal.itemValues items, v.IsDistinct
  | [], _ => by simp [Literal.itemValues]
  | item :: rest, clean => by
    obtain ⟨first, others⟩ := List.append_eq_nil_iff.1 clean
    exact List.forall_mem_cons.2
      ⟨isDistinct_value item first, isDistinct_itemValues rest others⟩

/-- Members are new when they come, so that they are distinct. -/
theorem isDistinct_memberValues : ∀ (members : List (String × Literal)) (seen : List String),
    memberViolations seen members = [] →
      ((Literal.memberValues members).map Prod.fst).Nodup ∧
      (∀ m ∈ Literal.memberValues members, m.1 ∉ seen) ∧
      ∀ m ∈ Literal.memberValues members, m.2.IsDistinct
  | [], _, _ => by simp [Literal.memberValues]
  | (name, item) :: rest, seen, clean => by
    obtain ⟨here, others⟩ := List.append_eq_nil_iff.1 clean
    obtain ⟨fresh, value⟩ := List.append_eq_nil_iff.1 here
    obtain ⟨distinct, new, each⟩ := isDistinct_memberValues rest (name :: seen) others
    have unseen : name ∉ seen := by
      intro member
      simp [member] at fresh
    refine ⟨List.nodup_cons.2 ⟨fun again => ?_, distinct⟩, ?_, ?_⟩
    · obtain ⟨m, member, rfl⟩ := List.mem_map.1 again
      exact new m member List.mem_cons_self
    · exact List.forall_mem_cons.2 ⟨unseen, fun m member inside =>
        new m member (List.mem_cons_of_mem name inside)⟩
    · exact List.forall_mem_cons.2 ⟨isDistinct_value item value, each⟩

end

/-- A literal in which nothing is repeated means a value with distinct members. -/
theorem Literal.IsClean.isDistinct_value {l : Literal} (clean : l.IsClean) : l.value.IsDistinct :=
  Sdl.isDistinct_value l clean

end Sdl

end Supergraph

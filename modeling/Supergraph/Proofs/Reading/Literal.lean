import Supergraph.Proofs.Reading.Evaluation
import Supergraph.Proofs.Reading.Value
import Supergraph.Proofs.Values

/-!
# Literals

An expression without names is a literal: texts, the three constants, integers, lists and dicts. The
literal of a value without floating-point numbers gives the value back, provided that no record has
two members of a name, for a dict keeps only one of them.

## Main definitions

* `Expr.literal?` — the value of a literal

## Main results

* `literal?_dict` — the value of a dict with distinct keys
* `literal?_ofValue` — the literal of a value gives the value
-/

namespace Supergraph

namespace Reading

/-- The number that a run of digits is. -/
def natural? (cs : List Char) : Option Nat :=
  if cs ≠ [] ∧ cs.all Char.isDigit then some (Nat.ofDigitChars 10 cs 0) else none

/-- The integer that a word is: digits, which may have a minus before them. -/
def integer? : List Char → Option Int
  | '-' :: cs => (natural? cs).map fun (n : Nat) => -(n : Int)
  | cs => (natural? cs).map fun (n : Nat) => (n : Int)

/-- The value of a word: a constant or an integer. -/
def wordValue? (w : String) : Option Value :=
  if w = "None" then some .null
  else if w = "True" then some (.bool true)
  else if w = "False" then some (.bool false)
  else (integer? w.toList).map .int

namespace Expr

mutual

/-- The value of a literal. Of members with the same key the last value counts, where the first
stood. -/
def literal? : Expr → Option Value
  | text s => some (.text s)
  | word w => wordValue? w
  | list items => (literals? items).map .list
  | dict members => (memberLiterals? members).map fun ms => .record (Table.ofList ms).entries

/-- The values of the items of a list. -/
def literals? : List Expr → Option (List Value)
  | [] => some []
  | e :: es =>
    match literal? e, literals? es with
    | some v, some vs => some (v :: vs)
    | _, _ => none

/-- The keys and values of the members of a dict. Keys are texts. -/
def memberLiterals? : List (Expr × Expr) → Option (List (String × Value))
  | [] => some []
  | (k, e) :: rest =>
    match literal? k, literal? e, memberLiterals? rest with
    | some (.text key), some v, some ms => some ((key, v) :: ms)
    | _, _, _ => none

end

end Expr

/-! ### Words -/

theorem natural?_toString (n : Nat) : natural? (toString n).toList = some n := by
  have digits : (toString n).toList = Nat.toDigits 10 n := by
    rw [Nat.toString_eq_ofList_toDigits, String.toList_ofList]
  have all : (Nat.toDigits 10 n).all Char.isDigit := by
    rw [List.all_eq_true]
    intro c member
    exact Nat.isDigit_of_mem_toDigits (by decide) (by decide) member
  rw [digits, natural?, if_pos ⟨Nat.toDigits_ne_nil, all⟩, Nat.ofDigitChars_ten_toDigits]

/-- A run of digits begins with no minus. -/
theorem integer?_of_natural? {cs : List Char} {n : Nat} (read : natural? cs = some n) :
    integer? cs = some (n : Int) := by
  rw [integer?.eq_def]
  split
  next rest =>
    rw [natural?, if_neg (by simp)] at read
    cases read
  next => rw [read, Option.map_some]

theorem integer?_toString (n : Int) : integer? (toString n).toList = some n := by
  cases n with
  | ofNat m => exact integer?_of_natural? (natural?_toString m)
  | negSucc m =>
    have spelled : (toString (Int.negSucc m)).toList = '-' :: (toString (m + 1)).toList := by
      change ("-" ++ toString (m + 1)).toList = _
      rw [String.toList_append]
      rfl
    rw [spelled, integer?, natural?_toString, Option.map_some]
    rfl

theorem wordValue?_toString (n : Int) : wordValue? (toString n) = some (.int n) := by
  have read := integer?_toString n
  -- The constants are no integers.
  have other : ∀ w : String, integer? w.toList = none → toString n ≠ w := by
    intro w unread same
    rw [same, unread] at read
    cases read
  rw [wordValue?, if_neg (other "None" (by decide)), if_neg (other "True" (by decide)),
    if_neg (other "False" (by decide)), read, Option.map_some]

/-! ### Dicts -/

theorem literal?_dict {members : List (Expr × Expr)} {entries : List (String × Value)}
    (each : List.Forall₂ (fun m e => m.1 = .text e.1 ∧ m.2.literal? = some e.2) members entries)
    (distinct : (entries.map Prod.fst).Nodup) :
    (Expr.dict members).literal? = some (.record entries) := by
  have read : Expr.memberLiterals? members = some entries := by
    clear distinct
    induction each with
    | nil => rfl
    | @cons m e _ _ first _ ih =>
      obtain ⟨k, value⟩ := m
      obtain ⟨rfl, valued⟩ := first
      rw [Expr.memberLiterals?, Expr.literal?, valued, ih]
  rw [Expr.literal?, read, Option.map_some, Table.entries_ofList distinct]

/-- A dict whose members are made of items with distinct keys. -/
theorem literal?_dict_map {α : Type} {items : List α} {key : α → String} {expr : α → Expr}
    {value : α → Value} (each : ∀ x ∈ items, (expr x).literal? = some (value x))
    (distinct : (items.map key).Nodup) :
    (Expr.dict (items.map fun x => (.text (key x), expr x))).literal? =
      some (.record (items.map fun x => (key x, value x))) := by
  refine literal?_dict ?_ ?_
  · rw [List.forall₂_map_left_iff, List.forall₂_map_right_iff]
    exact List.forall₂_same.2 fun x member => ⟨rfl, each x member⟩
  · rwa [List.map_map]

/-! ### Values -/

theorem literals?_ofValues {items : List Value}
    (each : ∀ v ∈ items, (Expr.ofValue v).literal? = some v) :
    Expr.literals? (Expr.ofValues items) = some items := by
  induction items with
  | nil => rfl
  | cons v items ih =>
    obtain ⟨first, others⟩ := List.forall_mem_cons.1 each
    rw [Expr.ofValues, Expr.literals?, first, ih others]

theorem ofMembers_eq (members : List (String × Value)) :
    Expr.ofMembers members = members.map fun m => (.text m.1, Expr.ofValue m.2) := by
  induction members with
  | nil => rfl
  | cons m members ih => rw [Expr.ofMembers, ih, List.map_cons]

/-- The literal of a value gives the value back. -/
theorem literal?_ofValue {v : Value} (free : v.FloatFree) (distinct : v.IsDistinct) :
    (Expr.ofValue v).literal? = some v := by
  induction free with
  | null => rfl
  | bool b => cases b <;> rfl
  | int n => exact wordValue?_toString n
  | text s => rfl
  | @list items _ ih =>
    cases distinct with
    | list each =>
      rw [Expr.ofValue, Expr.literal?, literals?_ofValues fun v member =>
        ih v member (each v member)]
      rfl
  | @record members _ ih =>
    cases distinct with
    | record distinct each =>
      -- Of members of one name only one would be kept.
      have read := literal?_dict_map (fun m member => ih m member (each m member)) distinct
      rw [Expr.ofValue, ofMembers_eq, read]
      simp

end Reading

end Supergraph

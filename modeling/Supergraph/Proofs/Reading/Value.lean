import Supergraph.Proofs.Reading.Spelling
import Supergraph.Value

/-!
# Values as expressions

The literal of a value spells the expression that the value is: numbers and constants are words,
texts are texts, lists are lists and records are dicts.

## Main definitions

* `Expr.ofValue` — the expression that a value is

## Main results

* `isWord_int`, `isWord_float` — numbers are words
* `spells_literal` — the literal of a value spells its expression
-/

namespace Supergraph.Reading

namespace Expr

mutual

/-- The expression that a value is. -/
def ofValue : Value → Expr
  | .null => .word "None"
  | .bool b => .word (if b then "True" else "False")
  | .int n => .word (toString n)
  | .float x => .word (Value.floatLayout.write x)
  | .text s => .text s
  | .list items => .list (ofValues items)
  | .record members => .dict (ofMembers members)

/-- The expressions of the items of a list. -/
def ofValues : List Value → List Expr
  | [] => []
  | v :: vs => ofValue v :: ofValues vs

/-- The members of the dict that a record is. -/
def ofMembers : List (String × Value) → List (Expr × Expr)
  | [] => []
  | (name, v) :: rest => (.text name, ofValue v) :: ofMembers rest

end

end Expr

/-! ### Numbers -/

section Words

theorem isWordChar_of_isDigit {c : Char} (digit : c.isDigit) : isWordChar c := by
  simp [isWordChar, Char.isAlphanum, digit]

theorem isWord_nat (n : Nat) : IsWord (toString n).toList := by
  have digits : (toString n).toList = Nat.toDigits 10 n := by
    simp [toString, Nat.repr_eq_ofList_toDigits]
  rw [digits]
  refine ⟨Nat.toDigits_ne_nil, fun c member => ?_⟩
  exact isWordChar_of_isDigit (Nat.isDigit_of_mem_toDigits (by decide) (by decide) member)

theorem isWord_int (n : Int) : IsWord (toString n).toList := by
  cases n with
  | ofNat m => exact isWord_nat m
  | negSucc m =>
    have spelled : (toString (Int.negSucc m)).toList = '-' :: (toString (m + 1)).toList := by
      change ("-" ++ toString (m + 1)).toList = _
      rw [String.toList_append]
      rfl
    rw [spelled]
    exact ⟨List.cons_ne_nil _ _, (isWord_nat (m + 1)).2.cons rfl⟩

theorem letters_replicate (n : Nat) : Letters (List.replicate n '0') := by
  intro c member
  rw [(List.mem_replicate.1 member).2]
  rfl

theorem letters_ite (condition : Prop) [Decidable condition] {a b : String}
    (first : Letters a.toList) (second : Letters b.toList) :
    Letters (if condition then a else b).toList := by
  split
  · exact first
  · exact second

section Layout

variable (l : Layout) (d : Decimal)

theorem letters_padded (width n : Nat) : Letters (Layout.padded width n).toList := by
  rw [Layout.padded, String.toList_append, String.toList_ofList]
  exact (letters_replicate _).append (isWord_nat n).2

theorem isWord_positional : IsWord (Layout.positional d).toList := by
  have digits : Letters (toString d.coefficient).toList := (isWord_nat d.coefficient).2
  rw [Layout.positional]
  split
  · have ending : Letters ['.', '0'] := by decide
    rw [String.toList_ofList]
    exact ⟨by simp, (digits.append (letters_replicate _)).append ending⟩
  · -- The point stands between two parts of the padded digits.
    have padded := (letters_replicate
      ((-d.exponent).toNat + 1 - (toString d.coefficient).toList.length)).append digits
    have before := fun n c (member : c ∈ List.take n _) => padded c (List.mem_of_mem_take member)
    have behind := fun n c (member : c ∈ List.drop n _) => padded c (List.mem_of_mem_drop member)
    rw [String.toList_ofList]
    exact ⟨by simp, Letters.append (before _) (Letters.cons rfl (behind _))⟩

theorem isWord_withExponent : IsWord (l.withExponent d).toList := by
  have digits : Letters (toString d.coefficient).toList := (isWord_nat d.coefficient).2
  have mark : Letters "e".toList := by decide
  have sign := letters_ite (d.leadingExponent < 0) (a := "-") (b := "+") (by decide) (by decide)
  rw [Layout.withExponent, String.toList_append, String.toList_append, String.toList_append]
  refine ⟨by simp, Letters.append (Letters.append (Letters.append ?_ mark) sign)
    (letters_padded _ _)⟩
  -- Before the mark stands a single digit, or a digit, a point and the other digits.
  split
  next => decide
  next c spelled =>
    have first : isWordChar c := digits c (by rw [spelled]; exact List.mem_singleton_self c)
    split
    · rw [String.toList_ofList]
      exact Letters.cons first (by decide)
    · rw [String.toList_ofList]
      exact Letters.cons first (by decide)
  next c cs _ spelled =>
    rw [spelled] at digits
    rw [String.toList_ofList]
    refine Letters.cons (digits c List.mem_cons_self) (Letters.cons rfl fun e member => ?_)
    exact digits e (List.mem_cons_of_mem c member)

/-- Floating-point numbers are words in a layout whose texts for other numbers are. -/
theorem isWord_write (undefined : IsWord l.undefined.toList) (infinite : IsWord l.infinite.toList)
    (x : Binary64) : IsWord (l.write x).toList := by
  have sign : ∀ negative : Bool, Letters (if negative then "-" else "").toList :=
    fun negative => letters_ite _ (by decide) (by decide)
  cases x with
  | nan => exact undefined
  | infinity negative =>
    rw [Layout.write, String.toList_append]
    exact ⟨by simp [infinite.1], Letters.append (sign negative) infinite.2⟩
  | finite negative mantissa exponent =>
    have body : ∀ d : Decimal, IsWord (if l.least ≤ d.leadingExponent ∧
        d.leadingExponent < l.bound then Layout.positional d else l.withExponent d).toList := by
      intro d
      split
      · exact isWord_positional d
      · exact isWord_withExponent l d
    rw [Layout.write, String.toList_append]
    exact ⟨by simp [(body _).1], Letters.append (sign negative) (body _).2⟩

end Layout

/-- Floating-point numbers are words. -/
theorem isWord_float (x : Binary64) : IsWord (Value.floatLayout.write x).toList :=
  isWord_write Value.floatLayout (by decide) (by decide) x

end Words

/-! ### Values -/

mutual

/-- The literal of a value spells the expression that the value is. -/
theorem spells_literal : ∀ v : Value, Spells v.literal.toList (Expr.ofValue v)
  | .null => Spells.word (by decide)
  | .bool true => Spells.word (by decide)
  | .bool false => Spells.word (by decide)
  | .int n => Spells.word (isWord_int n)
  | .float x => Spells.word (isWord_float x)
  | .text s => Spells.quoted s
  | .list items => by
    rw [Value.literal, Value.commaSeparated, String.toList_append, String.toList_append,
      String.toList_intercalate]
    exact Spells.list (spells_literals items)
  | .record members => by
    rw [Value.literal, Value.commaSeparated, String.toList_append, String.toList_append,
      String.toList_intercalate]
    exact Spells.dict (spells_memberLiterals members)

theorem spells_literals : ∀ vs : List Value,
    List.Forall₂ Spells ((Value.literals vs).map String.toList) (Expr.ofValues vs)
  | [] => .nil
  | v :: vs => .cons (spells_literal v) (spells_literals vs)

theorem spells_memberLiterals : ∀ members : List (String × Value),
    List.Forall₂ SpellsMember ((Value.memberLiterals members).map String.toList)
      (Expr.ofMembers members)
  | [] => .nil
  | (name, v) :: rest => by
    refine .cons ?_ (spells_memberLiterals rest)
    rw [String.toList_append, String.toList_append, List.append_assoc]
    exact SpellsMember.of_spells (Spells.quoted name) (spells_literal v)

end

end Supergraph.Reading

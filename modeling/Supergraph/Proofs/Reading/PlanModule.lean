import Supergraph.Emit.PlanModule
import Supergraph.Proofs.Reading.Spelling

/-!
# What the query plan module binds

The query plan module binds one constant for each subgraph and then the table of the entities, in
which graphs are referred to by the constants.

## Main definitions

* `constants`, `planTable` — the constants and the table
* `IsNamed` — the graphs that an entity refers to are called by names

## Main results

* `fillsDict_entityLines` — the item of an entity
* `bindings?_planModule` — the bindings of the query plan module
-/

namespace Supergraph.Reading

open Emit Text

/-- The member of a key in the item of its entity. -/
def keyMember (entry : String × String) : Expr × Expr :=
  (.word (escapeIdentifier entry.1), .text entry.2)

/-- The member of a field in the item of its entity. -/
def fieldMember (f : FieldPlan) : Expr × Expr :=
  (.text f.name, .dict
    [(.text "type", .text f.shape.hint), (.text "client", .word (escapeIdentifier f.owner))])

/-- The member of an entity in the table. -/
def entityMember (e : EntityPlan) : Expr × Expr :=
  (.text e.typeName, .dict
    [(.text "keys", .dict (e.keys.entries.map keyMember)),
      (.text "fields", .dict (e.fields.map fieldMember))])

/-- The table of the entities. -/
def planTable (entities : Table EntityPlan) : Expr :=
  .dict (entities.values.map entityMember)

/-- The constants for the subgraphs. -/
def constants (subgraphs : Table Subgraph) : List (String × Expr) :=
  subgraphs.entries.map fun s => (escapeIdentifier s.1, .text s.2.name)

/-! ### The lines of the module -/

section Lines

variable {e : EntityPlan} {f : FieldPlan} {word : String}

theorem isWord_of_isName (named : isName word.toList) : IsWord word.toList := by
  have letter : ∀ d, isNamePart d → isWordChar d := by
    intro d part
    simp only [isNamePart, Bool.or_eq_true] at part
    simp only [isWordChar, Bool.or_eq_true]
    tauto
  obtain ⟨c, cs, spelled, starts, parts⟩ := exists_cons_of_isName named
  rw [spelled]
  exact ⟨List.cons_ne_nil c cs, Letters.cons (letter c (isNamePart_of_isNameStart starts))
    fun d member => letter d (parts d member)⟩

theorem spells_escapeIdentifier (named : isName word.toList) :
    Spells (escapeIdentifier word).toList (.word (escapeIdentifier word)) :=
  Spells.word (isWord_of_isName (isName_escapeIdentifier named))

theorem fillsDict_keysLine (named : ∀ graph ∈ e.keys.keys, isName graph.toList) :
    FillsDict ["        \"keys\": \x7b" ++ String.intercalate ", " (e.keys.entries.map keyItem)
        ++ "\x7d,"]
      [(.text "keys", .dict (e.keys.entries.map keyMember))] := by
  have blanks : Blanks "        ".toList := by decide
  have items : List.Forall₂ SpellsMember ((e.keys.entries.map keyItem).map String.toList)
      (e.keys.entries.map keyMember) := by
    rw [List.map_map, List.forall₂_map_left_iff, List.forall₂_map_right_iff]
    refine List.forall₂_same.2 fun entry member => ?_
    have spelled := SpellsMember.of_spells
      (spells_escapeIdentifier (named entry.1 (List.mem_map_of_mem member)))
      (Spells.quoted entry.2)
    simpa [keyItem, keyMember, String.toList_append] using spelled
  refine .member blanks (SpellsMember.of_spells (Spells.plain "keys" (by decide))
    (Spells.dict items)) ?_
  simp [String.toList_append, String.toList_intercalate]

theorem fillsDict_fieldLine (named : isName f.owner.toList) :
    FillsDict [fieldLine f] [fieldMember f] := by
  have blanks : Blanks "            ".toList := by decide
  have type := SpellsMember.of_spells (Spells.plain "type" (by decide))
    (Spells.quoted f.shape.hint)
  have client := SpellsMember.of_spells (Spells.plain "client" (by decide))
    (spells_escapeIdentifier named)
  have entry := Spells.dict (.cons type (.cons client .nil))
  refine .member blanks (SpellsMember.of_spells (Spells.quoted f.name) entry) ?_
  unfold fieldLine
  simp [String.toList_append, List.intercalate_cons_cons]

theorem fillsDict_fieldsLines {fields : List FieldPlan}
    (named : ∀ f ∈ fields, isName f.owner.toList) :
    FillsDict (fieldsLines fields) [(.text "fields", .dict (fields.map fieldMember))] := by
  have blanks : Blanks "        ".toList := by decide
  have key : Spells _ (.text "fields") := Spells.plain "fields" (by decide)
  cases fields with
  | nil => exact .member blanks (SpellsMember.of_spells key (Spells.dict .nil)) rfl
  | cons f rest =>
    have inner := FillsDict.map (f :: rest) fun f member => fillsDict_fieldLine (named f member)
    exact .block blanks blanks key rfl rfl inner

/-- The graphs that an entity names are called by names. -/
structure IsNamed (e : EntityPlan) : Prop where
  keys : ∀ graph ∈ e.keys.keys, isName graph.toList
  owners : ∀ f ∈ e.fields, isName f.owner.toList

theorem fillsDict_entityLines (named : IsNamed e) :
    FillsDict (entityLines e) [entityMember e] := by
  have blanks : Blanks "    ".toList := by decide
  have inner := (fillsDict_keysLine named.keys).append (fillsDict_fieldsLines named.owners)
  have opening : ("    " ++ quoted e.typeName ++ ": \x7b").toList =
      "    ".toList ++ ((quoted e.typeName).toList ++ [':', ' ', '\x7b']) := by
    simp [String.toList_append]
  have closing : "    \x7d,".toList = "    ".toList ++ ['\x7d', ','] := rfl
  exact .block blanks blanks (Spells.quoted e.typeName) opening closing inner

end Lines

/-! ### The statements -/

section Statements

variable {subgraphs : Table Subgraph} {entities : Table EntityPlan}

theorem binds_constant {key : String} (name : String) (named : isName key.toList) :
    Binds [escapeIdentifier key ++ " = " ++ quoted name] (escapeIdentifier key) (.text name) := by
  have other : escapeIdentifier key ≠ "def" := by
    intro same
    have reserved := isReserved_escapeIdentifier key
    rw [same] at reserved
    cases reserved
  refine Binds.of_leads fun bound => ?_
  have value := Spells.quoted name bound (escapeIdentifier key) []
  have led := leads_assignment (isWord_of_isName (isName_escapeIdentifier named)) other bound value
  simpa [String.toList_append] using led

theorem leadsLines_clientConstants (named : ∀ key ∈ subgraphs.keys, isName key.toList)
    (bound : List (String × Expr)) :
    LeadsLines (clientConstants subgraphs) ⟨bound, .start⟩
      ⟨bound ++ constants subgraphs, .start⟩ := by
  rw [Table.keys, List.forall_mem_map] at named
  rw [clientConstants, constants]
  generalize subgraphs.entries = entries at named
  induction entries generalizing bound with
  | nil =>
    rw [List.map_nil, List.map_nil, List.append_nil]
    exact LeadsLines.nil _
  | cons entry rest ih =>
    obtain ⟨first, others⟩ := List.forall_mem_cons.1 named
    have one := binds_constant entry.2.name first bound
    have led := one.append (ih _ others)
    simpa using led

theorem binds_planTableLines (named : ∀ e ∈ entities.values, IsNamed e) :
    Binds (planTableLines entities) "QUERY_PLAN" (planTable entities) := by
  have isWord : IsWord "QUERY_PLAN".toList := by decide
  rw [planTableLines, planTable]
  split
  next none =>
    have empty : entities.values = [] := by
      rw [Table.values, List.isEmpty_iff.1 none, List.map_nil]
    rw [empty]
    refine Binds.of_leads fun bound => ?_
    exact leads_assignment isWord (by decide) bound (Spells.dict .nil bound "QUERY_PLAN" [])
  next some =>
    have inner := FillsDict.flatMap entities.values fun e member =>
      fillsDict_entityLines (named e member)
    refine Binds.dict (fun bound => ?_) inner
    exact leads_assignment isWord (by decide) bound (Leads.cons rfl rfl (Leads.nil _))

theorem leadsLines_planHeader (bound : List (String × Expr)) :
    LeadsLines planHeader ⟨bound, .start⟩ ⟨bound, .start⟩ := by
  have first : LeadsLines ["# Auto-generated query plan from the supergraph schema"]
      ⟨bound, .start⟩ ⟨bound, .start⟩ := LeadsLines.comment _ rfl (by decide) rfl
  have second : LeadsLines ["# Do not edit manually - regenerate with: gatewaygen generate"]
      ⟨bound, .start⟩ ⟨bound, .start⟩ := LeadsLines.comment _ rfl (by decide) rfl
  exact (first.append second).append (leadsLines_empty bound)

/-- The query plan module binds the constants and then the table. -/
theorem bindings?_planModule {plan : Plan}
    (keys : ∀ key ∈ plan.subgraphs.keys, isName key.toList)
    (named : ∀ e ∈ plan.entities.values, IsNamed e) :
    bindings? (planModule plan) =
      some (constants plan.subgraphs ++ [("QUERY_PLAN", planTable plan.entities)]) := by
  have first : LeadsLines (if (clientConstants plan.subgraphs).isEmpty then []
        else clientConstants plan.subgraphs ++ [""])
      ⟨[], .start⟩ ⟨constants plan.subgraphs, .start⟩ := by
    have led := leadsLines_clientConstants keys []
    rw [List.nil_append] at led
    split
    next none => rwa [List.isEmpty_iff.1 none] at led
    next some => exact led.append (leadsLines_empty _)
  have table := binds_planTableLines named (constants plan.subgraphs)
  have all := (((leadsLines_planHeader []).append first).append table).append (leadsLines_empty _)
  have nonempty : planLines plan ≠ [] :=
    List.append_ne_nil_of_right_ne_nil _ (List.cons_ne_nil _ _)
  have read := all []
  rw [List.append_nil] at read
  rw [bindings?, planModule, toList_intercalate_lines nonempty, planLines, read]
  rfl

end Statements

end Supergraph.Reading

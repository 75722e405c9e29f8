import Supergraph.Proofs.Constants
import Supergraph.Proofs.Reading.Binder
import Supergraph.Proofs.References
import Supergraph.Proofs.Schema.Spelled

/-!
# Which names of the types module are usable

Types, fields and values have names of the schema language, and such a name is an identifier of the
module unless it is a reserved word. Values are mended by an underscore, and fields are given by a
call, so that no reserved word is bound in the body of a class. The names of types stay as they are.
A mended value may have the name of another value.

## Main definitions

* `Reading.Binder.IsUsable` — the names that are identifiers and no reserved words

## Main results

* `Federation.isSpelled_of_mem_declarations` — the declarations of a plan are spelled as the schema
  language has it
* `types_module_binds_usable_names_iff` — when the module binds usable names and distinct members
-/

namespace Supergraph

open Reading

/-- The name is an identifier and no reserved word. -/
def Reading.Binder.IsUsable (b : Binder) : Prop :=
  Text.isName b.name.toList ∧ ¬Text.isReserved b.name

/-! ### What is declared -/

section Declared

variable {fed : Federation} {ds : List Declaration} {d : Declaration}

/-- The hint of a type reference stays on one line. -/
theorem Federation.isLine_hintFor (loaded : fed.schema.IsLoaded) (ref : TypeRef) :
    isLine (fed.hintFor ref) := by
  rw [hintFor]
  split
  next shape shaped =>
    have known := Shape.baseKind_of_ofTypeRef shaped
    cases present : fed.schema.body? shape.name with
    | none =>
      rw [Schema.baseKind, present] at known
      cases known
    | some body => exact Shape.isLine_hint (loaded.isSpelled.of_body? present)
  next => decide

theorem Schema.TypeBody.mem_partNames_of_declaredFields {body : Schema.TypeBody} {name : String}
    {ref : TypeRef} (member : (name, ref) ∈ body.declaredFields) : name ∈ body.partNames := by
  cases body with
  | object _ fields | interface _ fields | input fields _ =>
    obtain ⟨f, listed, same⟩ := List.mem_map.1 member
    cases same
    exact List.mem_map_of_mem listed
  | _ => cases member

theorem Federation.isSpelled_of_mem_declarations (loaded : fed.schema.IsLoaded)
    (made : fed.declarations.result = .ok ds) (member : d ∈ ds) : d.IsSpelled := by
  obtain ⟨body, present, describes⟩ := describes_of_mem_declarations made member
  have spelled := loaded.isSpelled
  have field : ∀ f ∈ d.fields, ∃ name ref, (name, ref) ∈ body.declaredFields ∧
      f = ⟨name, fed.hintFor ref⟩ := by
    intro f listed
    rw [describes.fields] at listed
    obtain ⟨⟨name, ref⟩, declared, rfl⟩ := List.mem_map.1 listed
    exact ⟨name, ref, declared, rfl⟩
  refine ⟨spelled.of_body? present, fun f listed => ?_, fun f listed => ?_, fun m listed => ?_⟩
  · obtain ⟨name, ref, declared, rfl⟩ := field f listed
    exact spelled.parts d.name body present name
      (Schema.TypeBody.mem_partNames_of_declaredFields declared)
  · obtain ⟨_, ref, _, rfl⟩ := field f listed
    exact isLine_hintFor loaded ref
  · rw [describes.members] at listed
    cases body with
    | union members => exact loaded.isName_member present m listed
    | enum values => exact spelled.parts d.name _ present m listed
    | _ => cases listed

/-- An enum is declared with distinct members. -/
theorem Federation.nodup_members_of_mem_declarations (made : fed.declarations.result = .ok ds)
    (member : d ∈ ds) (enum : d.kind = .enum) : d.members.Nodup := by
  obtain ⟨body, _, describes⟩ := describes_of_mem_declarations made member
  have kind := describes.kind
  rw [enum] at kind
  rw [describes.members]
  cases body with
  | enum values => exact values.nodup_keys
  | _ => cases kind

variable {plan : Plan}

theorem Federation.declarations_of_compile (made : fed.compile.result = .ok plan) :
    fed.declarations.result = .ok plan.declarations := by
  obtain ⟨_, _, _, _, _, declared, rfl⟩ := compile_eq_ok_iff.1 made
  exact declared

theorem isSpelled_of_compile (loaded : fed.schema.IsLoaded) (made : fed.compile.result = .ok plan) :
    ∀ d ∈ plan.declarations, d.IsSpelled :=
  fun _ => Federation.isSpelled_of_mem_declarations loaded (Federation.declarations_of_compile made)

end Declared

/-! ### What is bound -/

namespace Declaration

variable {d : Declaration} {b : Binder}

/-- The lines of a declaration bind the name of the type. -/
theorem exists_binder (d : Declaration) : ∃ b ∈ d.binders, b.name = d.name := by
  have fielded : ∃ b ∈ d.fieldBinders, b.name = d.name := by
    rw [fieldBinders]
    split <;> exact ⟨_, List.mem_cons_self, rfl⟩
  rw [binders]
  cases d.kind with
  | input | interface | object => exact fielded
  | _ => exact ⟨_, List.mem_cons_self, rfl⟩

theorem fieldBinder_cases (member : b ∈ d.fieldBinders) : (b.isInner = false ∧ b.name = d.name) ∨
    ∃ f ∈ d.fields, ¬Text.isReserved f.name ∧ b = .field f.name := by
  rw [fieldBinders] at member
  split at member
  next =>
    rw [List.mem_singleton.1 member]
    exact .inl ⟨rfl, rfl⟩
  next free =>
    rcases List.mem_cons.1 member with rfl | inside
    · exact .inl ⟨rfl, rfl⟩
    · obtain ⟨f, listed, rfl⟩ := List.mem_map.1 inside
      exact .inr ⟨f, listed, fun reserved => free (List.any_eq_true.2 ⟨f, listed, reserved⟩), rfl⟩

/-- A name that is bound is that of the type, or it is bound in the body of a class: by a value, or
by a field that is not named by a reserved word. -/
theorem binder_cases (member : b ∈ d.binders) : (b.isInner = false ∧ b.name = d.name) ∨
    (∃ value ∈ d.members, b = .member (Text.escapeIdentifier value)) ∨
      ∃ f ∈ d.fields, ¬Text.isReserved f.name ∧ b = .field f.name := by
  rw [binders] at member
  cases kind : d.kind with
  | scalar | union =>
    rw [kind] at member
    rw [List.mem_singleton.1 member]
    exact .inl ⟨rfl, rfl⟩
  | enum =>
    rw [kind] at member
    rcases List.mem_cons.1 member with rfl | inside
    · exact .inl ⟨rfl, rfl⟩
    · obtain ⟨value, listed, rfl⟩ := List.mem_map.1 inside
      exact .inr (.inl ⟨value, listed, rfl⟩)
  | input | interface | object =>
    rw [kind] at member
    exact (fieldBinder_cases member).imp_right .inr

/-- Outside of the bodies of classes only the name of the type is bound. -/
theorem name_of_not_isInner (member : b ∈ d.binders) (outer : b.isInner = false) :
    b.name = d.name := by
  rcases binder_cases member with ⟨_, same⟩ | ⟨_, _, rfl⟩ | ⟨_, _, _, rfl⟩
  · exact same
  · cases outer
  · cases outer

/-- In the bodies of classes all names are usable. -/
theorem isUsable_of_isInner (spelled : d.IsSpelled) (member : b ∈ d.binders) (inner : b.isInner) :
    b.IsUsable := by
  rcases binder_cases member with ⟨outer, _⟩ | ⟨value, listed, rfl⟩ | ⟨f, listed, free, rfl⟩
  · rw [outer] at inner
    cases inner
  · exact ⟨Text.isName_escapeIdentifier (spelled.members value listed),
      Bool.not_eq_true _ ▸ Text.isReserved_escapeIdentifier value⟩
  · exact ⟨spelled.fields f listed, free⟩

theorem isName_of_mem_binders (spelled : d.IsSpelled) (member : b ∈ d.binders) :
    Text.isName b.name.toList := by
  cases inner : b.isInner with
  | true => exact (isUsable_of_isInner spelled member inner).1
  | false => exact name_of_not_isInner member inner ▸ spelled.name

/-- All names that a declaration binds are usable when the name of the type is not reserved. -/
theorem forall_isUsable_iff (spelled : d.IsSpelled) :
    (∀ b ∈ d.binders, b.IsUsable) ↔ ¬Text.isReserved d.name := by
  constructor
  · intro usable
    obtain ⟨b, member, same⟩ := exists_binder d
    exact same ▸ (usable b member).2
  · intro free b member
    cases inner : b.isInner with
    | true => exact isUsable_of_isInner spelled member inner
    | false => exact ⟨isName_of_mem_binders spelled member, name_of_not_isInner member inner ▸ free⟩

end Declaration

/-- What the types module of a plan binds is what the declarations of the plan say, kind by kind.
All bound names are identifiers by their letters, and in the bodies of classes none is reserved. All
names are usable exactly when no declared type has a reserved word for name. The members of all enum
classes are distinct exactly when no enum has a reserved word and this word with an underscore for
values. -/
theorem types_module_binds_usable_names_iff (p : Planner) (loaded : p.fed.schema.IsLoaded)
    (plan : Plan) (made : p.compile.1 = .ok plan) :
    binders (Emit.typesModule plan) =
        (Emit.arranged plan.declarations).flatMap Declaration.binders ∧
      (∀ b ∈ binders (Emit.typesModule plan),
        Text.isName b.name.toList ∧ (b.isInner → ¬Text.isReserved b.name)) ∧
      ((∀ b ∈ binders (Emit.typesModule plan), b.IsUsable) ↔
        ∀ d ∈ plan.declarations, ¬Text.isReserved d.name) ∧
      enumBodies (binders (Emit.typesModule plan)) =
        (plan.declarations.filter fun d => d.kind = .enum).map (fun d =>
          (d.name, d.members.map Text.escapeIdentifier)) ∧
      ((∀ body ∈ enumBodies (binders (Emit.typesModule plan)), body.2.Nodup) ↔
        ∀ d ∈ plan.declarations, d.kind = .enum → ∀ value ∈ d.members,
          Text.isReserved value → value ++ "_" ∉ d.members) := by
  have spelled : ∀ d ∈ plan.declarations, d.IsSpelled := isSpelled_of_compile loaded made
  refine ⟨binders_typesModule spelled, fun b bound => ?_, ?_, enumBodies_typesModule spelled, ?_⟩
  · obtain ⟨d, listed, member⟩ := (mem_binders_typesModule_iff spelled).1 bound
    exact ⟨Declaration.isName_of_mem_binders (spelled d listed) member,
      fun inner => (Declaration.isUsable_of_isInner (spelled d listed) member inner).2⟩
  · have each : (∀ b ∈ binders (Emit.typesModule plan), b.IsUsable) ↔
        ∀ d ∈ plan.declarations, ∀ b ∈ d.binders, b.IsUsable := by
      simp only [mem_binders_typesModule_iff spelled, forall_exists_index, and_imp]
      exact ⟨fun usable d listed b member => usable b d listed member,
        fun usable b d listed member => usable d listed b member⟩
    rw [each]
    exact forall₂_congr fun d listed => Declaration.forall_isUsable_iff (spelled d listed)
  · rw [enumBodies_typesModule spelled, List.forall_mem_map]
    simp only [List.mem_filter, decide_eq_true_eq, and_imp]
    refine forall₃_congr fun d listed enum => ?_
    have distinct : d.members.Nodup :=
      Federation.nodup_members_of_mem_declarations (Federation.declarations_of_compile made) listed
        enum
    exact Text.nodup_map_escapeIdentifier_iff distinct (spelled d listed).members

/-- A supergraph in which a field and a value are called by reserved words. -/
def voucherText : String := String.join
  ["type Query \x7b ping: Int \x7d\n",
    "type Voucher \x7b class: Kind from: String \x7d\n",
    "enum Kind \x7b pass single \x7d\n",
    "type Pass \x7b kind: Kind \x7d\n",
    "union Item = Voucher | Pass\n"]

/-- What is declared for this supergraph. -/
def voucherDeclarations : List Declaration :=
  [⟨.object, "Voucher", [⟨"class", "Optional[str]"⟩, ⟨"from", "Optional[str]"⟩], [], none⟩,
    ⟨.enum, "Kind", [], ["pass", "single"], none⟩,
    ⟨.object, "Pass", [⟨"kind", "Optional[str]"⟩], [], none⟩,
    ⟨.union, "Item", [], ["Voucher", "Pass"], none⟩]

theorem exists_plan_voucherText : ∃ p plan, Planner.ofText? voucherText = some p ∧
    p.compile.1 = .ok plan ∧ plan.declarations = voucherDeclarations := by
  have computed : ((Planner.ofText? voucherText).any fun p => p.compile.1.toOption.any fun plan =>
      plan.declarations = voucherDeclarations) = true := by
    -- The characters are taken line by line, so that no long text is decoded.
    rewrite [Planner.ofText?, loadSchema, Schema.load, Sdl.readDocument, Sdl.Reading.ofText,
      Sdl.tokens, voucherText, String.toList_join]
    decide +kernel
  obtain ⟨p, plan, made, compiled, facts⟩ := Planner.exists_plan_of_any computed
  exact ⟨p, plan, made, compiled, of_decide_eq_true facts⟩

theorem voucherText_binds_usable_names : ∃ p plan, Planner.ofText? voucherText = some p ∧
    p.fed.schema.IsLoaded ∧ p.compile.1 = .ok plan ∧
    binders (Emit.typesModule plan) =
      [.enumClass "Kind", .member "pass_", .member "single", .assigned "Voucher",
        .fieldsClass "Pass", .field "kind", .assigned "Item"] ∧
    (∀ b ∈ binders (Emit.typesModule plan), b.IsUsable) ∧
    ∀ body ∈ enumBodies (binders (Emit.typesModule plan)), body.2.Nodup := by
  obtain ⟨p, plan, made, compiled, declarations⟩ := exists_plan_voucherText
  have loaded := Planner.isLoaded_of_ofText? made
  obtain ⟨bound, _, usable, _, distinct⟩ :=
    types_module_binds_usable_names_iff p loaded plan compiled
  refine ⟨p, plan, made, loaded, compiled, ?_, usable.2 ?_, distinct.2 ?_⟩
  · rw [bound, declarations]
    decide
  · rw [declarations]
    decide
  · rw [declarations]
    decide

/-- A supergraph in which a type is called by a reserved word, and two values of an enum by a
reserved word and this word with an underscore. -/
def seatText : String := String.join
  ["type Query \x7b ping: Int \x7d\n",
    "type class \x7b seats: Int \x7d\n",
    "enum Kind \x7b class class_ \x7d\n"]

/-- What is declared for this supergraph. -/
def seatDeclarations : List Declaration :=
  [⟨.object, "class", [⟨"seats", "Optional[int]"⟩], [], none⟩,
    ⟨.enum, "Kind", [], ["class", "class_"], none⟩]

theorem exists_plan_seatText : ∃ p plan, Planner.ofText? seatText = some p ∧
    p.compile.1 = .ok plan ∧ plan.declarations = seatDeclarations := by
  have computed : ((Planner.ofText? seatText).any fun p => p.compile.1.toOption.any fun plan =>
      plan.declarations = seatDeclarations) = true := by
    rewrite [Planner.ofText?, loadSchema, Schema.load, Sdl.readDocument, Sdl.Reading.ofText,
      Sdl.tokens, seatText, String.toList_join]
    decide +kernel
  obtain ⟨p, plan, made, compiled, facts⟩ := Planner.exists_plan_of_any computed
  exact ⟨p, plan, made, compiled, of_decide_eq_true facts⟩

/-- The reserved word is bound as the name of a class, and the two values are one member. -/
theorem seatText_binds_reserved_word : ∃ p plan, Planner.ofText? seatText = some p ∧
    p.fed.schema.IsLoaded ∧ p.compile.1 = .ok plan ∧
    .fieldsClass "class" ∈ binders (Emit.typesModule plan) ∧
    ¬(Binder.fieldsClass "class").IsUsable ∧
    enumBodies (binders (Emit.typesModule plan)) = [("Kind", ["class_", "class_"])] := by
  obtain ⟨p, plan, made, compiled, declarations⟩ := exists_plan_seatText
  have loaded := Planner.isLoaded_of_ofText? made
  have spelled := isSpelled_of_compile loaded compiled
  refine ⟨p, plan, made, loaded, compiled, ?_, fun usable => usable.2 rfl, ?_⟩
  · rw [binders_typesModule spelled, declarations]
    decide
  · rw [enumBodies_typesModule spelled, declarations]
    decide

end Supergraph

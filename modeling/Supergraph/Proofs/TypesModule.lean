import Mathlib.Data.List.Perm.Basic
import Supergraph.Emit.TypesModule
import Supergraph.Proofs.Reading.Docstring

/-!
# How declarations are arranged

The types module declares what the plan declares, kind by kind, and within a kind in the order of
the plan. Nothing is lost or repeated, the unions come last, and no class is without a body.

## Main definitions

* `DeclarationKind.rank` — the places of the kinds
* `Emit.arranged` — the declarations in the order of the module
* `Emit.leadIn`, `Emit.spaced` — the lines of declarations with the empty lines before them
* `Emit.Embodied` — lines of which every head of a class is followed by a line of its body

## Main results

* `Emit.arranged_perm`, `Emit.filter_arranged`, `Emit.pairwise_arranged` — the order of the module
* `Emit.typesLines_eq` — the lines of the module are those of its declarations
* `Emit.embodied_typesLines` — no class is without a body
* `types_module_arranges_declarations` — the whole module
-/

namespace Supergraph

/-- The place of a kind among the kinds. -/
def DeclarationKind.rank : DeclarationKind → Nat
  | scalar => 0
  | enum => 1
  | input => 2
  | interface => 3
  | object => 4
  | union => 5

namespace Emit

variable {ds : List Declaration} {kinds : List DeclarationKind}

/-! ### Order -/

/-- The declarations of the given kinds, one kind after the other. -/
def ofKinds (kinds : List DeclarationKind) (ds : List Declaration) : List Declaration :=
  kinds.flatMap fun kind => ds.filter fun d => d.kind = kind

/-- The declarations in the order of the module. -/
def arranged (ds : List Declaration) : List Declaration :=
  ofKinds sections ds

theorem mem_sections (kind : DeclarationKind) : kind ∈ sections := by
  cases kind <;> decide

/-- Each declaration of the given kinds is listed as often as it occurs. -/
theorem ofKinds_perm (distinct : kinds.Nodup) (ds : List Declaration) :
    (ofKinds kinds ds).Perm (ds.filter fun d => d.kind ∈ kinds) := by
  induction kinds with
  | nil => simp [ofKinds]
  | cons kind rest ih =>
    obtain ⟨fresh, distinct⟩ := List.nodup_cons.1 distinct
    -- Those of the first kind and those of the others are the two parts of one filter.
    have ofFirst : ds.filter (fun d => d.kind = kind) =
        (ds.filter fun d => d.kind ∈ kind :: rest).filter fun d => d.kind = kind := by
      rw [List.filter_filter]
      refine List.filter_congr fun d _ => ?_
      by_cases same : d.kind = kind <;> simp [same]
    have ofRest : ds.filter (fun d => d.kind ∈ rest) =
        (ds.filter fun d => d.kind ∈ kind :: rest).filter fun d => !d.kind = kind := by
      rw [List.filter_filter]
      refine List.filter_congr fun d _ => ?_
      by_cases same : d.kind = kind <;> simp [same, fresh]
    rw [ofKinds, List.flatMap_cons, ofFirst]
    refine (((ih distinct).append_left _).trans ?_)
    rw [ofRest]
    exact List.filter_append_perm _ _

theorem arranged_perm (ds : List Declaration) : (arranged ds).Perm ds := by
  have all : (ds.filter fun d => d.kind ∈ sections) = ds :=
    List.filter_eq_self.2 fun d _ => decide_eq_true (mem_sections d.kind)
  have listed : (arranged ds).Perm (ds.filter fun d => d.kind ∈ sections) :=
    ofKinds_perm (by decide) ds
  rwa [all] at listed

theorem mem_ofKinds_iff {d : Declaration} : d ∈ ofKinds kinds ds ↔ d ∈ ds ∧ d.kind ∈ kinds := by
  simp only [ofKinds, List.mem_flatMap, List.mem_filter, decide_eq_true_eq]
  constructor
  · rintro ⟨kind, among, member, rfl⟩
    exact ⟨member, among⟩
  · rintro ⟨member, among⟩
    exact ⟨d.kind, among, member, rfl⟩

/-- Within a kind the order is that of the plan. -/
theorem filter_ofKinds (distinct : kinds.Nodup) {kind : DeclarationKind} (among : kind ∈ kinds) :
    ((ofKinds kinds ds).filter fun d => d.kind = kind) = ds.filter fun d => d.kind = kind := by
  induction kinds with
  | nil => cases among
  | cons first rest ih =>
    obtain ⟨fresh, distinct⟩ := List.nodup_cons.1 distinct
    rw [ofKinds, List.flatMap_cons, List.filter_append, List.filter_filter]
    change _ ++ (ofKinds rest ds).filter _ = _
    by_cases here : kind = first
    · subst here
      have none : ((ofKinds rest ds).filter fun d => d.kind = kind) = [] := by
        refine List.filter_eq_nil_iff.2 fun d member same => fresh ?_
        rw [← of_decide_eq_true same]
        exact (mem_ofKinds_iff.1 member).2
      simp [none]
    · have none : (ds.filter fun d => decide (d.kind = kind) && decide (d.kind = first)) = [] := by
        refine List.filter_eq_nil_iff.2 fun d _ same => here ?_
        simp only [Bool.and_eq_true, decide_eq_true_eq] at same
        exact same.1.symm.trans same.2
      rw [none, List.nil_append]
      exact ih distinct ((List.mem_cons.1 among).resolve_left here)

theorem filter_arranged (ds : List Declaration) (kind : DeclarationKind) :
    ((arranged ds).filter fun d => d.kind = kind) = ds.filter fun d => d.kind = kind :=
  filter_ofKinds (by decide) (mem_sections kind)

/-- The kinds follow each other in their order. -/
theorem pairwise_arranged (ds : List Declaration) :
    (arranged ds).Pairwise fun a b => a.kind.rank ≤ b.kind.rank := by
  have ranks : sections.Pairwise fun a b => a.rank ≤ b.rank := by decide
  have ofKind : ∀ {kind : DeclarationKind} {d : Declaration},
      d ∈ ds.filter (fun d => d.kind = kind) → d.kind = kind :=
    fun member => of_decide_eq_true (List.mem_filter.1 member).2
  refine List.pairwise_flatMap.2 ⟨fun kind _ => ?_, ranks.imp ?_⟩
  · refine List.pairwise_of_forall_mem_list fun a first b second => ?_
    exact Nat.le_of_eq (by rw [ofKind first, ofKind second])
  · intro kind later before a first b second
    rw [ofKind first, ofKind second]
    exact before

/-- The unions follow everything else. -/
theorem exists_unions_arranged (ds : List Declaration) :
    ∃ others unions, arranged ds = others ++ unions ∧ (∀ d ∈ others, d.kind ≠ .union) ∧
      ∀ d ∈ unions, d.kind = .union := by
  refine ⟨ofKinds [.scalar, .enum, .input, .interface, .object] ds, ofKinds [.union] ds, ?_, ?_, ?_⟩
  · rw [ofKinds, ofKinds, ← List.flatMap_append]
    rfl
  · intro d member union
    have among := (mem_ofKinds_iff.1 member).2
    rw [union] at among
    exact absurd among (by decide)
  · intro d member
    exact List.mem_singleton.1 (mem_ofKinds_iff.1 member).2

/-! ### Empty lines -/

/-- The lines before a declaration: two empty ones, but none between two scalars or two unions. -/
def leadIn (before : List Declaration) (d : Declaration) : List String :=
  match d.kind with
  | .scalar | .union => if ∃ b ∈ before, b.kind = d.kind then [] else ["", ""]
  | .enum | .input | .interface | .object => ["", ""]

/-- The lines of declarations, each with the lines before it. -/
def spaced (before : List Declaration) : List Declaration → List String
  | [] => []
  | d :: rest => leadIn before d ++ declarationLines d ++ spaced (before ++ [d]) rest

theorem spaced_append (before xs ys : List Declaration) :
    spaced before (xs ++ ys) = spaced before xs ++ spaced (before ++ xs) ys := by
  induction xs generalizing before with
  | nil => simp [spaced]
  | cons d rest ih => simp [spaced, ih]

section LeadIn

variable {d : Declaration} {before : List Declaration} {kind : DeclarationKind}

theorem eq_empty_of_mem_leadIn {line : String} (member : line ∈ leadIn before d) : line = "" := by
  rw [leadIn] at member
  split at member <;> simp_all

theorem leadIn_of_begun (compact : isCompact d.kind) (begun : ∃ b ∈ before, b.kind = d.kind) :
    leadIn before d = [] := by
  rw [leadIn]
  cases same : d.kind <;> simp_all [isCompact]

theorem leadIn_of_fresh (fresh : ∀ b ∈ before, b.kind ≠ d.kind) : leadIn before d = gap := by
  rw [leadIn]
  cases same : d.kind <;> simp_all [gap]

theorem leadIn_of_spread (spread : ¬isCompact d.kind) : leadIn before d = gap := by
  rw [leadIn]
  cases same : d.kind <;> simp_all [isCompact, gap]

/-- Once an alias of a kind stands there, the others of the kind follow closely. -/
theorem spaced_of_begun (compact : isCompact kind) (begun : ∃ b ∈ before, b.kind = kind)
    (ofKind : ∀ d ∈ ds, d.kind = kind) : spaced before ds = ds.flatMap declarationLines := by
  induction ds generalizing before with
  | nil => rfl
  | cons d rest ih =>
    obtain ⟨rfl, later⟩ := List.forall_mem_cons.1 ofKind
    have begunToo : ∃ b ∈ before ++ [d], b.kind = d.kind := ⟨d, by simp, rfl⟩
    rw [spaced, leadIn_of_begun compact begun, ih begunToo later]
    rfl

theorem spaced_of_spread (spread : ¬isCompact kind) (ofKind : ∀ d ∈ ds, d.kind = kind) :
    spaced before ds = ds.flatMap fun d => gap ++ declarationLines d := by
  induction ds generalizing before with
  | nil => rfl
  | cons d rest ih =>
    obtain ⟨rfl, later⟩ := List.forall_mem_cons.1 ofKind
    rw [spaced, leadIn_of_spread spread, ih later]
    rfl

/-- The lines of one kind when none of it stands before them. -/
theorem sectionLines_eq_spaced (fresh : ∀ b ∈ before, b.kind ≠ kind) :
    sectionLines ds kind = spaced before (ds.filter fun d => d.kind = kind) := by
  have ofKind : ∀ d ∈ ds.filter (fun d => d.kind = kind), d.kind = kind :=
    fun d member => of_decide_eq_true (List.mem_filter.1 member).2
  rw [sectionLines]
  generalize ds.filter (fun d => d.kind = kind) = own at ofKind
  cases own with
  | nil => rfl
  | cons d rest =>
    obtain ⟨rfl, later⟩ := List.forall_mem_cons.1 ofKind
    -- The first stands apart from what precedes it; the kind says whether the others do.
    by_cases compact : isCompact d.kind
    · have begun : ∃ b ∈ before ++ [d], b.kind = d.kind := ⟨d, by simp, rfl⟩
      simp [compact, spaced, leadIn_of_fresh fresh, spaced_of_begun compact begun later]
    · simp [compact, spaced_of_spread compact ofKind]

end LeadIn

theorem flatMap_sectionLines (distinct : kinds.Nodup) {before : List Declaration}
    (fresh : ∀ b ∈ before, b.kind ∉ kinds) :
    kinds.flatMap (sectionLines ds) = spaced before (ofKinds kinds ds) := by
  induction kinds generalizing before with
  | nil => rfl
  | cons kind rest ih =>
    obtain ⟨other, distinct⟩ := List.nodup_cons.1 distinct
    have first : ∀ b ∈ before, b.kind ≠ kind := by
      intro b member same
      exact fresh b member (same ▸ List.mem_cons_self)
    have later : ∀ b ∈ before ++ ds.filter (fun d => d.kind = kind), b.kind ∉ rest := by
      intro b member among
      rcases List.mem_append.1 member with earlier | own
      · exact fresh b earlier (List.mem_cons_of_mem _ among)
      · rw [of_decide_eq_true (List.mem_filter.1 own).2] at among
        exact other among
    rw [List.flatMap_cons, ofKinds, List.flatMap_cons, spaced_append, sectionLines_eq_spaced first,
      ih distinct later]
    rfl

/-- The lines of the module are those of the declarations in their order. -/
theorem typesLines_eq (ds : List Declaration) :
    typesLines ds = typesHeader ++ spaced [] (arranged ds) ++ [""] := by
  have fresh : ∀ b ∈ ([] : List Declaration), b.kind ∉ sections := by simp
  rw [typesLines, flatMap_sectionLines (by decide) fresh, arranged]

/-! ### Bodies -/

/-- The head of a class. -/
def IsClassHead (line : String) : Prop :=
  "class ".toList <+: line.toList ∧ [':'] <:+ line.toList

/-- A line in the body of a class: an indentation and something that is not blank. -/
def IsBodyLine (line : String) : Prop :=
  ∃ text, line = bodyIndent ++ text ∧ ∃ c ∈ text.toList, ¬Text.isBlank c

/-- Every head of a class is followed by a line of its body. -/
def Embodied : List String → Prop
  | [] => True
  | line :: rest => (IsClassHead line → ∃ body ∈ rest.head?, IsBodyLine body) ∧ Embodied rest

variable {lines others : List String}

theorem embodied_append (first : Embodied lines) (second : Embodied others) :
    Embodied (lines ++ others) := by
  induction lines with
  | nil => exact second
  | cons line rest ih =>
    refine ⟨fun head => ?_, ih first.2⟩
    obtain ⟨body, next, inside⟩ := first.1 head
    cases rest with
    | nil => cases next
    | cons _ _ => exact ⟨body, next, inside⟩

theorem embodied_of_no_head (none : ∀ line ∈ lines, ¬IsClassHead line) : Embodied lines := by
  induction lines with
  | nil => trivial
  | cons line rest ih =>
    obtain ⟨here, later⟩ := List.forall_mem_cons.1 none
    exact ⟨fun head => absurd head here, ih later⟩

/-! ### The lines of one declaration -/

section Line

variable {line : String} {text : String} {body : List String}

/-- A line that begins otherwise is no head. -/
theorem not_isClassHead_of_not_prefix (other : ¬"class ".toList <+: line.toList) :
    ¬IsClassHead line := by
  intro head
  exact other head.1

/-- A line that ends otherwise is no head. -/
theorem not_isClassHead_append {ending : String} {c : Char}
    (last : ending.toList.getLast? = some c) (other : c ≠ ':') :
    ¬IsClassHead (text ++ ending) := by
  rintro ⟨_, before, ends⟩
  have final := congrArg List.getLast? ends
  rw [String.toList_append, List.getLast?_append, List.getLast?_append, last] at final
  exact other (Option.some.inj final).symm

theorem not_isClassHead_indented (text : String) : ¬IsClassHead (bodyIndent ++ text) := by
  rintro ⟨⟨after, begins⟩, _⟩
  rw [String.toList_append] at begins
  exact absurd (List.cons.inj begins).1 (by decide)

theorem not_isClassHead_of_isBodyLine (inside : IsBodyLine line) : ¬IsClassHead line := by
  obtain ⟨text, rfl, _⟩ := inside
  exact not_isClassHead_indented text

theorem isBodyLine_of_mem {c : Char} (member : c ∈ text.toList) (solid : Text.isBlank c = false) :
    IsBodyLine (bodyIndent ++ text) :=
  ⟨text, rfl, c, member, by simp [solid]⟩

/-- A class with a body that is not empty. -/
theorem embodied_class (nonempty : body ≠ []) (inside : ∀ line ∈ body, IsBodyLine line) :
    Embodied (line :: body) := by
  obtain ⟨first, rest, rfl⟩ := List.exists_cons_of_ne_nil nonempty
  refine ⟨fun _ => ⟨first, rfl, inside first List.mem_cons_self⟩, ?_⟩
  exact embodied_of_no_head fun other member => not_isClassHead_of_isBodyLine (inside other member)

end Line

section Declaration

variable {d : Declaration}

/-- The literal of a docstring is not blank, for it begins with a quote. -/
theorem exists_mem_docstringLiteral (cs : List Char) :
    ∃ c ∈ docstringLiteral cs, Text.isBlank c = false := by
  rcases Reading.head?_docstringLiteral cs with quote | quote
  · exact ⟨'\'', List.mem_of_head? quote, by decide⟩
  · exact ⟨'"', List.mem_of_head? quote, by decide⟩

theorem isBodyLine_of_mem_classDocstring {line : String} (member : line ∈ classDocstring d) :
    IsBodyLine line := by
  rw [classDocstring] at member
  cases described : d.description with
  | none => simp [described] at member
  | some text =>
    simp only [described, docstring] at member
    split at member
    next => cases member
    next =>
      obtain rfl := List.mem_singleton.1 member
      obtain ⟨c, among, solid⟩ := exists_mem_docstringLiteral (summary text)
      exact isBodyLine_of_mem (by rwa [String.toList_ofList]) solid

theorem isBodyLine_of_mem_fieldsClassBody {line : String} (member : line ∈ fieldsClassBody d) :
    IsBodyLine line := by
  rcases List.mem_append.1 member with described | declared
  · exact isBodyLine_of_mem_classDocstring described
  · obtain ⟨f, _, rfl⟩ := List.mem_map.1 declared
    rw [String.append_assoc, String.append_assoc]
    exact isBodyLine_of_mem (by simp) (by decide : Text.isBlank ':' = false)

/-- An enum that has a member has a body. -/
theorem embodied_enumClass (inhabited : d.members ≠ []) : Embodied (enumClass d) := by
  refine embodied_class (by simp [inhabited]) fun line member => ?_
  rcases List.mem_append.1 member with described | value
  · exact isBodyLine_of_mem_classDocstring described
  · obtain ⟨value, _, rfl⟩ := List.mem_map.1 value
    rw [String.append_assoc, String.append_assoc]
    exact isBodyLine_of_mem (by simp) (by decide : Text.isBlank '=' = false)

/-- A call is no class. -/
theorem embodied_fieldsCall (d : Declaration) : Embodied (fieldsCall d) := by
  refine embodied_of_no_head fun line member => ?_
  rcases List.mem_append.1 member with before | closing
  · rcases List.mem_cons.1 before with rfl | among
    · exact not_isClassHead_append (by decide) (by decide : '\x7b' ≠ ':')
    · obtain ⟨f, _, rfl⟩ := List.mem_map.1 among
      rw [String.append_assoc, String.append_assoc, String.append_assoc]
      exact not_isClassHead_indented _
  · obtain rfl := List.mem_singleton.1 closing
    exact not_isClassHead_of_not_prefix (by decide)

theorem embodied_fieldsClass (d : Declaration) : Embodied (fieldsClass d) := by
  rw [fieldsClass]
  split
  · exact embodied_fieldsCall d
  · refine embodied_class ?_ fun line member => ?_
    · split <;> simp_all [emptyBody]
    · split at member
      · obtain rfl := List.mem_singleton.1 member
        exact isBodyLine_of_mem (by decide) (by decide : Text.isBlank 'p' = false)
      · exact isBodyLine_of_mem_fieldsClassBody member

/-- A line that ends otherwise is no class. -/
theorem embodied_alias {text ending : String} {c : Char}
    (last : ending.toList.getLast? = some c) (other : c ≠ ':') : Embodied [text ++ ending] := by
  refine embodied_of_no_head fun line member => ?_
  rw [List.mem_singleton.1 member]
  exact not_isClassHead_append last other

theorem embodied_declarationLines (inhabited : d.kind = .enum → d.members ≠ []) :
    Embodied (declarationLines d) := by
  rw [declarationLines]
  cases kind : d.kind with
  | scalar => exact embodied_alias (by decide) (by decide : 'y' ≠ ':')
  | enum => exact embodied_enumClass (inhabited kind)
  | input => exact embodied_fieldsClass d
  | interface => exact embodied_fieldsClass d
  | object => exact embodied_fieldsClass d
  | union => exact embodied_alias (by decide) (by decide : ']' ≠ ':')

end Declaration

/-! ### The module -/

theorem embodied_spaced {before : List Declaration}
    (inhabited : ∀ d ∈ ds, d.kind = .enum → d.members ≠ []) : Embodied (spaced before ds) := by
  induction ds generalizing before with
  | nil => trivial
  | cons d rest ih =>
    obtain ⟨here, later⟩ := List.forall_mem_cons.1 inhabited
    have apart : Embodied (leadIn before d) := by
      refine embodied_of_no_head fun line member => ?_
      rw [eq_empty_of_mem_leadIn member]
      exact not_isClassHead_of_not_prefix (by decide)
    exact embodied_append (embodied_append apart (embodied_declarationLines here)) (ih later)

/-- No class of the module is without a body. -/
theorem embodied_typesLines (inhabited : ∀ d ∈ ds, d.kind = .enum → d.members ≠ []) :
    Embodied (typesLines ds) := by
  have header : ∀ line ∈ typesHeader, ¬IsClassHead line := by
    have other : ∀ line ∈ typesHeader, ¬"class ".toList <+: line.toList := by decide +kernel
    intro line member
    exact not_isClassHead_of_not_prefix (other line member)
  rw [typesLines_eq]
  refine embodied_append (embodied_append (embodied_of_no_head header) (embodied_spaced ?_)) ?_
  · intro d member
    exact inhabited d ((arranged_perm ds).mem_iff.1 member)
  · refine embodied_of_no_head fun line member => ?_
    rw [List.mem_singleton.1 member]
    exact not_isClassHead_of_not_prefix (by decide)

end Emit

/-- The lines of the types module are a header, the lines of each declaration of the plan, and an
empty line. The declarations stand in the order of their kinds and, within a kind, of the plan, so
that unions follow everything else. Two empty lines precede a declaration, but not a scalar after a
scalar or a union after a union. When every enum has a member, every class has a body. -/
theorem types_module_arranges_declarations (plan : Plan)
    (inhabited : ∀ d ∈ plan.declarations, d.kind = .enum → d.members ≠ []) :
    ∃ blocks : List Declaration, blocks.Perm plan.declarations ∧
      blocks.Pairwise (fun a b => a.kind.rank ≤ b.kind.rank) ∧
      (∀ kind, (blocks.filter fun d => d.kind = kind) =
        plan.declarations.filter fun d => d.kind = kind) ∧
      (∃ others unions, blocks = others ++ unions ∧ (∀ d ∈ others, d.kind ≠ .union) ∧
        ∀ d ∈ unions, d.kind = .union) ∧
      Emit.typesModule plan =
        String.intercalate "\n" (Emit.typesHeader ++ Emit.spaced [] blocks ++ [""]) ∧
      Emit.Embodied (Emit.typesHeader ++ Emit.spaced [] blocks ++ [""]) := by
  refine ⟨Emit.arranged plan.declarations, Emit.arranged_perm _, Emit.pairwise_arranged _,
    Emit.filter_arranged _, Emit.exists_unions_arranged _, ?_, ?_⟩
  · rw [Emit.typesModule, Emit.typesLines_eq]
  · rw [← Emit.typesLines_eq]
    exact Emit.embodied_typesLines inhabited

/-- A library: the declarations stand in another order than in the module. -/
def libraryDeclarations : List Declaration :=
  [⟨.union, "Item", [], ["Book"], none⟩,
    ⟨.object, "Book", [⟨"title", "str"⟩], [], some " "⟩,
    ⟨.scalar, "Date", [], [], none⟩,
    ⟨.enum, "Genre", [], ["POEM"], some "What a book is."⟩,
    ⟨.scalar, "Shelf", [], [], none⟩]

example : (Emit.arranged libraryDeclarations).map Declaration.name =
    ["Date", "Shelf", "Genre", "Book", "Item"] := by
  decide

theorem libraryDeclarations_are_arranged :
    (∀ d ∈ libraryDeclarations, d.kind = .enum → d.members ≠ []) ∧
      ∃ blocks : List Declaration, blocks.Perm libraryDeclarations ∧
        Emit.typesModule ⟨.empty, .empty, [], libraryDeclarations, []⟩ =
          String.intercalate "\n" (Emit.typesHeader ++ Emit.spaced [] blocks ++ [""]) ∧
        Emit.Embodied (Emit.typesHeader ++ Emit.spaced [] blocks ++ [""]) := by
  have inhabited : ∀ d ∈ libraryDeclarations, d.kind = .enum → d.members ≠ [] := by decide
  obtain ⟨blocks, listed, _, _, _, text, embodied⟩ :=
    types_module_arranges_declarations ⟨.empty, .empty, [], libraryDeclarations, []⟩ inhabited
  exact ⟨inhabited, blocks, listed, text, embodied⟩

end Supergraph

import Supergraph.Proofs.Reading.Lines
import Supergraph.Proofs.TypesModule

/-!
# Names that the types module binds

A line of the types module binds a name or nothing. Outside of classes it binds an alias or the name
of a class, in the body of a class an attribute or a member. Docstrings and the members of dicts
begin with a quote and bind nothing. A name is read up to the character that ends it, so that
reserved words, and texts that are no names at all, are read as well.

## Main definitions

* `Binder` — a name that is bound, and by what
* `binder?`, `binders` — what a line binds, and what a module binds
* `enumBodies` — the members of each enum class
* `Declaration.IsSpelled` — the declarations whose names are names and whose hints stay on one line
* `Declaration.binders` — what a declaration binds

## Main results

* `bound_declarationLines` — the lines of a declaration bind what the declaration says
* `binders_typesModule` — the module binds what its declarations bind, in their order
* `enumBodies_typesModule` — the enum classes of the module and their members
-/

namespace Supergraph

namespace Reading

/-- A name that is bound, and by what. -/
inductive Binder where
  | fieldsClass (name : String)
  | enumClass (name : String)
  | assigned (name : String)
  | field (name : String)
  | member (name : String)
  deriving DecidableEq, Repr

namespace Binder

/-- The name that is bound. -/
def name : Binder → String
  | fieldsClass name | enumClass name | assigned name | field name | member name => name

/-- Whether the name is bound in the body of a class. -/
def isInner : Binder → Bool
  | field _ | member _ => true
  | fieldsClass _ | enumClass _ | assigned _ => false

end Binder

/-! ### Lines -/

/-- A character that does not end a name. -/
def isInTarget (c : Char) : Bool :=
  c ≠ ' ' && c ≠ ':' && c ≠ '('

/-- The name that a text begins with. -/
def target (cs : List Char) : String :=
  String.ofList (cs.takeWhile isInTarget)

/-- What follows the name that a text begins with. -/
def afterTarget (cs : List Char) : List Char :=
  cs.dropWhile isInTarget

/-- The class whose name and bases are given. -/
def classBinder (cs : List Char) : Binder :=
  if afterTarget cs = "(str, Enum):".toList then .enumClass (target cs)
  else .fieldsClass (target cs)

/-- What a line outside of classes binds. -/
def outerBinder? (cs : List Char) : Option Binder :=
  -- An alias may have the name `class`.
  if " = ".toList <+: afterTarget cs then some (.assigned (target cs))
  else (after? "class ".toList cs).map classBinder

/-- What a line in the body of a class binds. -/
def innerBinder? (cs : List Char) : Option Binder :=
  if cs.head? = some '\'' ∨ cs.head? = some '"' then none
  else if [':'] <+: afterTarget cs then some (.field (target cs))
  else if " = ".toList <+: afterTarget cs then some (.member (target cs))
  else none

/-- What a line binds. The bodies of classes are indented by four spaces. -/
def binder? (cs : List Char) : Option Binder :=
  match after? [' ', ' ', ' ', ' '] cs with
  | some body => innerBinder? body
  | none => outerBinder? cs

/-- What the lines of a module bind. -/
def binders (text : String) : List Binder :=
  (linesOf text).filterMap binder?

/-- The members up to the first name that is bound otherwise. -/
def leadingMembers : List Binder → List String
  | .member name :: rest => name :: leadingMembers rest
  | _ => []

/-- The enum classes with the members in their bodies. -/
def enumBodies : List Binder → List (String × List String)
  | [] => []
  | .enumClass name :: rest => (name, leadingMembers rest) :: enumBodies rest
  | _ :: rest => enumBodies rest

end Reading

/-- The names of a declaration are names, and its hints stay on one line. -/
structure Declaration.IsSpelled (d : Declaration) : Prop where
  name : Text.isName d.name.toList
  fields : ∀ f ∈ d.fields, Text.isName f.name.toList
  hints : ∀ f ∈ d.fields, Reading.isLine f.hint
  members : ∀ m ∈ d.members, Text.isName m.toList

/-- What a declaration with fields binds: its own name, and those of its fields unless these are
given by a call. -/
def Declaration.fieldBinders (d : Declaration) : List Reading.Binder :=
  if d.fields.any fun f => Text.isReserved f.name then [.assigned d.name]
  else .fieldsClass d.name :: d.fields.map fun f => .field f.name

/-- What a declaration binds. -/
def Declaration.binders (d : Declaration) : List Reading.Binder :=
  match d.kind with
  | .scalar | .union => [.assigned d.name]
  | .enum => .enumClass d.name :: d.members.map fun value => .member (Text.escapeIdentifier value)
  | .input | .interface | .object => d.fieldBinders

namespace Reading

/-! ### Names on a line -/

section Target

variable {name : String} {cs : List Char} {c : Char}

theorem isInTarget_of_mem (named : Text.isName name.toList) (member : c ∈ name.toList) :
    isInTarget c := by
  have part := Text.forall_isNamePart named c member
  have blank : c ≠ ' ' := Text.ne_of_isNamePart part (by decide)
  have colon : c ≠ ':' := Text.ne_of_isNamePart part (by decide)
  have bracket : c ≠ '(' := Text.ne_of_isNamePart part (by decide)
  simp [isInTarget, blank, colon, bracket]

theorem target_append (named : Text.isName name.toList) (ends : isInTarget c = false) :
    target (name.toList ++ c :: cs) = name := by
  rw [target, List.takeWhile_append_of_pos fun _ => isInTarget_of_mem named,
    List.takeWhile_cons_of_neg (by simp [ends]), List.append_nil, String.ofList_toList]

theorem afterTarget_append (named : Text.isName name.toList) (ends : isInTarget c = false) :
    afterTarget (name.toList ++ c :: cs) = c :: cs := by
  rw [afterTarget, List.dropWhile_append_of_pos fun _ => isInTarget_of_mem named,
    List.dropWhile_cons_of_neg (by simp [ends])]

/-- A line that begins with a name is not indented. -/
theorem after?_indent_eq_none (named : Text.isName name.toList) (cs : List Char) :
    after? [' ', ' ', ' ', ' '] (name.toList ++ cs) = none := by
  obtain ⟨first, rest, spelled, starts, _⟩ := Text.exists_cons_of_isName named
  rw [after?, spelled, if_neg]
  intro indented
  obtain rfl := (List.cons_prefix_cons.1 indented).1
  cases starts

theorem head?_append_ne_quote (named : Text.isName name.toList) (cs : List Char) :
    ¬((name.toList ++ cs).head? = some '\'' ∨ (name.toList ++ cs).head? = some '"') := by
  obtain ⟨first, rest, spelled, starts, _⟩ := Text.exists_cons_of_isName named
  rw [spelled]
  rintro (quote | quote)
  all_goals
    obtain rfl := Option.some.inj quote
    cases starts

end Target

section Lines

variable {name : String} {line : String}

theorem binder?_assigned (named : Text.isName name.toList) (value : String) :
    binder? (name ++ " = " ++ value).toList = some (.assigned name) := by
  have text : (name ++ " = " ++ value).toList =
      name.toList ++ ' ' :: '=' :: ' ' :: value.toList := by
    simp
  have begins : " = ".toList <+: ' ' :: '=' :: ' ' :: value.toList := ⟨value.toList, rfl⟩
  rw [text, binder?, after?_indent_eq_none named, outerBinder?, afterTarget_append named rfl,
    if_pos begins, target_append named rfl]

/-- The head of a class binds its name, whatever word it is. -/
theorem binder?_class (named : Text.isName name.toList) (bases : List Char) :
    binder? ("class ".toList ++ (name.toList ++ '(' :: bases)) =
      some (if '(' :: bases = "(str, Enum):".toList then .enumClass name
        else .fieldsClass name) := by
  have word : Text.isName "class".toList := by decide
  have text : "class ".toList ++ (name.toList ++ '(' :: bases) =
      "class".toList ++ ' ' :: (name.toList ++ '(' :: bases) := rfl
  have other : ¬" = ".toList <+: ' ' :: (name.toList ++ '(' :: bases) := by
    obtain ⟨first, rest, spelled, starts, _⟩ := Text.exists_cons_of_isName named
    intro equals
    rw [spelled] at equals
    obtain rfl := (List.cons_prefix_cons.1 (List.cons_prefix_cons.1 equals).2).1
    cases starts
  have outer : after? [' ', ' ', ' ', ' '] ("class ".toList ++ (name.toList ++ '(' :: bases)) =
      none := text ▸ after?_indent_eq_none word _
  have ended : afterTarget ("class ".toList ++ (name.toList ++ '(' :: bases)) =
      ' ' :: (name.toList ++ '(' :: bases) := text ▸ afterTarget_append word rfl
  rw [binder?, outer, outerBinder?, ended, if_neg other, after?_append, Option.map_some,
    classBinder, afterTarget_append named rfl, target_append named rfl]

theorem binder?_indented (text : String) :
    binder? (Emit.bodyIndent ++ text).toList = innerBinder? text.toList := by
  have indented : (Emit.bodyIndent ++ text).toList = [' ', ' ', ' ', ' '] ++ text.toList :=
    String.toList_append
  rw [binder?, indented, after?_append]

theorem binder?_field (named : Text.isName name.toList) (hint : String) :
    binder? (Emit.bodyIndent ++ name ++ ": " ++ hint).toList = some (.field name) := by
  have text : (name ++ (": " ++ hint)).toList = name.toList ++ ':' :: ' ' :: hint.toList := by
    simp
  have begins : [':'] <+: ':' :: ' ' :: hint.toList := ⟨_, rfl⟩
  rw [String.append_assoc, String.append_assoc, binder?_indented, text, innerBinder?,
    if_neg (head?_append_ne_quote named _), afterTarget_append named rfl, if_pos begins,
    target_append named rfl]

theorem binder?_member (named : Text.isName name.toList) (value : String) :
    binder? (Emit.bodyIndent ++ name ++ " = " ++ value).toList = some (.member name) := by
  have text : (name ++ (" = " ++ value)).toList =
      name.toList ++ ' ' :: '=' :: ' ' :: value.toList := by
    simp
  have begins : " = ".toList <+: ' ' :: '=' :: ' ' :: value.toList := ⟨value.toList, rfl⟩
  have other : ¬[':'] <+: ' ' :: '=' :: ' ' :: value.toList := by
    intro colon
    cases (List.cons_prefix_cons.1 colon).1
  rw [String.append_assoc, String.append_assoc, binder?_indented, text, innerBinder?,
    if_neg (head?_append_ne_quote named _), afterTarget_append named rfl, if_neg other,
    if_pos begins, target_append named rfl]

/-- An indented line that begins with a quote binds nothing. -/
theorem binder?_quote (quote : line.toList.head? = some '\'' ∨ line.toList.head? = some '"') :
    binder? (Emit.bodyIndent ++ line).toList = none := by
  rw [binder?_indented, innerBinder?, if_pos quote]

end Lines

/-! ### Declarations -/

/-- What lines bind. -/
def bound (lines : List String) : List Binder :=
  lines.filterMap fun line => binder? line.toList

theorem bound_append (first second : List String) :
    bound (first ++ second) = bound first ++ bound second :=
  List.filterMap_append

theorem bound_cons_some {line : String} {rest : List String} {b : Binder}
    (read : binder? line.toList = some b) : bound (line :: rest) = b :: bound rest :=
  List.filterMap_cons_some read

theorem bound_cons_none {line : String} {rest : List String} (read : binder? line.toList = none) :
    bound (line :: rest) = bound rest :=
  List.filterMap_cons_none read

theorem bound_map {α : Type} (xs : List α) {line : α → String} {binder : α → Binder}
    (each : ∀ x ∈ xs, binder? (line x).toList = some (binder x)) :
    bound (xs.map line) = xs.map binder := by
  rw [bound, List.filterMap_map, ← List.filterMap_eq_map]
  exact List.filterMap_congr each

theorem bound_eq_nil {lines : List String} (each : ∀ line ∈ lines, binder? line.toList = none) :
    bound lines = [] :=
  List.filterMap_eq_nil_iff.2 each

section Declaration

variable {d : Declaration}

theorem bound_classDocstring (d : Declaration) : bound (Emit.classDocstring d) = [] := by
  rcases classDocstring_cases d with none | ⟨cs, documented⟩
  · rw [none]
    rfl
  · have quote := head?_docstringLiteral cs
    rw [documented, bound_cons_none (binder?_quote (by rwa [String.toList_ofList]))]
    rfl

theorem binder?_enumHead (named : Text.isName d.name.toList) :
    binder? ("class " ++ d.name ++ "(str, Enum):").toList = some (.enumClass d.name) := by
  have text : ("class " ++ d.name ++ "(str, Enum):").toList =
      "class ".toList ++ (d.name.toList ++ '(' :: "str, Enum):".toList) := by
    simp
  rw [text, binder?_class named]
  exact congrArg some (if_pos rfl)

theorem binder?_fieldsHead (named : Text.isName d.name.toList) :
    binder? ("class " ++ d.name ++ "(TypedDict, total=False):").toList =
      some (.fieldsClass d.name) := by
  have text : ("class " ++ d.name ++ "(TypedDict, total=False):").toList =
      "class ".toList ++ (d.name.toList ++ '(' :: "TypedDict, total=False):".toList) := by
    simp
  rw [text, binder?_class named]
  exact congrArg some (if_neg (by decide))

theorem bound_enumClass (spelled : d.IsSpelled) :
    bound (Emit.enumClass d) = .enumClass d.name ::
      d.members.map fun value => .member (Text.escapeIdentifier value) := by
  have members := bound_map d.members fun value member =>
    binder?_member (Text.isName_escapeIdentifier (spelled.members value member))
      (Text.quoted value)
  rw [Emit.enumClass, List.cons_append, bound_cons_some (binder?_enumHead spelled.name),
    bound_append, bound_classDocstring, members, List.nil_append]

/-- A call binds the name of the type, and its fields are texts. -/
theorem bound_fieldsCall (spelled : d.IsSpelled) :
    bound (Emit.fieldsCall d) = [.assigned d.name] := by
  have opening : binder? (d.name ++ " = TypedDict(" ++ Text.quoted d.name ++ ", \x7b").toList =
      some (.assigned d.name) := by
    have read := binder?_assigned spelled.name ("TypedDict(" ++ Text.quoted d.name ++ ", \x7b")
    rw [← read]
    simp
  have fields : bound (d.fields.map fun f =>
      Emit.bodyIndent ++ Text.quoted f.name ++ ": " ++ Text.quoted f.hint ++ ",") = [] := by
    refine bound_eq_nil fun line member => ?_
    obtain ⟨f, _, rfl⟩ := List.mem_map.1 member
    rw [String.append_assoc, String.append_assoc, String.append_assoc]
    refine binder?_quote ?_
    rcases quoteFor_eq f.name.toList with quote | quote
    · exact .inl (by simp [Text.quoted, Text.quotedChars, quote])
    · exact .inr (by simp [Text.quoted, Text.quotedChars, quote])
  have closing : bound ["\x7d, total=False)"] = [] := by decide
  rw [Emit.fieldsCall, List.cons_append, bound_cons_some opening, bound_append, fields, closing,
    List.append_nil]

theorem bound_fieldsClassBody (spelled : d.IsSpelled) :
    bound (Emit.fieldsClassBody d) = d.fields.map fun f => .field f.name := by
  have fields := bound_map d.fields fun f member =>
    binder?_field (spelled.fields f member) f.hint
  rw [Emit.fieldsClassBody, bound_append, bound_classDocstring, fields, List.nil_append]

theorem bound_fieldsClass (spelled : d.IsSpelled) :
    bound (Emit.fieldsClass d) = d.fieldBinders := by
  have body : bound (if (Emit.fieldsClassBody d).isEmpty then Emit.emptyBody
      else Emit.fieldsClassBody d) = d.fields.map fun f => .field f.name := by
    have passed : bound Emit.emptyBody = bound [] := by decide
    rw [← bound_fieldsClassBody spelled]
    split
    next empty => rw [passed, List.isEmpty_iff.1 empty]
    next => rfl
  rw [Emit.fieldsClass, Declaration.fieldBinders]
  split
  · exact bound_fieldsCall spelled
  · rw [bound_cons_some (binder?_fieldsHead spelled.name), body]

/-- The lines of a declaration bind what the declaration says. -/
theorem bound_declarationLines (spelled : d.IsSpelled) :
    bound (Emit.declarationLines d) = d.binders := by
  rw [Emit.declarationLines, Declaration.binders]
  cases d.kind with
  | scalar => exact bound_cons_some (binder?_assigned spelled.name _)
  | enum => exact bound_enumClass spelled
  | input | interface | object => exact bound_fieldsClass spelled
  | union =>
    have read := binder?_assigned spelled.name
      ("Union[" ++ String.intercalate ", " d.members ++ "]")
    refine bound_cons_some ?_
    rw [← read]
    simp

/-! ### On one line -/

theorem isLine_of_mem_enumClass (spelled : d.IsSpelled) {line : String}
    (member : line ∈ Emit.enumClass d) : isLine line := by
  rcases List.mem_append.1 member with before | among
  · rcases List.mem_cons.1 before with rfl | documented
    · simp +decide [isLine_of_isName spelled.name]
    · exact isLine_of_mem_classDocstring documented
  · obtain ⟨value, listed, rfl⟩ := List.mem_map.1 among
    have named := Text.isName_escapeIdentifier (spelled.members value listed)
    simp +decide [isLine_of_isName named]

theorem isLine_of_mem_fieldsCall (spelled : d.IsSpelled) {line : String}
    (member : line ∈ Emit.fieldsCall d) : isLine line := by
  rcases List.mem_append.1 member with before | closing
  · rcases List.mem_cons.1 before with rfl | among
    · simp +decide [isLine_of_isName spelled.name]
    · obtain ⟨f, _, rfl⟩ := List.mem_map.1 among
      simp +decide
  · rw [List.mem_singleton.1 closing]
    decide

theorem isLine_of_mem_fieldsClassBody (spelled : d.IsSpelled) {line : String}
    (member : line ∈ Emit.fieldsClassBody d) : isLine line := by
  rcases List.mem_append.1 member with documented | among
  · exact isLine_of_mem_classDocstring documented
  · obtain ⟨f, listed, rfl⟩ := List.mem_map.1 among
    simp +decide [isLine_of_isName (spelled.fields f listed), spelled.hints f listed]

theorem isLine_of_mem_fieldsClass (spelled : d.IsSpelled) {line : String}
    (member : line ∈ Emit.fieldsClass d) : isLine line := by
  rw [Emit.fieldsClass] at member
  split at member
  next => exact isLine_of_mem_fieldsCall spelled member
  next =>
    rcases List.mem_cons.1 member with rfl | body
    · simp +decide [isLine_of_isName spelled.name]
    · split at body
      next =>
        rw [List.mem_singleton.1 body]
        decide
      next => exact isLine_of_mem_fieldsClassBody spelled body

/-- No line of a declaration ends early. -/
theorem isLine_of_mem_declarationLines (spelled : d.IsSpelled) {line : String}
    (member : line ∈ Emit.declarationLines d) : isLine line := by
  rw [Emit.declarationLines] at member
  split at member
  next =>
    rw [List.mem_singleton.1 member]
    simp +decide [isLine_of_isName spelled.name]
  next => exact isLine_of_mem_enumClass spelled member
  next => exact isLine_of_mem_fieldsClass spelled member
  next => exact isLine_of_mem_fieldsClass spelled member
  next => exact isLine_of_mem_fieldsClass spelled member
  next =>
    have members : isLine (String.intercalate ", " d.members) :=
      isLine_intercalate (by decide) fun m listed => isLine_of_isName (spelled.members m listed)
    rw [List.mem_singleton.1 member]
    simp +decide [isLine_of_isName spelled.name, members]

end Declaration

/-! ### The module -/

section Module

variable {ds before : List Declaration}

theorem bound_leadIn (before : List Declaration) (d : Declaration) :
    bound (Emit.leadIn before d) = [] := by
  refine bound_eq_nil fun line member => ?_
  rw [Emit.eq_empty_of_mem_leadIn member]
  decide

/-- The empty lines before declarations bind nothing. -/
theorem bound_spaced (spelled : ∀ d ∈ ds, d.IsSpelled) :
    bound (Emit.spaced before ds) = ds.flatMap Declaration.binders := by
  induction ds generalizing before with
  | nil => rfl
  | cons d rest ih =>
    obtain ⟨here, others⟩ := List.forall_mem_cons.1 spelled
    rw [Emit.spaced, bound_append, bound_append, bound_leadIn, bound_declarationLines here,
      ih others, List.nil_append, List.flatMap_cons]

theorem isLine_of_mem_spaced (spelled : ∀ d ∈ ds, d.IsSpelled) {line : String}
    (member : line ∈ Emit.spaced before ds) : isLine line := by
  induction ds generalizing before with
  | nil => cases member
  | cons d rest ih =>
    obtain ⟨here, others⟩ := List.forall_mem_cons.1 spelled
    rcases List.mem_append.1 member with own | later
    · rcases List.mem_append.1 own with lead | declared
      · rw [Emit.eq_empty_of_mem_leadIn lead]
        decide
      · exact isLine_of_mem_declarationLines here declared
    · exact ih others later

/-- The module binds what its declarations bind, in the order in which they stand. -/
theorem binders_typesModule {plan : Plan} (spelled : ∀ d ∈ plan.declarations, d.IsSpelled) :
    binders (Emit.typesModule plan) =
      (Emit.arranged plan.declarations).flatMap Declaration.binders := by
  have arranged : ∀ d ∈ Emit.arranged plan.declarations, d.IsSpelled := fun d member =>
    spelled d ((Emit.arranged_perm _).mem_iff.1 member)
  have header : bound Emit.typesHeader = [] := by decide +kernel
  have footer : bound [""] = [] := by decide
  have inLine : ∀ line ∈ Emit.typesLines plan.declarations, isLine line := by
    have headerInLine : ∀ line ∈ Emit.typesHeader, isLine line := by decide +kernel
    intro line member
    rw [Emit.typesLines_eq] at member
    rcases List.mem_append.1 member with before | last
    · rcases List.mem_append.1 before with first | declared
      · exact headerInLine line first
      · exact isLine_of_mem_spaced arranged declared
    · rw [List.mem_singleton.1 last]
      decide
  have inhabited : Emit.typesLines plan.declarations ≠ [] := by
    rw [Emit.typesLines_eq]
    simp
  have lines : binders (Emit.typesModule plan) = bound (Emit.typesLines plan.declarations) := by
    rw [binders, Emit.typesModule, linesOf_intercalate inhabited inLine, List.filterMap_map]
    rfl
  rw [lines, Emit.typesLines_eq, bound_append, bound_append, header, footer, bound_spaced arranged,
    List.nil_append, List.append_nil]

theorem mem_binders_typesModule_iff {plan : Plan} (spelled : ∀ d ∈ plan.declarations, d.IsSpelled)
    {b : Binder} :
    b ∈ binders (Emit.typesModule plan) ↔ ∃ d ∈ plan.declarations, b ∈ d.binders := by
  simp only [binders_typesModule spelled, List.mem_flatMap, (Emit.arranged_perm _).mem_iff]

end Module

/-! ### Enum classes -/

/-- No declaration begins with a member. -/
theorem leadingMembers_flatMap (ds : List Declaration) :
    leadingMembers (ds.flatMap Declaration.binders) = [] := by
  cases ds with
  | nil => rfl
  | cons d rest =>
    rw [List.flatMap_cons, Declaration.binders]
    have fielded : leadingMembers
        (d.fieldBinders ++ rest.flatMap Declaration.binders) = [] := by
      rw [Declaration.fieldBinders]
      split <;> rfl
    cases d.kind with
    | input | interface | object => exact fielded
    | _ => rfl

theorem leadingMembers_append (names : List String) {rest : List Binder}
    (ends : leadingMembers rest = []) :
    leadingMembers (names.map Binder.member ++ rest) = names := by
  induction names with
  | nil => exact ends
  | cons name names ih => rw [List.map_cons, List.cons_append, leadingMembers, ih]

/-- Names that are bound by something other than an enum are passed over. -/
theorem enumBodies_append {bs rest : List Binder}
    (others : ∀ b ∈ bs, ∀ name, b ≠ .enumClass name) :
    enumBodies (bs ++ rest) = enumBodies rest := by
  induction bs with
  | nil => rfl
  | cons b bs ih =>
    obtain ⟨here, later⟩ := List.forall_mem_cons.1 others
    rw [List.cons_append, enumBodies, ih later]
    exact here

/-- Only an enum is declared by an enum class. -/
theorem kind_of_enumClass_mem {d : Declaration} {name : String}
    (member : .enumClass name ∈ d.binders) : d.kind = .enum := by
  have fielded : .enumClass name ∉ d.fieldBinders := by
    rw [Declaration.fieldBinders]
    split <;> simp
  rw [Declaration.binders] at member
  split at member
  next => simp at member
  next => simp at member
  next kind => exact kind
  all_goals exact absurd member fielded

/-- The enum classes of declarations are the enums, each with the identifiers of its members. -/
theorem enumBodies_flatMap_binders (ds : List Declaration) :
    enumBodies (ds.flatMap Declaration.binders) =
      (ds.filter fun d => d.kind = .enum).map fun d =>
        (d.name, d.members.map Text.escapeIdentifier) := by
  induction ds with
  | nil => rfl
  | cons d rest ih =>
    have members : enumBodies (d.members.map (fun value => .member (Text.escapeIdentifier value)) ++
        rest.flatMap Declaration.binders) = enumBodies (rest.flatMap Declaration.binders) := by
      refine enumBodies_append fun b among => ?_
      obtain ⟨value, _, rfl⟩ := List.mem_map.1 among
      exact fun _ same => by cases same
    by_cases enum : d.kind = .enum
    · have body := leadingMembers_append (d.members.map Text.escapeIdentifier)
        (leadingMembers_flatMap rest)
      rw [List.map_map] at body
      rw [List.flatMap_cons, Declaration.binders, enum, List.filter_cons_of_pos (by simp [enum]),
        List.map_cons, List.cons_append, enumBodies, members, ih]
      exact congrArg (fun names => (d.name, names) :: _) body
    · rw [List.flatMap_cons, List.filter_cons_of_neg (by simp [enum]), ← ih]
      refine enumBodies_append fun b among name same => enum ?_
      subst same
      exact kind_of_enumClass_mem among

/-- The enum classes of the module are the enums of the plan, in their order. -/
theorem enumBodies_typesModule {plan : Plan} (spelled : ∀ d ∈ plan.declarations, d.IsSpelled) :
    enumBodies (binders (Emit.typesModule plan)) =
      (plan.declarations.filter fun d => d.kind = .enum).map fun d =>
        (d.name, d.members.map Text.escapeIdentifier) := by
  rw [binders_typesModule spelled, enumBodies_flatMap_binders, Emit.filter_arranged]

end Reading

end Supergraph

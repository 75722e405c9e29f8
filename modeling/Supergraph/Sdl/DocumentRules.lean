import Supergraph.Sdl.Violation
import Supergraph.Table

/-!
# Rules for documents

The rules that every document has to follow, stated for each definition in view of the whole
document and of the definitions before it. Violations are listed in the order of the text; where
several rules speak about one place, they speak in a fixed order.

## Main definitions

* `standardTypes`, `standardDirectives` — what documents may use without defining it
* `Scope` — what a document defines
* `violations` — all violations of a document
-/

namespace Supergraph.Sdl

/-! ### What needs no definition -/

/-- The scalar types that need no definition. -/
def standardScalars : List String := ["Int", "Float", "String", "Boolean", "ID"]

/-- The types by which a schema describes itself. -/
def introspectionTypes : List String :=
  ["__Schema", "__Directive", "__DirectiveLocation", "__Type", "__Field", "__InputValue",
    "__EnumValue", "__TypeKind"]

/-- The types that need no definition. -/
def standardTypes : List String := standardScalars ++ introspectionTypes

/-- The directives that need no definition. -/
def standardDirectives : List DirectiveDef :=
  let argument (name : String) (type : TypeRef) : InputDef := ⟨name, none, type, none, []⟩
  let condition := argument "if" (.nonNull (.named "Boolean"))
  [⟨"include", [condition], false, [.field, .fragmentSpread, .inlineFragment]⟩,
    ⟨"skip", [condition], false, [.field, .fragmentSpread, .inlineFragment]⟩,
    ⟨"deprecated", [argument "reason" (.named "String")], false,
      [.fieldDefinition, .argumentDefinition, .inputFieldDefinition, .enumValue,
        .directiveDefinition]⟩,
    ⟨"specifiedBy", [argument "url" (.nonNull (.named "String"))], false, [.scalar]⟩,
    ⟨"oneOf", [], false, [.inputObject]⟩]

/-! ### What a document defines -/

/-- What a document defines. -/
structure Scope where
  types : List TypeDef
  directives : List DirectiveDef

namespace Scope

/-- What a document defines, with the standard directives before its own. -/
def ofDocument (doc : Document) : Scope :=
  ⟨doc.types, standardDirectives ++ doc.directives⟩

/-- The names of the defined types. -/
def typeNames (scope : Scope) : List String :=
  scope.types.map TypeDef.name

/-- The last definition of a directive. -/
def directive? (scope : Scope) (name : String) : Option DirectiveDef :=
  scope.directives.reverse.find? fun d => d.name = name

/-- The last definition of a type. -/
def type? (scope : Scope) (name : String) : Option TypeDef :=
  scope.types.reverse.find? fun t => t.name = name

/-- The applications of directives that may stand only once at a place. -/
def unrepeatable (scope : Scope) (applied : List Application) : List String :=
  (applied.map Application.name).filter fun name =>
    (scope.directive? name).any fun d => !d.repeatable

end Scope

/-! ### Repetitions -/

/-- The items that have been seen before when they come, each time they do. -/
def repeatsAfter {α : Type} [BEq α] (seen : List α) : List α → List α
  | [] => []
  | item :: rest =>
    if seen.contains item then item :: repeatsAfter seen rest
    else repeatsAfter (item :: seen) rest

/-- The names that come more than once, in the order in which they first come. -/
def repeated (names : List String) : List String :=
  names.eraseDups.filter fun name => 1 < names.count name

mutual

/-- The members that objects inside a value have twice. -/
def literalViolations : Literal → List Violation
  | .list items => itemViolations items
  | .object members => memberViolations [] members
  | _ => []

/-- The members that objects inside the items of a list have twice. -/
def itemViolations : List Literal → List Violation
  | [] => []
  | item :: rest => literalViolations item ++ itemViolations rest

/-- The members that an object has twice, and those of the objects inside it. -/
def memberViolations (seen : List String) : List (String × Literal) → List Violation
  | [] => []
  | (name, value) :: rest =>
    (if seen.contains name then [.repeatedMember name] else []) ++ literalViolations value
      ++ memberViolations (name :: seen) rest

end

/-! ### Applied directives -/

/-- The arguments that a directive has to be given. Of two of one name the last counts. -/
def DirectiveDef.required (d : DirectiveDef) : List InputDef :=
  let required := d.arguments.filter fun a => a.type.isNonNull && a.default?.isNone
  (Table.ofList (required.map fun a => (a.name, a))).values

/-- The arguments that are given more than once. -/
def argumentViolations (arguments : List (String × Literal)) : List Violation :=
  (repeated (arguments.map Prod.fst)).map .repeatedArgument

/-- Violations inside the values of arguments. -/
def valueViolations (arguments : List (String × Literal)) : List Violation :=
  arguments.flatMap fun a => literalViolations a.2

/-- Violations of a directive where it is applied. -/
def applicationViolations (scope : Scope) (location : Location) (a : Application) :
    List Violation :=
  let known := match scope.directive? a.name with
    | none => [.unknownDirective a.name]
    | some d => if d.locations.contains location then [] else [.misplacedDirective a.name location]
  let unknown := match scope.directive? a.name with
    | none => []
    | some d =>
      let names := d.arguments.map InputDef.name
      (a.arguments.filter fun x => !names.contains x.1).map fun x =>
        Violation.unknownArgument a.name x.1 (suggestions x.1 names)
  let missing := match scope.directive? a.name with
    | none => []
    | some d =>
      (d.required.filter fun r => !(a.arguments.map Prod.fst).contains r.name).map fun r =>
        Violation.missingArgument a.name r.name r.type
  known ++ unknown ++ argumentViolations a.arguments ++ valueViolations a.arguments ++ missing

/-- Violations of the directives that are applied at a place. -/
def directiveViolations (scope : Scope) (location : Location) (applied : List Application) :
    List Violation :=
  applied.flatMap (applicationViolations scope location)

/-- The directives that stand more often at a place than they may, where `before` has been applied
to it already. -/
def repeatedDirectives (scope : Scope) (before applied : List Application) : List Violation :=
  (repeatsAfter (scope.unrepeatable before) (scope.unrepeatable applied)).map .repeatedDirective

/-! ### References to types -/

/-- The violation of a name that stands for no type. In definitions of the schema the standard types
are known, elsewhere only those that the document defines. -/
def typeNameViolations (scope : Scope) (inSchema : Bool) (name : String) : List Violation :=
  let known := if inSchema then standardTypes ++ scope.typeNames else scope.typeNames
  if known.contains name then [] else [.unknownType name (suggestions name known)]

/-- The violation of a type reference in a definition of the schema. -/
def typeRefViolations (scope : Scope) (inSchema : Bool) (type : TypeRef) : List Violation :=
  match type.baseName? with
  | some name => typeNameViolations scope inSchema name
  | none => []

/-! ### Types and directives -/

/-- Violations of an argument definition or of a field of an input type. -/
def inputDefViolations (scope : Scope) (location : Location) (i : InputDef) : List Violation :=
  repeatedDirectives scope [] i.directives ++ typeRefViolations scope true i.type
    ++ (i.default?.map literalViolations).getD []
    ++ directiveViolations scope location i.directives

/-- Violations of a field definition. -/
def fieldDefViolations (scope : Scope) (f : FieldDef) : List Violation :=
  repeatedDirectives scope [] f.directives
    ++ f.arguments.flatMap (inputDefViolations scope .argumentDefinition)
    ++ typeRefViolations scope true f.type
    ++ directiveViolations scope .fieldDefinition f.directives

/-- Violations of the definition of an enum value. -/
def enumValueViolations (scope : Scope) (v : EnumValueDef) : List Violation :=
  repeatedDirectives scope [] v.directives ++ directiveViolations scope .enumValue v.directives

/-- The place of the directives of a type. -/
def TypeKind.location : TypeKind → Location
  | scalar => .scalar
  | object => .object
  | interface => .interface
  | union => .union
  | enum => .enum
  | input => .inputObject

/-- The fields of a type by name. -/
def TypeDef.fieldNames (t : TypeDef) : List String :=
  match t.body with
  | .object _ fields | .interface _ fields => fields.map FieldDef.name
  | .input fields => fields.map InputDef.name
  | _ => []

/-- The values of an enum by name. -/
def TypeDef.valueNames (t : TypeDef) : List String :=
  match t.body with
  | .enum values => values.map EnumValueDef.name
  | _ => []

/-- The fields of an object type or interface. -/
def TypeDef.outputFields (t : TypeDef) : List FieldDef :=
  match t.body with
  | .object _ fields | .interface _ fields => fields
  | _ => []

/-- Violations of a list of argument definitions. -/
def argumentDefViolations (owner : String) (arguments : List InputDef) : List Violation :=
  (repeated (arguments.map InputDef.name)).map (.repeatedArgumentDef owner)

/-- What is repeated in a type definition or extension, where `before` are the definitions and
extensions of the type before it. -/
def repeatedParts (before : List TypeDef) (t : TypeDef) : List Violation :=
  (repeatsAfter (before.flatMap TypeDef.valueNames) t.valueNames).map (.repeatedEnumValue t.name)
    ++ (repeatsAfter (before.flatMap TypeDef.fieldNames) t.fieldNames).map (.repeatedField t.name)
    ++ t.outputFields.flatMap fun f => argumentDefViolations s!"{t.name}.{f.name}" f.arguments

/-- Violations inside a type definition or extension. The fields of an input type are placed by
`fieldLocation`. -/
def bodyViolations (scope : Scope) (fieldLocation : Location) (t : TypeDef) : List Violation :=
  let directives := directiveViolations scope t.body.kind.location t.directives
  match t.body with
  | .scalar => directives
  | .object interfaces fields | .interface interfaces fields =>
    interfaces.flatMap (typeNameViolations scope true) ++ directives
      ++ fields.flatMap (fieldDefViolations scope)
  | .union members => directives ++ members.flatMap (typeNameViolations scope true)
  | .enum values => directives ++ values.flatMap (enumValueViolations scope)
  | .input fields => directives ++ fields.flatMap (inputDefViolations scope fieldLocation)

/-- The violation of an extension of something else than a type of its kind. -/
def extensionViolations (scope : Scope) (t : TypeDef) : List Violation :=
  match scope.type? t.name with
  | some defined =>
    if defined.body.kind = t.body.kind then []
    else [.extensionOfOtherKind t.name t.body.kind]
  | none => [.extensionOfUnknown t.name (suggestions t.name scope.typeNames)]

/-! ### Executable definitions -/

mutual

/-- Violations of a selection. -/
def selectionViolations (scope : Scope) : Selection → List Violation
  | .field arguments directives selections =>
    repeatedDirectives scope [] directives ++ argumentViolations arguments
      ++ valueViolations arguments ++ directiveViolations scope .field directives
      ++ selectionsViolations scope selections
  | .spread directives =>
    repeatedDirectives scope [] directives ++ directiveViolations scope .fragmentSpread directives
  | .inline condition directives selections =>
    repeatedDirectives scope [] directives
      ++ (condition.map (typeNameViolations scope false)).getD []
      ++ directiveViolations scope .inlineFragment directives
      ++ selectionsViolations scope selections

/-- Violations of selections. -/
def selectionsViolations (scope : Scope) : List Selection → List Violation
  | [] => []
  | s :: rest => selectionViolations scope s ++ selectionsViolations scope rest

end

/-- Violations of the definition of a variable. -/
def variableViolations (scope : Scope) (v : VariableDef) : List Violation :=
  repeatedDirectives scope [] v.directives ++ typeRefViolations scope false v.type
    ++ (v.default?.map literalViolations).getD []
    ++ directiveViolations scope .variableDefinition v.directives

/-- Violations of an operation or fragment. -/
def executableViolations (scope : Scope) (e : ExecutableDef) : List Violation :=
  repeatedDirectives scope [] e.directives ++ e.parameters.flatMap (variableViolations scope)
    ++ (e.typeCondition.map (typeNameViolations scope false)).getD []
    ++ directiveViolations scope e.location e.directives
    ++ selectionsViolations scope e.selections

/-! ### Documents -/

/-- The definitions and extensions of the schema itself. -/
def Document.schemaParts (doc : Document) : List SchemaDef :=
  doc.filterMap fun
    | .schema s | .schemaExtension s => some s
    | _ => none

/-- The definitions and extensions of the types of a name. -/
def Document.typeParts (doc : Document) (name : String) : List TypeDef :=
  doc.filterMap fun
    | .type t | .typeExtension t => if t.name = name then some t else none
    | _ => none

/-- Violations of a definition or extension of the schema itself. -/
def schemaViolations (scope : Scope) (before : Document) (s : SchemaDef) : List Violation :=
  let seen := (before.schemaParts.flatMap SchemaDef.operations).map Prod.fst
  (repeatsAfter seen (s.operations.map Prod.fst)).map .repeatedOperation
    ++ repeatedDirectives scope (before.schemaParts.flatMap SchemaDef.directives) s.directives
    ++ directiveViolations scope .schema s.directives
    ++ s.operations.flatMap fun o => typeNameViolations scope true o.2

/-- Violations of a definition with the definitions before it. -/
def definitionViolations (scope : Scope) (before : Document) : Definition → List Violation
  | .schema s =>
    (if before.schemas.isEmpty then [] else [.secondSchema]) ++ schemaViolations scope before s
  | .schemaExtension s => schemaViolations scope before s
  | .type t =>
    let parts := before.typeParts t.name
    (if (before.types.map TypeDef.name).contains t.name then [.repeatedType t.name] else [])
      ++ repeatedParts parts t
      ++ repeatedDirectives scope (parts.flatMap TypeDef.directives) t.directives
      ++ bodyViolations scope .inputFieldDefinition t
  | .typeExtension t =>
    let parts := before.typeParts t.name
    repeatedParts parts t
      ++ repeatedDirectives scope (parts.flatMap TypeDef.directives) t.directives
      ++ extensionViolations scope t
      ++ bodyViolations scope .argumentDefinition t
  | .directive d =>
    argumentDefViolations s!"@{d.name}" d.arguments
      ++ (if (before.directives.map DirectiveDef.name).contains d.name
        then [.repeatedDirectiveDef d.name] else [])
      ++ d.arguments.flatMap (inputDefViolations scope .argumentDefinition)
  | .executable e => executableViolations scope e

/-- Violations of definitions that come after others, which are given in any order. -/
def violationsAfter (scope : Scope) (before : Document) : Document → List Violation
  | [] => []
  | d :: rest => definitionViolations scope before d ++ violationsAfter scope (d :: before) rest

/-- The violations of a document, in the order of its text. -/
def violations (doc : Document) : List Violation :=
  violationsAfter (Scope.ofDocument doc) [] doc

end Supergraph.Sdl

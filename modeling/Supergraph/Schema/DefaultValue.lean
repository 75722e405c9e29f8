import Supergraph.Schema.Basic
import Supergraph.Sdl.Lexer
import Supergraph.Sdl.Suggestion

/-!
# Default values

The default of an argument or of a field of an input type is to be a value of its type. What is
wrong with it is told part by part, each part with the steps that lead to it.

## Main definitions

* `Schema.literalText` — a value as messages write it
* `Schema.Misfit` — why a value is none of a type, with its wording
* `Schema.misfits` — all that is wrong with a value beside a type
-/

namespace Supergraph.Schema

open Sdl

/-! ### Values in messages -/

/-- A character of a text as messages write it. -/
def escapeInLiteral (c : Char) : List Char :=
  if c == '"' || c == '\\' then ['\\', c]
  else if c == '\x08' then ['\\', 'b']
  else if c == '\x0c' then ['\\', 'f']
  else if c == '\n' then ['\\', 'n']
  else if c == '\r' then ['\\', 'r']
  else if c == '\t' then ['\\', 't']
  else if c.toNat < 0x20 || 0x7f ≤ c.toNat && c.toNat ≤ 0x9f then
    '\\' :: 'u' :: codeDigits c.toNat
  else [c]

mutual

/-- A value as messages write it. A text stands on one line, be it written as a block or not. -/
def literalText : Literal → String
  | .null => "null"
  | .bool b => if b then "true" else "false"
  | .int text | .float text => text
  | .string value => String.ofList ('"' :: value.toList.flatMap escapeInLiteral ++ ['"'])
  | .enum name => name
  | .list items => "[" ++ String.intercalate ", " (literalTexts items) ++ "]"
  | .object members => "\x7b" ++ String.intercalate ", " (memberTexts members) ++ "\x7d"
  | .variable name => "$" ++ name

/-- The items of a list as messages write them. -/
def literalTexts : List Literal → List String
  | [] => []
  | item :: rest => literalText item :: literalTexts rest

/-- The members of an object as messages write them. -/
def memberTexts : List (String × Literal) → List String
  | [] => []
  | (name, value) :: rest => (name ++ ": " ++ literalText value) :: memberTexts rest

end

/-! ### What is wrong with a value -/

/-- A step from a value to a part of it. -/
inductive PartStep where
  | item (index : Nat)
  | member (name : String)
  deriving DecidableEq, Repr

/-- The steps to a part as messages write them, nothing for the whole value. -/
def placeText (steps : List PartStep) : String :=
  if steps.isEmpty then ""
  else " at " ++ String.join (steps.map fun
    | .item index => s!"[{index}]"
    | .member name => s!".{name}")

/-- Why a value is none of a type. -/
inductive Misfit where
  | null (type : TypeRef)
  | notObject (type : String) (value : Literal)
  | lacksField (type field : String) (value : Literal)
  | unknownField (type field : String) (value : Literal) (known : List String)
  | notOneField (type : String)
  | nullField (type field : String)
  | notScalar (scalar : String) (value : Literal)
  /-- An integer is read, but it is none of those that the scalar type holds. -/
  | notSmall (text : String)
  | unreadable (text : String) (cause : Text.IntegerError)
  | notEnum (enum : String) (value : Literal) (known : List String)
  | unknownValue (enum name : String) (known : List String)
  deriving Repr

/-- What a standard scalar type says of a value that is none of its own. -/
def scalarComplaint (scalar : String) : String :=
  match scalar with
  | "Int" => "non-integer value"
  | "Float" => "non numeric value"
  | "String" => "a non string value"
  | "Boolean" => "a non boolean value"
  | _ => "a non-string and non-integer value"

/-- The wording of the misfit. -/
def Misfit.message : Misfit → String
  | null type => s!"Expected value of non-null type '{type.text}' not to be null."
  | notObject type value =>
    s!"Expected value of type '{type}' to be an object, found: {literalText value}."
  | lacksField type field value =>
    s!"Expected value of type '{type}' to include required field '{field}', "
      ++ s!"found: {literalText value}."
  | unknownField type field value known =>
    let alike := didYouMean (suggestions field known)
    s!"Expected value of type '{type}' not to include unknown field '{field}'"
      ++ (if alike.isEmpty then ", found" else "." ++ alike ++ " Found")
      ++ s!": {literalText value}."
  | notOneField type => s!"Exactly one key must be specified for OneOf type '{type}'."
  | nullField type field =>
    s!"Field '{type}.{field}' used for OneOf Input Object must be non-null."
  | notScalar scalar value =>
    s!"{scalar} cannot represent {scalarComplaint scalar}: {literalText value}"
  | notSmall text => s!"Int cannot represent non 32-bit signed integer value: {text}"
  | unreadable text cause =>
    s!"Expected value of type 'Int', but encountered error '{cause.message}'; found: {text}."
  | notEnum enum value known =>
    s!"Enum '{enum}' cannot represent non-enum value: {literalText value}."
      ++ didYouMeanA "the enum value " (suggestions (literalText value) known)
  | unknownValue enum name known =>
    s!"Value '{name}' does not exist in '{enum}' enum."
      ++ didYouMeanA "the enum value " (suggestions name known)

/-! ### Values that are not looked into -/

/-- What is wrong with the text of an integer beside the scalar type for integers. -/
def integerMisfit? (text : String) : Option Misfit :=
  match Text.readInteger text with
  | .ok n => if -2147483648 ≤ n ∧ n ≤ 2147483647 then none else some (.notSmall text)
  | .error cause => some (.unreadable text cause)

/-- What is wrong with a value beside a standard scalar type. -/
def scalarMisfit? (scalar : String) (value : Literal) : Option Misfit :=
  match value with
  | .int text =>
    -- Only the scalar type for integers reads the digits; the others take any number of them.
    if scalar = "Int" then integerMisfit? text
    else if scalar = "Float" ∨ scalar = "ID" then none
    else some (.notScalar scalar value)
  | .float _ => if scalar = "Float" then none else some (.notScalar scalar value)
  | .string _ =>
    if scalar = "String" ∨ scalar = "ID" then none else some (.notScalar scalar value)
  | .bool _ => if scalar = "Boolean" then none else some (.notScalar scalar value)
  | _ => some (.notScalar scalar value)

/-- What is wrong with a value as a whole beside a type that values are given to. -/
def TypeBody.misfit? (name : String) (value : Literal) : TypeBody → Option Misfit
  | scalar isStandard => if isStandard then scalarMisfit? name value else none
  | enum values =>
    match value with
    | .enum word =>
      if values.contains word then none else some (.unknownValue name word values.keys)
    | _ => some (.notEnum name value values.keys)
  | input .. => some (.notObject name value)
  -- That the type takes no values is a fault of its own.
  | object .. | interface .. | union _ => none

/-- What is wrong with a value as a whole beside the type under all wrappers. -/
def wholeMisfits (schema : Schema) (type : TypeRef) (value : Literal) :
    List (List PartStep × Misfit) :=
  let found := do
    let name ← type.baseName?
    TypeBody.misfit? name value (← schema.body? name)
  (found.map (([], ·))).toList

/-! ### Lists and objects -/

/-- Whether a value has to be given. -/
def InputValue.isRequired (v : InputValue) : Bool :=
  v.type.isNonNull && v.default?.isNone

/-- What is wrong with a part, seen from the value it is a part of. -/
def below (step : PartStep) (found : List (List PartStep × Misfit)) :
    List (List PartStep × Misfit) :=
  found.map fun (steps, misfit) => (step :: steps, misfit)

/-- What is wrong with an object beside a type that asks for exactly one field. -/
def oneOfMisfits (type : String) : List (String × Literal) → List (List PartStep × Misfit)
  | [(field, .null)] => [([.member field], .nullField type field)]
  | [_] => []
  | _ => [([], .notOneField type)]

/-- What is wrong with an object beside an input type. The parts are the members that the type has
fields for, each with what is wrong with its value. -/
def objectMisfits (type : String) (fields : Table InputValue) (oneOf : Bool)
    (members : List (String × Literal)) (parts : List (String × List (List PartStep × Misfit))) :
    List (List PartStep × Misfit) :=
  -- The fields of the type set the order, not the members as they are written.
  (fields.entries.flatMap fun (field, v) =>
    match parts.lookup field with
    | some found => below (.member field) found
    | none => if v.isRequired then [([], .lacksField type field (.object members))] else [])
    ++ ((members.filter fun m => !fields.contains m.1).map fun m =>
      ([], .unknownField type m.1 (.object members) fields.keys))
    ++ (if oneOf then oneOfMisfits type members else [])

/-- The reference without the outermost wrapper that excludes null. -/
def nullableForm : TypeRef → TypeRef
  | .nonNull type => type
  | type => type

/-- The input type under all wrappers: its name, its fields, and whether it asks for exactly one of
them. -/
def inputBody? (schema : Schema) (type : TypeRef) : Option (String × Table InputValue × Bool) :=
  type.baseName?.bind fun name =>
    match schema.body? name with
    | some (.input fields oneOf) => some (name, fields, oneOf)
    | _ => none

mutual

/-- All that is wrong with a value beside a type. A value that is no list stands for the list of
this value alone. -/
def misfits (schema : Schema) (type : TypeRef) : Literal → List (List PartStep × Misfit)
  | .null => if type.isNonNull then [([], .null type)] else []
  | .list items =>
    match nullableForm type with
    | .list item => itemMisfits schema item 0 items
    | _ => schema.wholeMisfits type (.list items)
  | .object members =>
    match schema.inputBody? type with
    | some (name, fields, oneOf) =>
      objectMisfits name fields oneOf members (memberMisfits schema fields members)
    | none => schema.wholeMisfits type (.object members)
  | value => schema.wholeMisfits type value

/-- What is wrong with the items of a list, from the given index on. -/
def itemMisfits (schema : Schema) (type : TypeRef) (index : Nat) :
    List Literal → List (List PartStep × Misfit)
  | [] => []
  | item :: rest =>
    below (.item index) (misfits schema type item) ++ itemMisfits schema type (index + 1) rest

/-- The members that an input type has fields for, each with what is wrong with its value. -/
def memberMisfits (schema : Schema) (fields : Table InputValue) :
    List (String × Literal) → List (String × List (List PartStep × Misfit))
  | [] => []
  | (name, value) :: rest =>
    let others := memberMisfits schema fields rest
    match fields.get? name with
    | some field => (name, misfits schema field.type value) :: others
    | none => others

end

end Supergraph.Schema

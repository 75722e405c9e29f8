import Supergraph.Schema.Basic

/-!
# The standard types

The scalars and the introspection types that belong to every schema without being defined in it.

## Main definitions

* `Schema.standardType?` — the standard type of a name
-/

namespace Supergraph.Schema

/-- A part of a standard type that takes no arguments. -/
def plainField (name : String) (type : TypeRef) : String × Field :=
  (name, ⟨type, .empty, none, none⟩)

/-- A part of a standard type that leaves deprecated items out unless it is asked for them. -/
def filteredField (name : String) (type : TypeRef) : String × Field :=
  let flag : InputValue := ⟨.named "Boolean", some (.bool false), none, false⟩
  (name, ⟨type, Table.ofList [("includeDeprecated", flag)], none, none⟩)

/-- A reference to a standard type that is never null. -/
def sure (name : String) : TypeRef := .nonNull (.named name)

/-- A reference to a list of a standard type without nulls in it. -/
def listOf (name : String) : TypeRef := .list (sure name)

/-- The fields of the standard object types. -/
def introspectionFields : List (String × List (String × Field)) :=
  let text : TypeRef := .named "String"
  [("__Schema",
      [plainField "description" text,
        plainField "types" (.nonNull (listOf "__Type")),
        plainField "queryType" (sure "__Type"),
        plainField "mutationType" (.named "__Type"),
        plainField "subscriptionType" (.named "__Type"),
        filteredField "directives" (.nonNull (listOf "__Directive"))]),
    ("__Directive",
      [plainField "name" (sure "String"),
        plainField "description" text,
        plainField "isRepeatable" (sure "Boolean"),
        plainField "locations" (.nonNull (listOf "__DirectiveLocation")),
        filteredField "args" (.nonNull (listOf "__InputValue")),
        plainField "isDeprecated" (sure "Boolean"),
        plainField "deprecationReason" text]),
    ("__Type",
      [plainField "kind" (sure "__TypeKind"),
        plainField "name" text,
        plainField "description" text,
        plainField "specifiedByURL" text,
        filteredField "fields" (listOf "__Field"),
        plainField "interfaces" (listOf "__Type"),
        plainField "possibleTypes" (listOf "__Type"),
        filteredField "enumValues" (listOf "__EnumValue"),
        filteredField "inputFields" (listOf "__InputValue"),
        plainField "ofType" (.named "__Type"),
        plainField "isOneOf" (.named "Boolean")]),
    ("__Field",
      [plainField "name" (sure "String"),
        plainField "description" text,
        filteredField "args" (.nonNull (listOf "__InputValue")),
        plainField "type" (sure "__Type"),
        plainField "isDeprecated" (sure "Boolean"),
        plainField "deprecationReason" text]),
    ("__InputValue",
      [plainField "name" (sure "String"),
        plainField "description" text,
        plainField "type" (sure "__Type"),
        plainField "defaultValue" text,
        plainField "isDeprecated" (sure "Boolean"),
        plainField "deprecationReason" text]),
    ("__EnumValue",
      [plainField "name" (sure "String"),
        plainField "description" text,
        plainField "isDeprecated" (sure "Boolean"),
        plainField "deprecationReason" text])]

/-- The descriptions and values of the standard enums. -/
def introspectionEnums : List (String × String × List String) :=
  [("__DirectiveLocation",
      "A Directive can be adjacent to many parts of the GraphQL language,"
        ++ " a __DirectiveLocation describes one such possible adjacencies.",
      Sdl.Location.all.map Sdl.Location.keyword),
    ("__TypeKind",
      "An enum describing what kind of type a given `__Type` is.",
      ["SCALAR", "OBJECT", "INTERFACE", "UNION", "ENUM", "INPUT_OBJECT", "LIST", "NON_NULL"])]

/-- The standard type of a name. -/
def standardType? (name : String) : Option NamedType :=
  if Sdl.standardScalars.contains name then some ⟨none, [], .scalar true⟩
  else match introspectionFields.lookup name with
    | some fields => some ⟨none, [], .object [] (Table.ofList fields)⟩
    | none => (introspectionEnums.lookup name).map fun (description, values) =>
      ⟨description, [], .enum (Table.ofList (values.map fun v => (v, ⟨none⟩)))⟩

end Supergraph.Schema

import Supergraph.Federation

/-!
# Declarations

The types that a schema declares itself, with the hints of their fields. Root operation types,
introspection types, standard scalars and the types of the join and link namespaces are left out. A
field without a shape is declared with the opaque hint.

## Main definitions

* `Federation.declarationOf?` — the declaration of a named type
* `Federation.declarations` — the declarations in the order of the types
-/

namespace Supergraph.Federation

/-- The hint of a type reference, which is the opaque one if the reference has no shape. -/
def hintOf (fed : Federation) (type field : String) (ref : TypeRef) : Traced String := do
  match Shape.ofTypeRef fed.schema ref with
  | .ok shape => return shape.hint
  | .error cause =>
    Traced.tell (.opaqueField type field cause)
    return Shape.opaqueHint

/-- A field with its hint, provided that the field has a definition. -/
def fieldHint (fed : Federation) (type field : String) (isDefined : Bool) (ref : TypeRef) :
    Traced FieldHint := do
  if isDefined then return ⟨field, ← fed.hintOf type field ref⟩
  else Traced.fail (.undefinedField type field)

/-- The declared fields of an object type or interface. -/
def fieldHints (fed : Federation) (type : String) (fields : Table Schema.Field) :
    Traced (List FieldHint) :=
  fields.entries.mapM fun (name, f) => fed.fieldHint type name f.applied?.isSome f.type

/-- The declared fields of an input type. -/
def inputHints (fed : Federation) (type : String) (fields : Table Schema.InputValue) :
    Traced (List FieldHint) :=
  fields.entries.mapM fun (name, f) => fed.fieldHint type name f.isDefined f.type

/-- The declaration of a named type. Standard scalars have none. -/
def declarationOf? (fed : Federation) (name : String) (type : Schema.NamedType) :
    Traced (Option Declaration) := do
  match type.body with
  | .scalar true => return none
  | .scalar false => return some ⟨.scalar, name, [], [], type.description⟩
  | .enum values => return some ⟨.enum, name, [], values.keys, type.description⟩
  | .union members => return some ⟨.union, name, [], members, type.description⟩
  | .input fields _ =>
    return some ⟨.input, name, ← fed.inputHints name fields, [], type.description⟩
  | .interface _ fields =>
    return some ⟨.interface, name, ← fed.fieldHints name fields, [], type.description⟩
  | .object _ fields =>
    return some ⟨.object, name, ← fed.fieldHints name fields, [], type.description⟩

/-- The declarations in the order of the types. -/
def declarations (fed : Federation) : Traced (List Declaration) := do
  let declared := fed.schema.types.entries.filter fun t => isDeclaredName t.1
  let found ← declared.mapM fun (name, type) => fed.declarationOf? name type
  let declarations := found.filterMap id
  Traced.tell (.declarationsRead declarations.length)
  return declarations

end Supergraph.Federation

import Supergraph.Schema.Basic

/-!
# Detached parts

A schema that is not put together from a document may have types, fields, arguments and enum values
without a definition. Detaching a part takes its definition away and leaves the rest as it is.

## Main definitions

* `Schema.detachType`, `Schema.detachValue`, `Schema.detachField`, `Schema.detachArgument` — the
  schema without the definition of a part
-/

namespace Supergraph.Schema

/-- The schema with a type changed. -/
def modifyType (schema : Schema) (name : String) (change : NamedType → NamedType) : Schema :=
  { schema with types := schema.types.modify name change }

/-- The schema without the definition of a type. -/
def detachType (schema : Schema) (type : String) : Schema :=
  schema.modifyType type fun t => { t with applied := [] }

/-- The schema with what a type is changed. -/
def modifyBody (schema : Schema) (name : String) (change : TypeBody → TypeBody) : Schema :=
  schema.modifyType name fun t => { t with body := change t.body }

/-- The schema without the definition of an enum value. -/
def detachValue (schema : Schema) (type value : String) : Schema :=
  schema.modifyBody type fun
    | .enum values => .enum (values.modify value fun _ => ⟨none⟩)
    | body => body

/-- The type with a field changed. -/
def TypeBody.modifyField (name : String) (change : Field → Field)
    (changeInput : InputValue → InputValue) : TypeBody → TypeBody
  | object interfaces fields => .object interfaces (fields.modify name change)
  | interface interfaces fields => .interface interfaces (fields.modify name change)
  | input fields oneOf => .input (fields.modify name changeInput) oneOf
  | body => body

/-- The schema without the definition of a field. -/
def detachField (schema : Schema) (type field : String) : Schema :=
  schema.modifyBody type (TypeBody.modifyField field (fun f => { f with applied? := none })
    fun f => { f with isDefined := false })

/-- The schema without the definition of an argument of a field. -/
def detachArgument (schema : Schema) (type field argument : String) : Schema :=
  let detach (f : Field) : Field :=
    { f with arguments := f.arguments.modify argument fun a => { a with isDefined := false } }
  schema.modifyBody type (TypeBody.modifyField field detach id)

end Supergraph.Schema

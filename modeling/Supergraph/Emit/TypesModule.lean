import Supergraph.Emit.Docstring
import Supergraph.Plan.Basic
import Supergraph.Text.Identifier

/-!
# The types module

The emitted module that declares every type that hints refer to: scalars and unions as aliases,
enums as classes of texts, the types with fields as dictionaries of which any subset of fields may
be present.

## Main definitions

* `aliasOfScalar`, `enumClass`, `fieldsClass`, `aliasOfUnion` — the lines of one declaration
* `typesModule` — the module
-/

namespace Supergraph.Emit

/-- The lines before the first declaration. -/
def typesHeader : List String :=
  ["# Auto-generated types from the supergraph schema",
    "# Do not edit manually - regenerate with: gatewaygen generate",
    "",
    "from __future__ import annotations",
    "",
    "from enum import Enum",
    "from typing import Any, Optional, TypedDict, Union"]

/-- The order of the kinds of declarations in the module. -/
def sections : List DeclarationKind :=
  [.scalar, .enum, .input, .interface, .object, .union]

/-- Four spaces: the indentation of a class body. -/
def bodyIndent : String := "    "

/-- The docstring lines of a class. -/
def classDocstring (d : Declaration) : List String :=
  match d.description with
  | some text => docstring text bodyIndent
  | none => []

/-- A scalar of which nothing is known. -/
def aliasOfScalar (d : Declaration) : List String :=
  [d.name ++ " = " ++ Shape.opaqueHint]

/-- A class with one member for each value of the enum. -/
def enumClass (d : Declaration) : List String :=
  ("class " ++ d.name ++ "(str, Enum):") :: classDocstring d
    ++ d.members.map fun value =>
      bodyIndent ++ Text.escapeIdentifier value ++ " = " ++ Text.quoted value

/-- A type with fields, written as a call: the form in which any word may name a field. -/
def fieldsCall (d : Declaration) : List String :=
  (d.name ++ " = TypedDict(" ++ Text.quoted d.name ++ ", \x7b")
    :: d.fields.map (fun f =>
      bodyIndent ++ Text.quoted f.name ++ ": " ++ Text.quoted f.hint ++ ",")
    ++ ["\x7d, total=False)"]

/-- The body of a class without docstring and without fields. -/
def emptyBody : List String := [bodyIndent ++ "pass"]

/-- A type with fields, written as a class with one attribute for each field. -/
def fieldsClassBody (d : Declaration) : List String :=
  classDocstring d ++ d.fields.map fun f => bodyIndent ++ f.name ++ ": " ++ f.hint

/-- A type with fields. A field named by a reserved word can be no attribute of a class. -/
def fieldsClass (d : Declaration) : List String :=
  if d.fields.any fun f => Text.isReserved f.name then fieldsCall d
  else
    ("class " ++ d.name ++ "(TypedDict, total=False):")
      :: (if (fieldsClassBody d).isEmpty then emptyBody else fieldsClassBody d)

/-- An alias of the members of the union. -/
def aliasOfUnion (d : Declaration) : List String :=
  [d.name ++ " = Union[" ++ String.intercalate ", " d.members ++ "]"]

/-- The lines of one declaration. -/
def declarationLines (d : Declaration) : List String :=
  match d.kind with
  | .scalar => aliasOfScalar d
  | .enum => enumClass d
  | .input | .interface | .object => fieldsClass d
  | .union => aliasOfUnion d

/-- Whether the declarations of a kind stand close together, as aliases do. -/
def isCompact : DeclarationKind → Bool
  | .scalar | .union => true
  | _ => false

/-- The two empty lines that keep declarations apart. -/
def gap : List String := ["", ""]

/-- The lines of the declarations of one kind. -/
def sectionLines (declarations : List Declaration) (kind : DeclarationKind) : List String :=
  let ofKind := declarations.filter fun d => d.kind = kind
  if ofKind.isEmpty then []
  -- One gap before all of a compact kind, and one before each declaration of another.
  else if isCompact kind then gap ++ ofKind.flatMap declarationLines
  else ofKind.flatMap fun d => gap ++ declarationLines d

/-- The lines of the types module. -/
def typesLines (declarations : List Declaration) : List String :=
  typesHeader ++ sections.flatMap (sectionLines declarations) ++ [""]

/-- The types module. -/
def typesModule (plan : Plan) : String :=
  String.intercalate "\n" (typesLines plan.declarations)

end Supergraph.Emit

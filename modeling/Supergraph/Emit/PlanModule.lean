import Supergraph.Plan.Basic
import Supergraph.Text.Identifier

/-!
# The query plan module

The emitted module with one constant for each subgraph and the table of keys and field owners of the
entities.

## Main definitions

* `clientConstants` — the constants, one for each subgraph
* `entityLines` — the item of one entity
* `planModule` — the module
-/

namespace Supergraph.Emit

/-- The lines before the constants. -/
def planHeader : List String :=
  ["# Auto-generated query plan from the supergraph schema",
    "# Do not edit manually - regenerate with: gatewaygen generate",
    ""]

/-- The constants that hold the names of the subgraphs. -/
def clientConstants (subgraphs : Table Subgraph) : List String :=
  subgraphs.entries.map fun (key, s) => Text.escapeIdentifier key ++ " = " ++ Text.quoted s.name

/-- The key of one subgraph, as it stands in the item of an entity. -/
def keyItem (entry : String × String) : String :=
  Text.escapeIdentifier entry.1 ++ ": " ++ Text.quoted entry.2

/-- The line of one planned field. -/
def fieldLine (f : FieldPlan) : String :=
  "            " ++ Text.quoted f.name ++ ": \x7b\"type\": " ++ Text.quoted f.shape.hint
    ++ ", \"client\": " ++ Text.escapeIdentifier f.owner ++ "\x7d,"

/-- The lines of the planned fields of an entity. -/
def fieldsLines (fields : List FieldPlan) : List String :=
  if fields.isEmpty then ["        \"fields\": \x7b\x7d,"]
  else "        \"fields\": \x7b" :: fields.map fieldLine ++ ["        \x7d,"]

/-- The item of one entity. -/
def entityLines (e : EntityPlan) : List String :=
  ("    " ++ Text.quoted e.typeName ++ ": \x7b")
    :: ("        \"keys\": \x7b" ++ String.intercalate ", " (e.keys.entries.map keyItem) ++ "\x7d,")
    :: fieldsLines e.fields
    ++ ["    \x7d,"]

/-- The lines of the table of entities. -/
def planTableLines (entities : Table EntityPlan) : List String :=
  if entities.isEmpty then ["QUERY_PLAN = \x7b\x7d"]
  else "QUERY_PLAN = \x7b" :: entities.values.flatMap entityLines ++ ["\x7d"]

/-- The lines of the query plan module. -/
def planLines (plan : Plan) : List String :=
  let constants := clientConstants plan.subgraphs
  planHeader ++ (if constants.isEmpty then [] else constants ++ [""])
    ++ planTableLines plan.entities ++ [""]

/-- The query plan module. -/
def planModule (plan : Plan) : String :=
  String.intercalate "\n" (planLines plan)

end Supergraph.Emit

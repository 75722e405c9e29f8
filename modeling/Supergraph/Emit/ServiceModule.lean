import Supergraph.Plan.Basic

/-!
# The service module

The emitted module with the routing tables of the gateway: the addresses of the subgraphs, the port,
and for each root field the subgraph it is forwarded to.

## Main definitions

* `urlLines`, `rootFieldLines`, `rootTableLines` — the tables
* `serviceModule` — the module, or the key of a root field's subgraph that is not registered
-/

namespace Supergraph.Emit

/-- The lines before the port. -/
def serviceHeader : List String :=
  ["# Auto-generated gateway service tables from the supergraph schema",
    "# Do not edit manually - regenerate with: gatewaygen generate",
    ""]

/-- The function that looks an address up. -/
def lookupFunction : List String :=
  ["def get_client_url(client: str) -> str:",
    "    \"\"\"Return the URL of a subgraph by name.\"\"\"",
    "    if client not in SUBGRAPH_URLS:",
    "        raise KeyError(f\"Unknown client: \x7bclient\x7d\")",
    "    return SUBGRAPH_URLS[client]"]

/-- The table of addresses. -/
def urlLines (subgraphs : Table Subgraph) : List String :=
  if subgraphs.isEmpty then ["SUBGRAPH_URLS: dict[str, str] = \x7b\x7d"]
  else
    "SUBGRAPH_URLS: dict[str, str] = \x7b"
      :: subgraphs.values.map (fun s =>
        "    " ++ Text.quoted s.name ++ ": " ++ Text.quoted s.url ++ ",")
      ++ ["\x7d"]

/-- The line of one argument of a root field. -/
def argumentLine (a : ArgumentPlan) : String :=
  "                " ++ Text.quoted a.name ++ ": \x7b\"type\": " ++ Text.quoted a.shape.hint
    ++ (match a.default? with
      | some value => ", \"default\": " ++ value.literal
      | none => "")
    ++ "\x7d,"

/-- The lines of the arguments of a root field. -/
def argumentLines (arguments : List ArgumentPlan) : List String :=
  if arguments.isEmpty then ["            \"arguments\": \x7b\x7d,"]
  else "            \"arguments\": \x7b" :: arguments.map argumentLine ++ ["            \x7d,"]

/-- The item of one root field that is forwarded to the subgraph of the given name. -/
def rootFieldLines (client : String) (f : RootField) : List String :=
  ["        " ++ Text.quoted f.name ++ ": \x7b",
    "            \"type\": " ++ Text.quoted f.shape.hint ++ ",",
    "            \"client\": " ++ Text.quoted client ++ ","]
    ++ argumentLines f.arguments
    ++ (match f.deprecation with
      | some reason => ["            \"deprecated\": " ++ Text.quoted reason ++ ","]
      | none => [])
    ++ ["        \x7d,"]

/-- The name of the subgraph a root field is forwarded to, or its key when it is not registered. -/
def clientName (subgraphs : Table Subgraph) (f : RootField) : Except String String :=
  match subgraphs.get? f.owner with
  | some s => .ok s.name
  | none => .error f.owner

/-- The items of root fields, one after the other. -/
def rootItems (subgraphs : Table Subgraph) : List RootField → Except String (List String)
  | [] => .ok []
  | f :: fs => do
    let client ← clientName subgraphs f
    let rest ← rootItems subgraphs fs
    .ok (rootFieldLines client f ++ rest)

/-- The part of the table for one operation. -/
def operationLines (plan : Plan) (operation : RootOperation) : Except String (List String) := do
  let fields := plan.rootFields.filter fun f => f.operation = operation
  if fields.isEmpty then .ok ["    " ++ Text.quoted operation.label ++ ": \x7b\x7d,"]
  else
    let items ← rootItems plan.subgraphs fields
    .ok (("    " ++ Text.quoted operation.label ++ ": \x7b") :: items ++ ["    \x7d,"])

/-- The table of root fields. -/
def rootTableLines (plan : Plan) : Except String (List String) := do
  let queries ← operationLines plan .query
  let mutations ← operationLines plan .mutation
  .ok ("ROOT_FIELDS = \x7b" :: queries ++ mutations ++ ["\x7d"])

/-- The lines of the service module. -/
def serviceLines (plan : Plan) (port : Int) : Except String (List String) := do
  let table ← rootTableLines plan
  .ok (serviceHeader ++ [s!"PORT = {port}", ""] ++ urlLines plan.subgraphs ++ [""] ++ table
    ++ ["", ""] ++ lookupFunction ++ [""])

/-- The service module, or the key of a root field's subgraph that is not registered. -/
def serviceModule (plan : Plan) (port : Int) : Except String String :=
  (serviceLines plan port).map (String.intercalate "\n")

end Supergraph.Emit

import Supergraph.Document.Basic
import Supergraph.Port
import Supergraph.Yaml.Document
import Supergraph.Yaml.Repetition

/-!
# Configurations

A project is configured by a YAML mapping. Only the port and the format of the plan document are
checked; the other members may be data of any kind.

## Main definitions

* `Config`, `ConfigError` — configurations, and why data are none
* `Config.ofEntries`, `Config.ofText` — the configuration that a mapping or a text says
* `Config.entries`, `Config.text` — a configuration as a mapping and as a text
* `Config.save` — the text, if all of the configuration can be written
-/

namespace Supergraph

open Yaml (Data)

/-- The configuration of a project. -/
structure Config where
  version : Data
  project : Data
  supergraph : Data
  output : Data
  port : Int
  planFormat : PlanFormat
  deriving Inhabited

/-- Why there is no configuration. -/
inductive ConfigError where
  | planFormat (found : Data)
  | port (found : Data)
  /-- The text of a file says something else than a mapping. -/
  | notMapping (path : String)
  | yaml (fault : Yaml.Fault)
  /-- What is to be shown or written holds an integer of too many digits. -/
  | tooLong
  deriving Repr

/-- The wording of the error. -/
def ConfigError.message : ConfigError → String
  | planFormat found =>
    s!"Invalid plan_format '{found.message}', must be one of "
      ++ (Value.list (PlanFormat.names.map Value.text)).literal
  | port found => s!"Invalid port '{found.message}', must be an integer"
  | notMapping path => s!"{path}: configuration must be a mapping"
  | yaml fault => fault.message
  | tooLong => Text.limitMessage ++ Text.limitAdvice

namespace Config

/-- The name of the file that configures a project. -/
def fileName : String := "gatewaygen.yaml"

/-- The name of the file that holds the supergraph, unless another one is named. -/
def usualSupergraph : String := "supergraph.graphql"

/-- The name of the directory that the gateway is written to, unless another one is named. -/
def usualOutput : String := "gateway"

/-- The configuration of a project with nothing but a name. -/
def ofProject (name : Data) : Config :=
  ⟨.int 1, name, .text usualSupergraph, .text usualOutput, defaultPort, .yaml⟩

/-- The format of the plan document that data name. -/
def formatOf? : Data → Option PlanFormat
  | .text name => PlanFormat.ofName? name
  | _ => none

/-- The port that data are. A truth value is none. -/
def portOf? : Data → Option Int
  | .int n => some n
  | _ => none

/-- An error that shows data, which have to be such that they can be written. -/
def showing (cause : Data → ConfigError) (found : Data) : ConfigError :=
  if found.isWritable then cause found else .tooLong

/-- The configuration that members of a mapping say, given by their names. Members that are left out
have their usual values, and other members are passed over. -/
def ofMembers (member? : String → Option Data) : Except ConfigError Config := do
  let usual := ofProject (.text "gateway")
  let member (name : String) (otherwise : Data) : Data := (member? name).getD otherwise
  let format := member "plan_format" (.text usual.planFormat.name)
  let port := member "port" (.int usual.port)
  match formatOf? format, portOf? port with
  | none, _ => throw (showing .planFormat format)
  | _, none => throw (showing .port port)
  | some planFormat, some port =>
    return ⟨member "version" usual.version, member "project" usual.project,
      member "supergraph" usual.supergraph, member "output" usual.output, port, planFormat⟩

/-- The configuration that the entries of a mapping say. -/
def ofEntries (entries : List (Data × Data)) : Except ConfigError Config :=
  ofMembers fun name => Data.lookup? name entries

/-- Whether a scalar counts as nothing: null, false, zero and what is empty. -/
def isNothing : Data → Bool
  | .null => true
  | .bool b => !b
  | .int n => n = 0
  | .float x => x.isZero
  | .text s => s.isEmpty
  | .bytes bs => bs.isEmpty
  | _ => false

/-- Whether a document counts as nothing: an empty collection or a scalar that does. -/
def isNothingAt (d : Yaml.Document) : Bool :=
  d.isEmptyCollection || ((d.scalars.getD d.root none).map isNothing).getD false

/-- The configuration that the text of a file says. -/
def ofText (path text : String) : Except ConfigError Config := do
  match ← (Yaml.Document.ofText text).mapError .yaml with
  | none => ofEntries []
  | some document =>
    -- An empty file, and one that says null, false or zero, is an empty mapping.
    if isNothingAt document then ofEntries []
    else if document.entries?.isSome then ofMembers document.member?
    else throw (.notMapping path)

/-- The configuration as the entries of a mapping. -/
def entries (c : Config) : List (Data × Data) :=
  [(.text "version", c.version), (.text "project", c.project), (.text "supergraph", c.supergraph),
    (.text "output", c.output), (.text "port", .int c.port),
    (.text "plan_format", .text c.planFormat.name)]

/-- The configuration as a text. -/
def text (c : Config) : String :=
  Yaml.Node.writeDocument (Data.nodes c.entries)

/-- The configuration as a text, if it holds no integer of too many digits. -/
def save (c : Config) : Except ConfigError String :=
  if Data.entriesAreWritable c.entries then .ok c.text else .error .tooLong

end Config

end Supergraph

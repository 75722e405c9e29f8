import Supergraph.Document.Basic
import Supergraph.Text.Quoted

/-!
# Settings of the commands

The tool has three commands. The tool itself and each command have settings, which are written as
options before or among the other words of a command line.

## Main definitions

* `Verb` — the commands
* `Setting` — the settings, with the forms they are written in
* `settingsOf`, `formsOf` — the settings of the tool or of a command, and their forms
-/

namespace Supergraph.Command

/-- The commands. -/
inductive Verb where
  | init
  | generate
  | plan
  deriving DecidableEq, Repr

/-- The commands in their order. -/
def Verb.all : List Verb := [init, generate, plan]

/-- The name of the command. -/
def Verb.name : Verb → String
  | init => "init"
  | generate => "generate"
  | plan => "plan"

/-- The command of a name. -/
def Verb.ofName? (name : String) : Option Verb :=
  Verb.all.find? fun verb => verb.name = name

/-- What can be set by an option. -/
inductive Setting where
  | help
  | version
  | config
  | verbose
  | name
  | force
  | supergraph
  | output
  | port
  | format
  deriving DecidableEq, Repr

namespace Setting

/-- The forms that the setting is written in. -/
def forms : Setting → List String
  | help => ["-h", "--help"]
  | version => ["--version"]
  | config => ["--config", "-c"]
  | verbose => ["--verbose", "-v"]
  | name => ["--name"]
  | force => ["--force", "-f"]
  | supergraph => ["--supergraph", "-s"]
  | output => ["--output", "-o"]
  | port => ["--port", "-p"]
  | format => ["--format"]

/-- The name of the setting in messages. -/
def title (s : Setting) : String :=
  String.intercalate "/" s.forms

/-- Whether a value belongs to the setting. -/
def takesValue : Setting → Bool
  | help | version | verbose | force => false
  | config | name | supergraph | output | port | format => true

end Setting

/-- The settings of the tool or of a command, in their order. -/
def settingsOf : Option Verb → List Setting
  | none => [.help, .version, .config, .verbose]
  | some .init => [.help, .name, .force]
  | some .generate => [.help, .supergraph, .output, .port, .format]
  | some .plan => [.help, .supergraph, .format]

/-- The forms of settings, each with its setting. -/
def formsOf (settings : List Setting) : List (String × Setting) :=
  settings.flatMap fun s => s.forms.map (·, s)

/-- Choices as messages list them. -/
def choices (names : List String) : String :=
  String.intercalate ", " (names.map Text.quoted)

end Supergraph.Command

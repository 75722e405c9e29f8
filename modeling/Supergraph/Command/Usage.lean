import Supergraph.Command.Setting

/-!
# Usage of the commands

What the tool says about itself, and why a command line is not understood.

## Main definitions

* `usageOf`, `helpOf`, `versionText` — what the tool says about itself and its commands
* `UsageError` — why a command line is not understood
* `UsageError.message` — the wording
-/

namespace Supergraph.Command

/-- The name of the tool. -/
def toolName : String := "gatewaygen"

/-- The version of the tool, as it is shown. -/
def versionText : String := toolName ++ " 0.1.0\n"

/-- The name of the tool or of a command of it. -/
def titleOf : Option Verb → String
  | none => toolName
  | some verb => toolName ++ " " ++ verb.name

/-- Lines as a text. -/
def lines (ls : List String) : String :=
  String.join (ls.map (· ++ "\n"))

/-- How the tool or a command is used. -/
def usageOf : Option Verb → String
  | none => lines ["usage: gatewaygen [-h] [--version] [--config CONFIG] [--verbose]",
      "                  \x7binit,generate,plan\x7d ..."]
  | some .init => lines ["usage: gatewaygen init [-h] [--name NAME] [--force]"]
  | some .generate => lines ["usage: gatewaygen generate [-h] [--supergraph SUPERGRAPH] [--output OUTPUT]",
      "                           [--port PORT] [--format \x7byaml,json\x7d]"]
  | some .plan =>
    lines ["usage: gatewaygen plan [-h] [--supergraph SUPERGRAPH] [--format \x7byaml,json\x7d]"]

/-- What the tool or a command can do. -/
def helpOf (verb : Option Verb) : String :=
  usageOf verb ++ lines (match verb with
    | none => ["",
        "gatewaygen - federation gateway generator for supergraph schemas",
        "",
        "positional arguments:",
        "  \x7binit,generate,plan\x7d  Available commands",
        "    init                Create a gatewaygen.yaml config",
        "    generate            Generate gateway sources",
        "    plan                Print the query plan",
        "",
        "options:",
        "  -h, --help            show this help message and exit",
        "  --version             show program's version number and exit",
        "  --config CONFIG, -c CONFIG",
        "                        Config file path",
        "  --verbose, -v         Increase log verbosity"]
    | some .init => ["",
        "options:",
        "  -h, --help   show this help message and exit",
        "  --name NAME  Project name",
        "  --force, -f  Overwrite existing config"]
    | some .generate => ["",
        "options:",
        "  -h, --help            show this help message and exit",
        "  --supergraph SUPERGRAPH, -s SUPERGRAPH",
        "                        Supergraph SDL file",
        "  --output OUTPUT, -o OUTPUT",
        "                        Output directory (must exist)",
        "  --port PORT, -p PORT  Gateway port",
        "  --format \x7byaml,json\x7d  Plan document format"]
    | some .plan => ["",
        "options:",
        "  -h, --help            show this help message and exit",
        "  --supergraph SUPERGRAPH, -s SUPERGRAPH",
        "                        Supergraph SDL file",
        "  --format \x7byaml,json\x7d  Output format"])

/-- Why a command line is not understood. -/
inductive UsageError where
  /-- A shortened option stands for several. -/
  | ambiguous (text : String) (forms : List String)
  /-- A value is given to a setting that takes none. -/
  | strayValue (setting : Setting) (value : String)
  | noValue (setting : Setting)
  | notInteger (setting : Setting) (value : String)
  | notFormat (setting : Setting) (value : String)
  | notCommand (name : String)
  | unrecognized (words : List String)
  deriving DecidableEq, Repr

/-- The wording of the error. -/
def UsageError.message : UsageError → String
  | ambiguous text forms =>
    s!"ambiguous option: {text} could match " ++ String.intercalate ", " forms
  | strayValue setting value =>
    s!"argument {setting.title}: ignored explicit argument " ++ Text.quoted value
  | noValue setting => s!"argument {setting.title}: expected one argument"
  | notInteger setting value =>
    s!"argument {setting.title}: invalid int value: " ++ Text.quoted value
  | notFormat setting value =>
    s!"argument {setting.title}: invalid choice: " ++ Text.quoted value ++ " (choose from "
      ++ choices PlanFormat.names ++ ")"
  | notCommand name =>
    "argument command: invalid choice: " ++ Text.quoted name ++ " (choose from "
      ++ choices (Verb.all.map Verb.name) ++ ")"
  | unrecognized words => "unrecognized arguments: " ++ String.intercalate " " words

end Supergraph.Command

import Supergraph.Command.Word
import Supergraph.Config
import Supergraph.Text.Integer

/-!
# Invocations

What a command line asks for. The words before the command set what is set for the tool, and those
after it what is set for the command. Words that nothing is known of are refused together at the
end.

## Main definitions

* `Settings` — what has been set
* `Stop` — why no command is run
* `Reading.ofWords` — what words set, and the words that they leave
* `Invocation.ofArguments` — the invocation that a command line asks for
-/

namespace Supergraph.Command

/-- The port that has been set. -/
inductive PortChoice where
  | unset
  /-- Something that is no port has been set. -/
  | nothing
  | number (n : Int)
  deriving DecidableEq, Repr, Inhabited

/-- What has been set for the tool and its command. There is no path of a configuration if something
that is none has been set. -/
structure Settings where
  verbosity : Nat := 0
  config : Option String := some Config.fileName
  name : Option String := none
  force : Bool := false
  supergraph : Option String := none
  output : Option String := none
  port : PortChoice := .unset
  format : Option PlanFormat := none
  deriving DecidableEq, Repr, Inhabited

/-- Why no command is run. -/
inductive Stop where
  | help (verb : Option Verb)
  | version
  /-- The tool or a command does not understand the command line. -/
  | refused (verb : Option Verb) (error : UsageError)
  deriving DecidableEq, Repr

/-- A command with what has been set for it. -/
structure Invocation where
  verb : Verb
  settings : Settings
  deriving DecidableEq, Repr

/-! ### Setting -/

/-- The settings with one more made. -/
def Settings.set (verb : Option Verb) (s : Settings) :
    Setting × Option String → Except Stop Settings
  | (.help, _) => .error (.help verb)
  | (.version, _) => .error .version
  | (.verbose, _) => .ok { s with verbosity := s.verbosity + 1 }
  | (.force, _) => .ok { s with force := true }
  | (.config, value) => .ok { s with config := value }
  | (.name, value) => .ok { s with name := value }
  | (.supergraph, value) => .ok { s with supergraph := value }
  | (.output, value) => .ok { s with output := value }
  | (.port, none) => .ok { s with port := .nothing }
  | (.port, some value) =>
    match Text.readInteger value with
    | .ok port => .ok { s with port := .number port }
    | .error _ => .error (.refused verb (.notInteger .port value))
  | (.format, none) => .ok { s with format := none }
  | (.format, some value) =>
    match PlanFormat.ofName? value with
    | some format => .ok { s with format := some format }
    | none => .error (.refused verb (.notFormat .format value))

/-- The settings with more made, one after the other. -/
def Settings.setAll (verb : Option Verb) (s : Settings)
    (values : List (Setting × Option String)) : Except Stop Settings :=
  values.foldlM (Settings.set verb) s

/-! ### Reading words -/

/-- What words set, the words that are not known, and the words from the command on. -/
structure Reading where
  settings : Settings
  unknown : List String
  rest : List String
  deriving DecidableEq, Repr

/-- The reading with one more unknown word before the others. -/
def Reading.cons (word : String) (r : Reading) : Reading :=
  { r with unknown := word :: r.unknown }

/-- What words set and leave. Settings whose last one waits for its value in the next word are made
together with it. Only the tool reads up to a command. -/
def Reading.ofWords (verb : Option Verb) (forms : List (String × Setting)) :
    Option (List (Setting × Option String) × Setting) → Settings → List (String × Word) →
      Except Stop Reading
  | some (before, setting), s, (text, .argument) :: rest => do
    let s ← s.setAll verb (before ++ [(setting, some text)])
    Reading.ofWords verb forms none s rest
  | some (_, setting), _, _ => .error (.refused verb (.noValue setting))
  | none, s, [] => .ok ⟨s, [], []⟩
  | none, s, (text, .argument) :: rest =>
    if verb = none then .ok ⟨s, [], text :: rest.map Prod.fst⟩
    else (Reading.ofWords verb forms none s rest).map (Reading.cons text)
  | none, s, (text, .dashes) :: rest =>
    if verb = none && !rest.isEmpty then .ok ⟨s, [], text :: rest.map Prod.fst⟩
    else (Reading.ofWords verb forms none s rest).map (Reading.cons text)
  | none, s, (text, .unknown) :: rest =>
    (Reading.ofWords verb forms none s rest).map (Reading.cons text)
  | none, s, (_, .option setting attached) :: rest => do
    let bundle ← (Bundle.ofOption forms setting attached).mapError (.refused verb)
    match bundle.waiting with
    -- Nothing is set before the value is there, not even what would end the reading.
    | some waiting => Reading.ofWords verb forms (some (bundle.settings, waiting)) s rest
    | none =>
      let s ← s.setAll verb bundle.settings
      Reading.ofWords verb forms none s rest

/-- What the words of the tool or of a command set and leave. -/
def Reading.ofTexts (verb : Option Verb) (s : Settings) (texts : List String) :
    Except Stop Reading := do
  let forms := formsOf (settingsOf verb)
  let words ← (Word.ofTexts forms texts).mapError (.refused verb)
  Reading.ofWords verb forms none s words

/-- The invocation that a command line asks for. -/
def Invocation.ofArguments (arguments : List String) : Except Stop Invocation := do
  let before ← Reading.ofTexts none {} arguments
  match before.rest with
  | [] =>
    throw (if before.unknown.isEmpty then .help none
      else .refused none (.unrecognized before.unknown))
  | name :: texts =>
    match Verb.ofName? name with
    | none => throw (.refused none (.notCommand name))
    | some verb =>
      let after ← Reading.ofTexts (some verb) before.settings texts
      -- The tool refuses the words that its command did not know.
      let unknown := before.unknown ++ after.unknown
      if unknown.isEmpty then return ⟨verb, after.settings⟩
      else throw (.refused none (.unrecognized unknown))

end Supergraph.Command

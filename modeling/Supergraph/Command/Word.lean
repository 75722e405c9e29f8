import Supergraph.Command.Usage
import Supergraph.Text.Digit

/-!
# Words of a command line

Each word of a command line is an option or an argument. An option is written in full or shortened,
and its value may be attached to it. Short options may be run together in one word. A value of two
dashes that is attached to its option is no value.

## Main definitions

* `Word` — the words, with `Word.ofText` and `Word.ofTexts`
* `Bundle` — the settings that one word makes
* `Bundle.ofOption` — takes a word of options apart
-/

namespace Supergraph.Command

/-- What is attached to an option in its word. -/
inductive Attached where
  | nothing
  /-- The text after the equals sign of a long option. -/
  | value (text : List Char)
  /-- What follows a short option in its word, without an equals sign right after the option if it
  stands alone. -/
  | rest (text : List Char)
  deriving DecidableEq, Repr

/-- What a word of a command line is. -/
inductive Word where
  | argument
  /-- Two dashes, after which there are no options. -/
  | dashes
  | option (setting : Setting) (attached : Attached)
  /-- An option that is not known. -/
  | unknown
  deriving DecidableEq, Repr

/-! ### Telling words -/

/-- Whether characters are written like a negative number. One line feed may follow it. -/
def isNegativeNumber (cs : List Char) : Bool :=
  let isDigit := fun c => (Text.digitValue? c).isSome
  let cs := if cs.getLast? = some '\n' then cs.dropLast else cs
  match cs with
  | '-' :: rest =>
    match rest.dropWhile isDigit with
    | [] => !rest.isEmpty
    | '.' :: places => !places.isEmpty && places.all isDigit
    | _ => false
  | _ => false

/-- The part of a word before the first equals sign, and the part after it. -/
def splitEquals (cs : List Char) : List Char × Option (List Char) :=
  let (before, rest) := cs.span (· ≠ '=')
  match rest with
  | [] => (before, none)
  | _ :: after => (before, some after)

/-- Whether the form of an option is a short one, with a single dash. -/
def isShortForm (form : List Char) : Bool :=
  form[1]? ≠ some '-'

/-- What is attached to the form of an option by an equals sign, if there is one. -/
def attachedTo (form : List Char) : Option (List Char) → Attached
  | none => .nothing
  | some text => if isShortForm form then .rest text else .value text

/-- The options that a shortened word may stand for, with the forms it may be short for. -/
def candidates (forms : List (String × Setting)) (cs : List Char) : List (String × Word) :=
  match cs with
  | '-' :: '-' :: _ =>
    -- A long option is shortened up to its equals sign.
    let (stem, value) := splitEquals cs
    forms.filterMap fun (form, setting) =>
      if stem.isPrefixOf form.toList then
        some (form, .option setting (attachedTo form.toList value))
      else none
  | _ =>
    forms.filterMap fun (form, setting) =>
      -- What follows a short option in its word is joined to it.
      if form.toList = cs.take 2 then some (form, .option setting (.rest (cs.drop 2)))
      else if cs.isPrefixOf form.toList then some (form, .option setting .nothing)
      else none

/-- The word that a text is among forms of settings. -/
def Word.ofText (forms : List (String × Setting)) (text : String) : Except UsageError Word :=
  let cs := text.toList
  if cs.head? ≠ some '-' then .ok .argument
  else match forms.lookup text with
    | some setting => .ok (.option setting .nothing)
    | none =>
      if cs.length = 1 then .ok .argument
      else
        let (stem, value) := splitEquals cs
        -- A form in full before the equals sign is never taken for a shortened one.
        match value, forms.lookup (String.ofList stem) with
        | some value, some setting => .ok (.option setting (attachedTo stem (some value)))
        | _, _ =>
          match candidates forms cs with
          | [(_, word)] => .ok word
          | _ :: _ :: _ => .error (.ambiguous text ((candidates forms cs).map Prod.fst))
          | [] => .ok (if isNegativeNumber cs || cs.contains ' ' then .argument else .unknown)

/-- The words of a command line with their texts. -/
def Word.ofTexts (forms : List (String × Setting)) :
    List String → Except UsageError (List (String × Word))
  | [] => .ok []
  | "--" :: rest => .ok (("--", .dashes) :: rest.map (·, .argument))
  | text :: rest => do
    let word ← Word.ofText forms text
    return (text, word) :: (← Word.ofTexts forms rest)

/-! ### Taking words apart -/

/-- What a word of options says: settings with their values, if they have any, and a setting whose
value is the next word. -/
structure Bundle where
  settings : List (Setting × Option String)
  waiting : Option Setting
  deriving DecidableEq, Repr

/-- The bundle with one more setting before the others. -/
def Bundle.cons (setting : Setting) (b : Bundle) : Bundle :=
  { b with settings := (setting, none) :: b.settings }

/-- What a setting says that no value is attached to. -/
def Bundle.ofSetting (setting : Setting) : Bundle :=
  if setting.takesValue then ⟨[], some setting⟩ else ⟨[(setting, none)], none⟩

/-- What a setting says that a text is attached to. Two dashes are no value. -/
def Bundle.ofValue (setting : Setting) (text : List Char) : Except UsageError Bundle :=
  if !setting.takesValue then .error (.strayValue setting (String.ofList text))
  else if text = ['-', '-'] then .ok ⟨[(setting, none)], none⟩
  else .ok ⟨[(setting, some (String.ofList text))], none⟩

/-- What a short option and the rest of its word say. The rest is the value, or more short options.
-/
def Bundle.ofRest (forms : List (String × Setting)) (setting : Setting) :
    List Char → Except UsageError Bundle
  | [] => .ok (.ofSetting setting)
  | c :: rest =>
    if setting.takesValue then Bundle.ofValue setting (c :: rest)
    else match forms.lookup (String.ofList ['-', c]) with
      | none => .error (.strayValue setting (String.ofList (c :: rest)))
      | some next => (Bundle.ofRest forms next rest).map (Bundle.cons setting)

/-- What an option says. -/
def Bundle.ofOption (forms : List (String × Setting)) (setting : Setting) :
    Attached → Except UsageError Bundle
  | .nothing => .ok (.ofSetting setting)
  | .value text => Bundle.ofValue setting text
  | .rest [] => Bundle.ofValue setting []
  | .rest (c :: rest) => Bundle.ofRest forms setting (c :: rest)

end Supergraph.Command

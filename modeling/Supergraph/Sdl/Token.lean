/-!
# Tokens of the schema language

## Main definitions

* `Punctuator`, `Token` — the tokens
* `Token.describe` — a token as messages name it
-/

namespace Supergraph.Sdl

/-- The marks of the language. -/
inductive Punctuator where
  | bang
  | dollar
  | amp
  | parenOpen
  | parenClose
  | spread
  | colon
  | equals
  | atSign
  | bracketOpen
  | bracketClose
  | braceOpen
  | pipe
  | braceClose
  deriving DecidableEq, Repr, Inhabited

/-- The text of a mark. -/
def Punctuator.text : Punctuator → String
  | bang => "!"
  | dollar => "$"
  | amp => "&"
  | parenOpen => "("
  | parenClose => ")"
  | spread => "..."
  | colon => ":"
  | equals => "="
  | atSign => "@"
  | bracketOpen => "["
  | bracketClose => "]"
  | braceOpen => "\x7b"
  | pipe => "|"
  | braceClose => "\x7d"

/-- The marks of one character. -/
def Punctuator.ofChar? (c : Char) : Option Punctuator :=
  [bang, dollar, amp, parenOpen, parenClose, colon, equals, atSign, bracketOpen, bracketClose,
    braceOpen, pipe, braceClose].find? fun p => p.text.toList == [c]

/-- A token. Numbers keep their text, strings have their value. -/
inductive Token where
  | endOfText
  | mark (p : Punctuator)
  | name (value : String)
  | int (text : String)
  | float (text : String)
  | string (value : String)
  | block (value : String)
  deriving DecidableEq, Repr, Inhabited

/-- A mark as messages name it. -/
def Punctuator.describe (p : Punctuator) : String :=
  "'" ++ p.text ++ "'"

/-- A token as messages name it. -/
def Token.describe : Token → String
  | endOfText => "<EOF>"
  | mark p => p.describe
  | name value => "Name '" ++ value ++ "'"
  | int text => "Int '" ++ text ++ "'"
  | float text => "Float '" ++ text ++ "'"
  | string value => "String '" ++ value ++ "'"
  | block value => "BlockString '" ++ value ++ "'"

end Supergraph.Sdl

import Supergraph.Text.Blank
import Supergraph.Text.Quoted

/-!
# Docstrings

A class of the emitted types module begins with the first line of its description, as one string
literal on one line.

## Main definitions

* `summary` — the first line of a description, without the blanks around it
* `docstring` — the lines of the docstring, none for a description of blanks only
-/

namespace Supergraph.Emit

/-- The first line of a description that has more than blanks, without the blanks around it. -/
def summary (description : String) : List Char :=
  Text.trim (Text.firstLine (Text.trim description.toList))

/-- Whether three double quotes stand next to each other. -/
def holdsTripleQuote : List Char → Bool
  | '"' :: '"' :: '"' :: _ => true
  | _ :: cs => holdsTripleQuote cs
  | [] => false

/-- Whether a text between triple quotes would end early or be read with escapes. -/
def needsQuoting (cs : List Char) : Bool :=
  holdsTripleQuote cs || cs.contains '\\' || cs.getLast? == some '"'

/-- The characters of the literal for the first line of a description. -/
def docstringLiteral (cs : List Char) : List Char :=
  if needsQuoting cs then Text.quotedChars cs
  else ['"', '"', '"'] ++ cs ++ ['"', '"', '"']

/-- The lines of the docstring for a description. -/
def docstring (description indent : String) : List String :=
  if (Text.trim description.toList).isEmpty then []
  else [indent ++ String.ofList (docstringLiteral (summary description))]

end Supergraph.Emit

/-!
# Tokens of YAML texts

Marks, scalars and properties, with tokens for the beginning and the end of the collections that
only indentation shows.

## Main definitions

* `Directive`, `Token` — directives and tokens
-/

namespace Supergraph.Yaml

/-- What a directive says: the version of the text, the meaning of a handle of tags, or something
that is passed over. -/
inductive Directive where
  | version (major : Int)
  | tagHandle (handle stem : String)
  | other
  deriving DecidableEq, Repr

/-- A token. The tag of a node is a suffix that is added to what its handle means, if it has one. -/
inductive Token where
  | endOfText
  | directive (d : Directive)
  | documentStart
  | documentEnd
  | blockSequenceStart
  | blockMappingStart
  | blockEnd
  | flowSequenceStart
  | flowSequenceEnd
  | flowMappingStart
  | flowMappingEnd
  | blockEntry
  | flowEntry
  | key
  | value
  | reference (name : String)
  | anchor (name : String)
  | tag (handle : Option String) (suffix : String)
  | scalar (plain : Bool) (text : String)
  deriving DecidableEq, Repr, Inhabited

end Supergraph.Yaml

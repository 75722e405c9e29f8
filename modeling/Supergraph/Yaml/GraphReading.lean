import Supergraph.Yaml.Graph
import Supergraph.Yaml.Lexer

/-!
# From tokens to graphs

A text says at most one document. Its nodes become vertices as they begin, so that an alias may lead
to a node that it lies in.

## Main definitions

* `GraphReader`, `GraphReading` — the state of reading a graph, and readers
* `GraphReading.node` — takes a node
* `Graph.ofText` — the graph that a text says, with its root, if it says one
-/

namespace Supergraph.Yaml

/-- The state of reading a graph: the tokens, the vertices so far, those that are marked by anchors,
and what the handles of tags mean. -/
structure GraphReader where
  lexer : Lexer
  graph : Graph := {}
  anchors : List (String × Nat) := []
  handles : List (String × String) := []

/-- Readers of graphs. -/
abbrev GraphReading (α : Type) := StateT GraphReader (Except Fault) α

namespace GraphReading

/-! ### Tokens -/

/-- A step of reading tokens. -/
def lex {α : Type} (step : Lexing α) : GraphReading α := do
  let s ← get
  let (a, lexer) ← step.run s.lexer
  set { s with lexer := lexer }
  return a

/-- The next token. -/
def peek : GraphReading Token := lex Lexing.peek

/-- Takes the next token. -/
def advance : GraphReading Unit := lex Lexing.advance

/-- Whether the next token is one of some. -/
def isNext (tokens : List Token) : GraphReading Bool := do
  return tokens.contains (← peek)

/-- Takes a token if it comes next. -/
def accept (t : Token) : GraphReading Bool := do
  if (← peek) == t then
    advance
    return true
  else return false

/-- Takes a token that has to come next. -/
def expect (t : Token) : GraphReading Unit := do
  if !(← accept t) then throw .malformed

/-! ### Tags and anchors -/

/-- The handles that need no directive. -/
def standardHandles : List (String × String) := [("!", "!"), ("!!", Tag.standardStem)]

/-- The full name of a tag. -/
def tagName (handle : Option String) (suffix : String) : GraphReading String := do
  match handle with
  | none => return suffix
  | some handle =>
    match (← get).handles.lookup handle with
    | some stem => return stem ++ suffix
    | none => throw .malformed

/-- Takes an anchor, if one comes next. -/
def anchor? : GraphReading (Option String) := do
  match ← peek with
  | .anchor name =>
    advance
    return some name
  | _ => return none

/-- Takes a tag, if one comes next, and gives its handle and suffix. -/
def tag? : GraphReading (Option (Option String × String)) := do
  match ← peek with
  | .tag handle suffix =>
    advance
    return some (handle, suffix)
  | _ => return none

/-- Takes an anchor and a tag in any order, each if it is there. -/
def properties : GraphReading (Option String × Option String) := do
  let early ← anchor?
  let tag ← tag?
  let late ← if early.isNone && tag.isSome then anchor? else pure none
  match tag with
  | none => return (early, none)
  | some (handle, suffix) => return (early.or late, some (← tagName handle suffix))

/-- The tag of a scalar: the given one, or the one that its text has. -/
def scalarTag (tag : Option String) (plain : Bool) (text : String) : Tag :=
  match tag with
  | none => if plain then Tag.ofPlain text.toList else .text
  | some "!" => Tag.ofPlain text.toList
  | some name => Tag.ofName name

/-- The tag of a collection: the given one, or the usual one of its kind. -/
def collectionTag (usual : Tag) (tag : Option String) : Tag :=
  match tag with
  | none | some "!" => usual
  | some name => Tag.ofName name

/-! ### Vertices -/

/-- Adds a vertex, and marks it by an anchor, which must not mark another one. -/
def add (anchor : Option String) (v : Vertex) : GraphReading Nat := do
  let s ← get
  let number := s.graph.size
  match anchor with
  | none => set { s with graph := s.graph.add v }
  | some name =>
    if (s.anchors.lookup name).isSome then throw .malformed
    set { s with graph := s.graph.add v, anchors := (name, number) :: s.anchors }
  return number

/-- Gives a vertex its content. -/
def fill (number : Nat) (content : Content) : GraphReading Unit :=
  modify fun s => { s with graph := s.graph.setContent number content }

/-- Adds a scalar. -/
def addScalar (anchor tag : Option String) (plain : Bool) (text : String) : GraphReading Nat :=
  add anchor ⟨scalarTag tag plain text, .scalar text⟩

/-- Adds the scalar that stands where a node is left out. -/
def addEmpty : GraphReading Nat := addScalar none none true ""

/-- Adds a sequence, which is there before its items are read. -/
def addSequence (anchor tag : Option String) (items : GraphReading (List Nat)) :
    GraphReading Nat := do
  let number ← add anchor ⟨collectionTag .sequence tag, .sequence []⟩
  fill number (.sequence (← items))
  return number

/-- Adds a mapping, which is there before its entries are read. -/
def addMapping (anchor tag : Option String) (entries : GraphReading (List (Nat × Nat))) :
    GraphReading Nat := do
  let number ← add anchor ⟨collectionTag .mapping tag, .mapping []⟩
  fill number (.mapping (← entries))
  return number

/-- The vertex that an anchor marks. -/
def anchored (name : String) : GraphReading Nat := do
  match (← get).anchors.lookup name with
  | some number => return number
  | none => throw .malformed

/-! ### Items and entries -/

/-- A node, or an empty scalar if one of the given tokens comes next. -/
def orEmpty (stops : List Token) (node : GraphReading Nat) : GraphReading Nat := do
  if ← isNext stops then addEmpty else node

/-- The items of a block up to its end. -/
def blockItems (node : GraphReading Nat) : Nat → GraphReading (List Nat)
  | 0 => throw .malformed
  | n + 1 => do
    if ← accept .blockEntry then
      let item ← orEmpty [.blockEntry, .blockEnd] node
      return item :: (← blockItems node n)
    else
      expect .blockEnd
      return []

/-- Items at the indentation of the mapping around them, which end where no further one begins. -/
def indentlessItems (node : GraphReading Nat) : Nat → GraphReading (List Nat)
  | 0 => throw .malformed
  | n + 1 => do
    if ← accept .blockEntry then
      let item ← orEmpty [.blockEntry, .key, .value, .blockEnd] node
      return item :: (← indentlessItems node n)
    else return []

/-- A value after its mark, or an empty scalar. -/
def valueOr (stops : List Token) (node : GraphReading Nat) : GraphReading Nat := do
  if ← accept .value then orEmpty stops node else addEmpty

/-- The entries of a block up to its end. Each begins with the mark of its key. -/
def blockEntries (node : GraphReading Nat) : Nat → GraphReading (List (Nat × Nat))
  | 0 => throw .malformed
  | n + 1 => do
    if ← accept .key then
      let stops := [Token.key, .value, .blockEnd]
      let key ← orEmpty stops node
      let value ← valueOr stops node
      return (key, value) :: (← blockEntries node n)
    else
      expect .blockEnd
      return []

/-- Takes a closing bracket, or the comma before a further item. Says whether the bracket closed. -/
def closes (isFirst : Bool) (close : Token) : GraphReading Bool := do
  if ← accept close then return true
  if !isFirst then expect .flowEntry
  accept close

/-- An entry between brackets, from after the mark of its key. -/
def flowPair (close : Token) (node : GraphReading Nat) : GraphReading (Nat × Nat) := do
  let key ← orEmpty [.value, .flowEntry, close] node
  let value ← valueOr [.flowEntry, close] node
  return (key, value)

/-- The items between brackets up to the closing one. A key makes a mapping of one entry. -/
def flowItems (node : GraphReading Nat) (isFirst : Bool) : Nat → GraphReading (List Nat)
  | 0 => throw .malformed
  | n + 1 => do
    if ← closes isFirst .flowSequenceEnd then return []
    let item ← if ← accept .key then
        addMapping none none do return [← flowPair .flowSequenceEnd node]
      else node
    return item :: (← flowItems node false n)

/-- The entries between braces up to the closing one. A node without a mark is a key without
value. -/
def flowEntries (node : GraphReading Nat) (isFirst : Bool) : Nat → GraphReading (List (Nat × Nat))
  | 0 => throw .malformed
  | n + 1 => do
    if ← closes isFirst .flowMappingEnd then return []
    let entry ← if ← accept .key then flowPair .flowMappingEnd node
      else do pure (← node, ← addEmpty)
    return entry :: (← flowEntries node false n)

/-! ### Nodes -/

/-- The contexts of a node: at the top or as an item of a block, as part of a mapping in a block, or
between brackets. -/
inductive Context where
  | block
  | entry
  | flow
  deriving DecidableEq

/-- Takes a node. The number of tokens bounds how deep nodes are nested, and how many lie in one. -/
def node (context : Context) : Nat → GraphReading Nat
  | 0 => throw .malformed
  | n + 1 => do
    match ← peek with
    | .reference name =>
      advance
      anchored name
    | _ =>
      let (anchor, tag) ← properties
      let leftOut : GraphReading Nat :=
        if anchor.isSome || tag.isSome then addScalar anchor tag true "" else throw .malformed
      match ← peek with
      | .scalar plain text =>
        advance
        addScalar anchor tag plain text
      | .blockEntry =>
        if context = .entry then addSequence anchor tag (indentlessItems (node .block n) n)
        else leftOut
      | .flowSequenceStart =>
        addSequence anchor tag do
          advance
          flowItems (node .flow n) true n
      | .flowMappingStart =>
        addMapping anchor tag do
          advance
          flowEntries (node .flow n) true n
      | .blockSequenceStart =>
        if context = .flow then throw .malformed
        addSequence anchor tag do
          advance
          blockItems (node .block n) n
      | .blockMappingStart =>
        if context = .flow then throw .malformed
        addMapping anchor tag do
          advance
          blockEntries (node .entry n) n
      | _ => leftOut

/-! ### Documents -/

/-- Takes directives, of which a version and each handle may come once. -/
def directives (hasVersion : Bool) : Nat → GraphReading Unit
  | 0 => throw .malformed
  | n + 1 => do
    match ← peek with
    | .directive (.version major) =>
      if hasVersion || major ≠ 1 then throw .malformed
      advance
      directives true n
    | .directive (.tagHandle handle stem) =>
      let s ← get
      if (s.handles.lookup handle).isSome then throw .malformed
      set { s with handles := (handle, stem) :: s.handles }
      advance
      directives hasVersion n
    | .directive .other =>
      advance
      directives hasVersion n
    | _ => return

/-- Takes marks of the end of a document. -/
def documentEnds : Nat → GraphReading Unit
  | 0 => return
  | n + 1 => do
    if ← accept .documentEnd then documentEnds n

/-- Takes what stands before a document: directives and the mark of its beginning. -/
def documentHead (fuel : Nat) : GraphReading Unit := do
  modify fun s => { s with handles := [] }
  directives false fuel
  expect .documentStart

/-- The content of a document after its mark, which may be left out. -/
def documentContent (fuel : Nat) : GraphReading Nat := do
  match ← peek with
  | .directive _ | .documentStart | .documentEnd | .endOfText => addEmpty
  | _ => node .block fuel

/-- The root of a document, if there is one. The first document needs no mark. -/
def documentRoot? (fuel : Nat) : GraphReading (Option Nat) := do
  match ← peek with
  | .endOfText => return none
  | .directive _ | .documentStart =>
    documentHead fuel
    modify fun s => { s with handles := s.handles ++ standardHandles }
    return some (← documentContent fuel)
  | _ =>
    modify fun s => { s with handles := standardHandles }
    return some (← node .block fuel)

/-- The root of the only document, if there is one. -/
def onlyRoot? (fuel : Nat) : GraphReading (Option Nat) := do
  match ← documentRoot? fuel with
  | none => return none
  | some root =>
    documentEnds fuel
    if !(← isNext [.endOfText]) then
      documentHead fuel
      throw .malformed
    return some root

end GraphReading

/-- The graph that a text says, with its root, if it says one. No character begins more than four
tokens. -/
def Graph.ofText (text : String) : Except Fault (Option (Graph × Nat)) := do
  let lexer ← Lexer.ofText text
  let (root, s) ← (GraphReading.onlyRoot? (4 * text.length + 16)).run { lexer := lexer }
  return root.map fun root => (s.graph, root)

end Supergraph.Yaml

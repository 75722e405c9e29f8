import Supergraph.Yaml.GraphReading
import Supergraph.Yaml.ScalarMeaning

/-!
# Documents

A document is a graph whose vertices all mean something: scalars what their texts say under their
tags, sequences lists, and mappings mappings, after the merges into them. Vertices are looked at
level by level: a scalar when it is met, a collection after all that was met before it. So of two
faults the one that lies less deep is found.

## Main definitions

* `Document` — the documents
* `Document.ofGraph`, `Document.ofText` — the document that a graph or a text says
* `Document.dataAt` — what a vertex means
* `Document.member?` — what the root says under a name
-/

namespace Supergraph.Yaml

/-- A document: its graph, with the merges done, its root, and what its scalars mean. -/
structure Document where
  graph : Graph
  root : Nat
  scalars : Array (Option Data)
  deriving Inhabited

/-- Whether a tag is that of a collection. -/
def Tag.isCollection : Tag → Bool
  | sequence | mapping | set | pairs => true
  | _ => false

/-! ### Looking at all vertices -/

/-- The state of looking at a graph: the document so far, the collections that have been met, and
those of them that have not been looked at, the first of these first. -/
structure Inspection where
  document : Document
  met : List Nat
  queue : List Nat

/-- Steps of looking at a graph. -/
abbrev Inspecting (α : Type) := StateT Inspection (Except Fault) α

namespace Inspecting

/-- The graph as it is now. -/
def graph : Inspecting Graph := do
  return (← get).document.graph

/-- What a scalar means. -/
def scalar (g : Graph) (n : Nat) : Except Fault Data := do
  let text ← g.scalarText (g.size + 1) n
  if g.tag n = .timestamp && (g.entries? n).isSome then throw .dateOfMapping
  Data.ofScalar n (g.tag n) text

/-- Meets a vertex: a scalar has to mean something, and a collection has to wait. -/
def meet (n : Nat) : Inspecting Unit := do
  let s ← get
  let g := s.document.graph
  if (g.tag n).isCollection then
    if !s.met.contains n then set { s with met := n :: s.met, queue := s.queue ++ [n] }
  else if (s.document.scalars.getD n none).isNone then
    let data ← scalar g n
    let scalars := s.document.scalars.setIfInBounds n (some data)
    set { s with document := { s.document with scalars := scalars } }

/-- Meets the key and the value of an entry. A collection is no key. -/
def meetEntry (key value : Nat) : Inspecting Unit := do
  meet key
  if ((← graph).tag key).isCollection then throw .malformed
  meet value

/-- Looks at what should be a sequence. -/
def sequence (n : Nat) : Inspecting Unit := do
  match (← graph).content n with
  | .sequence items => items.forM meet
  | _ => throw .malformed

/-- Looks at what should be a mapping, after the merges into it. -/
def mapping (n : Nat) : Inspecting Unit := do
  let g ← graph
  if (g.entries? n).isNone then throw .malformed
  let g ← g.flatten n
  modify fun s => { s with document := { s.document with graph := g } }
  ((g.entries? n).getD []).forM fun (key, value) => meetEntry key value

/-- Looks at what should be a sequence of mappings with one entry each. -/
def pairs (n : Nat) : Inspecting Unit := do
  match (← graph).content n with
  | .sequence items =>
    items.forM fun item => do
      match (← graph).content item with
      | .mapping [(key, value)] =>
        meet key
        meet value
      | _ => throw .malformed
  | _ => throw .malformed

/-- Looks at a collection. -/
def collection (n : Nat) : Inspecting Unit := do
  match (← graph).tag n with
  | .mapping | .set => mapping n
  | .pairs => pairs n
  | _ => sequence n

/-- Looks at the collections that wait, of which no more than `count` will. -/
def all : Nat → Inspecting Unit
  | 0 => return
  | count + 1 => do
    match (← get).queue with
    | [] => return
    | n :: rest =>
      modify fun s => { s with queue := rest }
      collection n
      all count

end Inspecting

namespace Document

/-- The document that a graph says. -/
def ofGraph (g : Graph) (root : Nat) : Except Fault Document := do
  let start : Document := ⟨g, root, Array.replicate g.size none⟩
  let inspect : Inspecting Unit := do
    Inspecting.meet root
    Inspecting.all g.size
  let (_, s) ← inspect.run ⟨start, [], []⟩
  return s.document

/-- The document that a text says, if it says one. -/
def ofText (text : String) : Except Fault (Option Document) := do
  match ← Graph.ofText text with
  | none => return none
  | some (graph, root) => return some (← ofGraph graph root)

/-! ### What vertices mean -/

/-- Members with one more, unless it is there. -/
def addMember (d : Data) (members : List Data) : List Data :=
  if members.any (Data.sameKey · d) then members else members ++ [d]

/-- What a vertex means that lies in the given collections. At most `steps` vertices lie in one
another. -/
def dataWithin (d : Document) : Nat → List Nat → Nat → Data
  | 0, _, _ => .null
  | steps + 1, path, n =>
    let inner := dataWithin d steps (n :: path)
    match (d.scalars.getD n none), d.graph.tag n, d.graph.content n with
    | some data, _, _ => data
    | none, .sequence, .sequence items =>
      if path.contains n then .enclosingList n else .list n (items.map inner)
    | none, .pairs, .sequence items =>
      if path.contains n then .enclosingList n
      else .list n (items.map fun item =>
        match d.graph.content item with
        | .mapping [(key, value)] => .pair (inner key) (inner value)
        | _ => .null)
    | none, .mapping, .mapping entries =>
      if path.contains n then .enclosingMapping n
      else .mapping n (entries.foldl (fun es e => Data.store (inner e.1) (inner e.2) es) [])
    | none, .set, .mapping entries =>
      .set n (entries.foldl (fun members e => addMember (inner e.1) members) [])
    | none, _, _ => .null

/-- What a vertex means. -/
def dataAt (d : Document) (n : Nat) : Data :=
  d.dataWithin (d.graph.size + 2) [] n

/-- The entries of the root, if it is a mapping. -/
def entries? (d : Document) : Option (List (Nat × Nat)) :=
  if d.graph.tag d.root = .mapping then d.graph.entries? d.root else none

/-- Whether a vertex is the text of a name. -/
def isName (d : Document) (name : String) (n : Nat) : Bool :=
  match d.scalars.getD n none with
  | some (.text s) => s = name
  | _ => false

/-- What the root says under a name. Of entries with one key the last counts. -/
def member? (d : Document) (name : String) : Option Data :=
  (((d.entries?.getD []).filter fun e => d.isName name e.1).getLast?).map fun e => d.dataAt e.2

/-- Whether the root is a collection without items or entries. -/
def isEmptyCollection (d : Document) : Bool :=
  (d.graph.tag d.root).isCollection && match d.graph.content d.root with
    | .sequence items => items.isEmpty
    | .mapping entries => entries.isEmpty
    | .scalar _ => false

end Document

end Supergraph.Yaml

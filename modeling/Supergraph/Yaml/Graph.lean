import Supergraph.Yaml.Fault
import Supergraph.Yaml.Tag

/-!
# Graphs of YAML texts

What a text says is a graph: an alias leads to the very vertex that its anchor marks, which may be
one that it lies in. Vertices are numbered in the order in which they begin.

## Main definitions

* `Content`, `Vertex` — vertices, with what they consist of
* `Graph` — the graphs
* `Graph.flatten` — a graph after the merges into one of its mappings
* `Graph.scalarText` — the text of a scalar
-/

namespace Supergraph.Yaml

/-- What a vertex consists of. Items, keys and values are vertices themselves. -/
inductive Content where
  | scalar (text : String)
  | sequence (items : List Nat)
  | mapping (entries : List (Nat × Nat))
  deriving DecidableEq, Repr, Inhabited

/-- A vertex with its tag. -/
structure Vertex where
  tag : Tag
  content : Content
  deriving DecidableEq, Repr, Inhabited

/-- A graph: its vertices by their numbers. -/
structure Graph where
  vertices : Array Vertex := #[]
  deriving DecidableEq, Repr, Inhabited

namespace Graph

/-- The number of vertices. -/
def size (g : Graph) : Nat := g.vertices.size

/-- The vertex of a number. -/
def vertex (g : Graph) (n : Nat) : Vertex := g.vertices.getD n default

/-- The tag of a vertex. -/
def tag (g : Graph) (n : Nat) : Tag := (g.vertex n).tag

/-- What a vertex consists of. -/
def content (g : Graph) (n : Nat) : Content := (g.vertex n).content

/-- The graph with a vertex more, whose number is the size so far. -/
def add (g : Graph) (v : Vertex) : Graph := ⟨g.vertices.push v⟩

/-- The graph with another tag at a vertex. -/
def setTag (g : Graph) (n : Nat) (tag : Tag) : Graph :=
  ⟨g.vertices.modify n fun v => { v with tag := tag }⟩

/-- The graph with other content at a vertex. -/
def setContent (g : Graph) (n : Nat) (content : Content) : Graph :=
  ⟨g.vertices.modify n fun v => { v with content := content }⟩

/-! ### Scalars -/

/-- The text of a scalar, looked for within `steps` vertices. A mapping that stands where a scalar
is asked for means the value under its first key that is tagged as a value. -/
def scalarText (g : Graph) : Nat → Nat → Except Fault String
  | 0, _ => .error .endless
  | steps + 1, n =>
    match g.content n with
    | .scalar text => .ok text
    | .sequence _ => .error .malformed
    | .mapping entries =>
      match entries.find? fun e => g.tag e.1 == .value with
      | some (_, value) => scalarText g steps value
      | none => .error .malformed

/-! ### Merges -/

/-- The entries of a vertex that is a mapping. -/
def entries? (g : Graph) (n : Nat) : Option (List (Nat × Nat)) :=
  match g.content n with
  | .mapping entries => some entries
  | _ => none

/-- Takes the first entry out that asks for a merge. Gives the value of that entry and the others.
-/
def splitMerge (g : Graph) : List (Nat × Nat) → Option (Nat × List (Nat × Nat))
  | [] => none
  | (key, value) :: rest =>
    if g.tag key == .merge then some (value, rest)
    else (splitMerge g rest).map fun (merged, others) => (merged, (key, value) :: others)

/-- The graph in which the keys of entries that were tagged as values are texts. -/
def retagKeys (g : Graph) (entries : List (Nat × Nat)) : Graph :=
  entries.foldl (fun g e => if g.tag e.1 == .value then g.setTag e.1 .text else g) g

mutual

/-- The graph after the merges into a mapping, with what they bring before its own entries. What is
merged is itself merged into before. At most `steps` merges are done, one inside the other or one
after the other. -/
def flattenWithin (g : Graph) : Nat → Nat → Except Fault Graph
  | 0, _ => .error .endless
  | steps + 1, n => do
    let (g, merged) ← mergesInto g steps n
    let entries := (g.entries? n).getD []
    let g := g.retagKeys entries
    if merged.isEmpty then return g
    else return g.setContent n (.mapping (merged ++ entries))

/-- Takes the entries that ask for merges out of a mapping, one after the other, and gives what they
bring. -/
def mergesInto (g : Graph) : Nat → Nat → Except Fault (Graph × List (Nat × Nat))
  | 0, _ => .ok (g, [])
  | steps + 1, n =>
    match g.splitMerge ((g.entries? n).getD []) with
    | none => .ok (g, [])
    | some (source, others) => do
      let (g, brought) ← mergeFrom (g.setContent n (.mapping others)) steps source
      let (g, later) ← mergesInto g steps n
      return (g, brought ++ later)

/-- The entries that a merge brings: those of a mapping, or those of a sequence of mappings, the
last of them first. -/
def mergeFrom (g : Graph) : Nat → Nat → Except Fault (Graph × List (Nat × Nat))
  | 0, _ => .error .endless
  | steps + 1, source =>
    match g.content source with
    | .scalar _ => .error .malformed
    | .mapping _ => do
      let g ← flattenWithin g steps source
      return (g, (g.entries? source).getD [])
    | .sequence items => do
      let (g, brought) ← items.foldlM (fun (g, brought) item =>
        match g.content item with
        | .mapping _ => do
          let g ← flattenWithin g steps item
          return (g, (g.entries? item).getD [] ++ brought)
        | _ => .error .malformed) (g, [])
      return (g, brought)

end

/-- The number of entries of all mappings. -/
def entryCount (g : Graph) : Nat :=
  g.vertices.foldl (fun n v => match v.content with
    | .mapping entries => n + entries.length
    | _ => n) 0

/-- The graph after the merges into a mapping. Every merge takes an entry out, at the cost of three
steps at most. -/
def flatten (g : Graph) (n : Nat) : Except Fault Graph :=
  g.flattenWithin (3 * g.entryCount + 3) n

end Graph

end Supergraph.Yaml

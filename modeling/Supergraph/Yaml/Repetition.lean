import Supergraph.Yaml.Data
import Supergraph.Yaml.Node

/-!
# Repeated data

A document shows that data are one and the same: where they occur first they stand under an anchor,
and everywhere else an alias stands for them.

## Main definitions

* `Survey`, `Data.survey` — which data occur again
* `Data.nodes` — data as trees, each repeated one under an anchor
-/

namespace Supergraph.Yaml

/-- The data that have been met, and those that have been met again, the first of these first. -/
structure Survey where
  met : List Nat
  again : List Nat

/-- Meets data of a number, and says whether for the first time. -/
def Survey.meet (s : Survey) (n : Nat) : Bool × Survey :=
  if s.met.contains n then
    (false, { s with again := if s.again.contains n then s.again else s.again ++ [n] })
  else (true, { s with met := n :: s.met })

/-- The anchor of repeated data. -/
def anchorOf? (again : List Nat) (n : Nat) : Option Nat :=
  (again.idxOf? n).map (· + 1)

namespace Data

mutual

/-- Looks for repeated data. What is inside a repeated collection counts once. -/
def survey (s : Survey) : Data → Survey
  | date n _ | moment n _ | enclosingList n | enclosingMapping n => (s.meet n).2
  | pair a b => survey (survey s a) b
  | list none items => surveyItems s items
  | list (some n) items =>
    match s.meet n with
    | (true, s) => surveyItems s items
    | (false, s) => s
  | mapping none entries => surveyEntries s entries
  | mapping (some n) entries =>
    match s.meet n with
    | (true, s) => surveyEntries s entries
    | (false, s) => s
  | set n members =>
    match s.meet n with
    | (true, s) => surveyItems s members
    | (false, s) => s
  | _ => s

/-- Looks for repeated data among items. -/
def surveyItems (s : Survey) : List Data → Survey
  | [] => s
  | d :: ds => surveyItems (survey s d) ds

/-- Looks for repeated data among entries. -/
def surveyEntries (s : Survey) : List (Data × Data) → Survey
  | [] => s
  | (key, value) :: rest => surveyEntries (survey (survey s key) value) rest

end

/-- The tree of data of a number, which is given its anchor, or the alias for it if the anchor has
been set. The state holds the anchors that have been set. -/
def underAnchor (again : List Nat) (number : Option Nat)
    (tree : Option Nat → StateM (List Nat) Node) : StateM (List Nat) Node := do
  match number.bind (anchorOf? again) with
  | none => tree none
  | some anchor =>
    if (← get).contains anchor then return .reference anchor
    modify (anchor :: ·)
    tree anchor

/-- The entry of a member of a set. -/
def memberEntry (member : Node) : Node × Node := (member, .scalar none .null "null")

mutual

/-- Data as a tree. -/
def node (again : List Nat) : Data → StateM (List Nat) Node
  | null => return .scalar none .null "null"
  | bool b => return .scalar none .bool (if b then "true" else "false")
  | int n => return .scalar none .int (toString n)
  | float x => return .scalar none .float (Node.floatLayout.write x)
  | undefined _ => return .scalar none .float Node.floatLayout.undefined
  | text s => return .scalar none .text s
  | bytes bs => return .bytes bs
  | date n d => underAnchor again n fun anchor => return .scalar anchor .timestamp d.text
  | moment n m => underAnchor again n fun anchor => return .scalar anchor .timestamp m.text
  | pair a b => do
    let first ← node again a
    let second ← node again b
    return .sequence { mark := "!!python/tuple" } [first, second]
  | list n items => underAnchor again n fun anchor => do
    return .sequence { anchor := anchor } (← itemNodes again items)
  | mapping n entries => underAnchor again n fun anchor => do
    return .mapping { anchor := anchor } (← entryNodes again entries)
  | set n members => underAnchor again n fun anchor => do
    let entries := (← itemNodes again members).map memberEntry
    return .mapping { anchor := anchor, mark := "!!set" } entries
  | enclosingList n | enclosingMapping n => underAnchor again n fun _ => return .sequence {} []

/-- Items as trees. -/
def itemNodes (again : List Nat) : List Data → StateM (List Nat) (List Node)
  | [] => return []
  | d :: ds => do
    let first ← node again d
    return first :: (← itemNodes again ds)

/-- Entries as pairs of trees. -/
def entryNodes (again : List Nat) : List (Data × Data) → StateM (List Nat) (List (Node × Node))
  | [] => return []
  | (key, value) :: rest => do
    let key ← node again key
    let value ← node again value
    return (key, value) :: (← entryNodes again rest)

end

/-- The entries of a document as pairs of trees. -/
def nodes (entries : List (Data × Data)) : List (Node × Node) :=
  let again := (surveyEntries ⟨[], []⟩ entries).again
  ((entryNodes again entries).run []).1

end Data

end Supergraph.Yaml

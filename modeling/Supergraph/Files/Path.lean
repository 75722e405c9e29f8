/-!
# Paths

A path leads from the root, or from where one works, through names of directories. Empty names and
the name of the same place say nothing and are dropped; the name of the place above is kept, since
what it means depends on the files.

## Main definitions

* `Path` — the paths, with `Path.ofText` and `Path.text`
* `Path.stem` — the name that a path ends in, without its ending
* `Path.child` — what lies under a name in the place that a path leads to
-/

namespace Supergraph

/-- A path: how many slashes it begins with, and the names it leads through. -/
structure Path where
  slashes : Nat
  names : List String
  deriving DecidableEq, Repr, Inhabited

namespace Path

/-- The parts of a text between slashes. -/
def segments : List Char → List (List Char)
  | [] => [[]]
  | c :: cs =>
    if c = '/' then [] :: segments cs
    else match segments cs with
      | [] => [[c]]
      | first :: rest => (c :: first) :: rest

/-- How many of the leading slashes a path keeps. Two are kept apart from one, and more count as
one. -/
def keptSlashes : Nat → Nat
  | 0 => 0
  | 2 => 2
  | _ => 1

/-- Whether a name leads anywhere. -/
def leads (name : String) : Bool :=
  name ≠ "" && name ≠ "."

/-- The path that a text says. -/
def ofText (text : String) : Path :=
  let cs := text.toList
  ⟨keptSlashes (cs.takeWhile (· == '/')).length,
    ((segments cs).map String.ofList).filter leads⟩

/-- The path as a text. -/
def text (p : Path) : String :=
  if p.slashes = 0 && p.names.isEmpty then "."
  else String.ofList (List.replicate p.slashes '/') ++ String.intercalate "/" p.names

/-- A name without its ending, which is what stands from its last point on, unless the point is at
the beginning or at the end. -/
def withoutEnding (name : String) : String :=
  let cs := name.toList.reverse
  let ending := cs.takeWhile (· ≠ '.')
  let stem := (cs.dropWhile (· ≠ '.')).drop 1
  if ending.isEmpty || stem.isEmpty then name else String.ofList stem.reverse

/-- The last name of the path without its ending. -/
def stem (p : Path) : String :=
  withoutEnding (p.names.getLastD "")

/-- The path to a name in the place that the path leads to. -/
def child (p : Path) (name : String) : Path :=
  { p with names := p.names ++ [name] }

@[simp] theorem slashes_child (p : Path) (name : String) : (p.child name).slashes = p.slashes := rfl

@[simp] theorem names_child (p : Path) (name : String) :
    (p.child name).names = p.names ++ [name] := rfl

end Path

end Supergraph

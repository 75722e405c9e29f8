import Supergraph.Files.Path
import Supergraph.Text.Quoted

/-!
# Faults of work on files

Why a step of work on files was refused: the cause, and the path or the two paths that the step was
about.

## Main definitions

* `FileCause` — the causes, with their numbers and words
* `FileFault` — a cause with its paths
* `FileFault.message` — the wording
-/

namespace Supergraph

/-- Why a step of work on files is refused. -/
inductive FileCause where
  | notFound
  | alreadyThere
  | notDirectory
  | isDirectory
  | nameTooLong
  /-- A path holds the character that ends paths. -/
  | nullInPath
  /-- What a system reports under another number. -/
  | other (number : Nat) (words : String)
  deriving DecidableEq, Repr

namespace FileCause

/-- The number under which systems report the cause. -/
def number : FileCause → Nat
  | notFound => 2
  | alreadyThere => 17
  | notDirectory => 20
  | isDirectory => 21
  | nullInPath => 22
  | nameTooLong => 36
  | other number _ => number

/-- The words in which systems report the cause. -/
def words : FileCause → String
  | notFound => "No such file or directory"
  | alreadyThere => "File exists"
  | notDirectory => "Not a directory"
  | isDirectory => "Is a directory"
  | nameTooLong => "File name too long"
  | nullInPath => "embedded null byte"
  | other _ words => words

end FileCause

/-- A refused step of work on files. A step that moves a file has a target. -/
structure FileFault where
  cause : FileCause
  path : Path
  target : Option Path
  deriving DecidableEq, Repr

/-- The wording of the fault. -/
def FileFault.message (f : FileFault) : String :=
  match f.cause with
  | .nullInPath => f.cause.words
  | cause =>
    s!"[Errno {cause.number}] {cause.words}: " ++ Text.quoted f.path.text
      ++ match f.target with
        | none => ""
        | some target => " -> " ++ Text.quoted target.text

end Supergraph

import Supergraph.Files.Fault

/-!
# Work on files

The steps of work on files, over any kind of effect that has them. What the library does with files
is said in these steps alone, so that it can be run on the files of a machine and on a tree that is
held in memory.

## Main definitions

* `FileKind` — what may lie at a place
* `FileSystem` — the steps
-/

namespace Supergraph

/-- What may lie at a place. -/
inductive FileKind where
  | file
  | directory
  /-- What is neither, such as a device. -/
  | other
  deriving DecidableEq, Repr

/-- The steps of work on files. -/
class FileSystem (m : Type → Type) where
  /-- The name of the directory one works in. -/
  homeName : m String
  /-- What lies at a path, if anything does. -/
  kindOf : Path → m (Except FileFault (Option FileKind))
  /-- Whether files may be put into the directory at a path. -/
  mayWrite : Path → m Bool
  /-- The text of a file, or nothing if what the file holds is no text. -/
  read : Path → m (Except FileFault (Option String))
  /-- Puts a file with a text at a path, in place of a file that is there. -/
  write : Path → String → m (Except FileFault Unit)
  /-- Puts a file at another path, in place of a file that is there. -/
  move : Path → Path → m (Except FileFault Unit)
  /-- Takes a file away if there is one. -/
  remove : Path → m (Except FileFault Unit)
  /-- Makes a directory, with those it lies in, unless it is there. -/
  makeDirectory : Path → m (Except FileFault Unit)

end Supergraph

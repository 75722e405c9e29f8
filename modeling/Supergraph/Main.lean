import Supergraph.Command.Run

/-!
# The command line tool

Runs a command line on the files of the machine.
-/

namespace Supergraph.Command

/-- The cause that the machine reports. -/
def causeOfError : IO.Error → FileCause
  | .noFileOrDirectory .. => .notFound
  | .alreadyExists .. => .alreadyThere
  | .inappropriateType _ code _ => if code = 20 then .notDirectory else .isDirectory
  | .invalidArgument _ code details =>
    if code = 36 then .nameTooLong else .other code.toNat details
  | error => .other 0 error.toString

/-- A step on the files of the machine, which may be refused. -/
def attempt {α : Type} (path : Path) (target : Option Path) (step : IO α) :
    IO (Except FileFault α) := do
  if path.text.toList.contains '\x00' then return .error ⟨.nullInPath, path, target⟩
  try return .ok (← step)
  catch error => return .error ⟨causeOfError error, path, target⟩

/-- What lies at a path of the machine. -/
def machineKind (path : Path) : IO (Except FileFault (Option FileKind)) := do
  let found ← attempt path none do
    let metadata ← ((← IO.currentDir) / path.text).metadata
    match metadata.type with
    | .dir => return FileKind.directory
    | .file => return FileKind.file
    | _ => return FileKind.other
  match found with
  | .ok kind => return .ok (some kind)
  | .error fault =>
    match fault.cause with
    | .notFound | .notDirectory | .nullInPath => return .ok none
    | _ => return .error fault

/-- Whether files may be put into the directory at a path of the machine: one is, and it is taken
away again. -/
def machineMayWrite (path : Path) : IO Bool := do
  let trial := (path.child ".trial").text
  try
    let _ ← IO.FS.Handle.mk trial .writeNew
    IO.FS.removeFile trial
    return true
  catch
    -- What is there already says nothing; if nothing may be written, the first file is refused.
    | .alreadyExists .. => return true
    | _ => return false

instance : FileSystem IO where
  homeName := return (← IO.currentDir).fileName.getD ""
  kindOf := machineKind
  mayWrite := machineMayWrite
  read path := attempt path none do
    return String.fromUTF8? (← IO.FS.readBinFile path.text)
  write path text := attempt path none (IO.FS.writeFile path.text text)
  move path target := attempt path (some target) (IO.FS.rename path.text target.text)
  remove path := attempt path none do
    try IO.FS.removeFile path.text
    catch
      | .noFileOrDirectory .. => return
      | error => throw error
  makeDirectory path := do
    match ← machineKind path with
    | .ok (some .directory) => return .ok ()
    | .ok (some _) => return .error ⟨.alreadyThere, path, none⟩
    | _ => attempt path none (IO.FS.createDirAll path.text)

end Supergraph.Command

open Supergraph.Command in
/-- Runs the command line, writes what it says, and ends with its code. -/
def main (arguments : List String) : IO UInt32 := do
  let outcome ← (run arguments : IO Outcome)
  IO.print outcome.output
  IO.eprint outcome.diagnostics
  match outcome.ending with
  | .exit code => return code.toUInt32
  | .broken problem =>
    IO.eprintln problem.message
    return 1

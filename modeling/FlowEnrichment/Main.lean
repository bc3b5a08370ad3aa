import FlowEnrichment.CommandLine.Run
import Std.Time.DateTime.Timestamp

/-!
# The program

Reads the arguments, the environment and the files that a command needs, lets the library decide
what to print, prints it and saves the snapshot that a lookup leaves behind.
-/
namespace FlowEnrichment.CommandLine

/-- Puts what is at a path of the system into a file tree. -/
def readInto (files : FileTree) (path : String) : IO FileTree := do
  let prepared := (Snapshot.makeParents files path).1
  try
    let content ← IO.FS.readBinFile path
    return (prepared.write path content.toList).toOption.getD files
  catch
    | .inappropriateType .. => return (prepared.ensureDirectory path).1
    | _ => return files

/-- Writes the file at a path of a file tree to the system, unless it is there already. -/
def writeFrom (old new : FileTree) (path : String) : IO Unit := do
  match new.read path with
  | .error _ => return
  | .ok content =>
    if (old.read path).toOption == some content then return
    if let some parent := Snapshot.parent? path then IO.FS.createDirAll parent
    IO.FS.writeBinFile (Snapshot.temporary path) content.toByteArray
    IO.FS.rename (Snapshot.temporary path) path

/-- What the program finds around it, without any files. -/
def surveyHost : IO Host := do
  let working := (Path.parts (← IO.currentDir).toString).names
  let now ← Std.Time.Timestamp.now
  return {
    files := { working }
    home := ← IO.getEnv "HOME"
    config := ← IO.getEnv "FLOWMETA_CONFIG"
    clock := ⟨now.val.toNanoseconds.val⟩ }

end FlowEnrichment.CommandLine

open FlowEnrichment FlowEnrichment.CommandLine

/-- Runs the program. -/
def main (arguments : List String) : IO UInt32 := do
  let bare ← surveyHost
  let identity := BuildIdentity.current
  let command := Command.read identity.package identity.text bare.config arguments
  let inputs := (command.toOption.map (Command.inputs bare)).getD []
  let host := { bare with files := ← inputs.foldlM readInto bare.files }
  let snapshot := command.toOption.bind (Command.snapshot? host)
  let host := { host with files := ← snapshot.toList.foldlM readInto host.files }
  let outcome := run host arguments
  outcome.output.forM IO.println
  outcome.errors.forM IO.eprintln
  if let some path := snapshot then writeFrom host.files outcome.files path
  return UInt32.ofNat outcome.code

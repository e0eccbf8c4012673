import BuildRepair.Console.Run
import BuildRepair.File.Change
import Std.Time.DateTime.Timestamp

/-
  The program itself. It reads what its command may look at into a tree, runs the command on the
  tree, brings the changes to disk and shows what is to be seen. It starts no processes and sends no
  requests: builds end as not started, and every address counts as reachable.
-/

namespace BuildRepair.Console

/-- A place in writing. -/
def placeText (l : Place) : String := "/" ++ String.intercalate "/" l

/-- What stands at a place on disk. -/
def entryAt (l : Place) : IO (Option Entry) := do
  try
    let bytes ← IO.FS.readBinFile (placeText l)
    return some (.file (.ofBytes bytes.toList))
  catch
    | .inappropriateType .. => return some .directory
    | _ => return none

/-- The tree of what stands on the way to some paths on disk. -/
def treeAt (paths : List Path) : IO Tree := do
  let working := (Path.ofString (toString (← IO.currentDir))).parts
  let empty : Tree := Tree.plant { working } working .directory
  (paths.flatMap empty.placesTo).foldlM
    (fun t l => do
      match ← entryAt l with
      | some e => return t.plant l e
      | none => return t)
    empty

/-- The bytes of a content. -/
def bytesOf : Content → ByteArray
  | .text s => s.toUTF8
  | .bytes b => ⟨b.toArray⟩

/-- Does one step of a change on disk. A file is written beside its place and then moved there. -/
def perform : Change → IO Unit
  | .makeDirectory l => IO.FS.createDirAll (placeText l)
  | .write l content => do
    let written := placeText l ++ ".new"
    IO.FS.writeBinFile written (bytesOf content)
    IO.FS.rename written (placeText l)
  | .removeFile l => IO.FS.removeFile (placeText l)
  | .removeDirectory l => IO.FS.removeDirAll (placeText l)

/-- Prints something that is seen. -/
def display : Seen → IO Unit
  | .line s => IO.println s
  | .row cells => IO.println ("  " ++ String.intercalate " | " cells)
  | .document j => IO.print j.document

/-- A text file of the system; empty if it cannot be read. -/
def systemText (path : String) : IO String := do
  try
    IO.FS.readFile path
  catch _ => return ""

/-- The time of day. -/
def currentTime : IO Timestamp := do
  let nanoseconds := (← Std.Time.Timestamp.now).toNanosecondsSinceUnixEpoch.val
  return (Timestamp.sinceEpoch? (nanoseconds / 1000).toNat).getD .default

/-- What the program finds around it when it runs a command. -/
def surroundingsOf (c : Command) : IO Surroundings := do
  let machine ← systemText "/proc/sys/kernel/arch"
  let input ←
    match c with
    | .analyze "-" _ => systemText "/dev/stdin"
    | _ => pure ""
  return {
    tree := ← treeAt c.paths
    input
    architecture := Build.architecture (String.ofList (Text.trim machine.toList))
    network := ⟨fun _ _ => .answered 200 none⟩
    now := ← currentTime
    runner := Build.run fun _ => { ending := .notStarted 38 "Function not implemented" none } }

end BuildRepair.Console

open BuildRepair.Console

/-- Runs the command that the arguments ask for. -/
def main (args : List String) : IO UInt32 := do
  match Command.ofArgs? args with
  | none =>
    IO.eprintln "Usage: validate | scan | replace | analyze, with a path and options"
    return usageError.toUInt32
  | some command =>
    let surroundings ← surroundingsOf command
    let finished := command.run surroundings
    (surroundings.tree.changes finished.tree).forM perform
    let (outputs, exitCode) := finished.seen
    outputs.forM display
    return exitCode.toUInt32

import Std.Time.Format
import TagDoc.Command.Run

/-!
# The program

The program takes the files that a command can look at from the disk, runs the command on them, and puts what has
changed back. Files are looked at in the directory in use, on the way to the path of the command and below it, and on
the way to the directory for output and below it.

The exit code is 2 if the arguments make no command.
-/

namespace TagDoc

/-! ### The disk -/

/-- Where a place is on the disk. -/
def onDisk (p : Place) := (· / String.ofList ('/' :: Text.join ['/'] p)) <$> IO.currentDir

/-- What is at a place, without what a file holds. -/
def itemAlone? (p : Place) : IO (Option Item) := do
  let path ← onDisk p
  if ← path.isDir then return some .directory
  else if ← path.pathExists then return some (.file [])
  else return none

/-- What is at a place and below it. -/
partial def itemsBelow (p : Place) : IO (List (Place × Item)) := do
  match ← itemAlone? p with
  | none => return []
  | some (.file _) => return [(p, .file (← IO.FS.readBinFile (← onDisk p)).toList)]
  | some .directory =>
    let entries ← (← onDisk p).readDir
    let inside ← entries.toList.mapM fun e => itemsBelow (p ++ [e.fileName.toList])
    return (p, .directory) :: inside.flatten

/-- The places on the way along some names. -/
def placesOnWay (p : Place) : List Text → List Place
  | [] => [p]
  | name :: names => p :: placesOnWay (if name = ['.', '.'] then p.dropLast else p ++ [name]) names

/-- A tree with what is on the disk on the way along a path, and below its end. -/
def FileTree.load (t : FileTree) (p : Path) : IO FileTree := do
  let places := placesOnWay (if p.isAbsolute then [] else t.working) p.names
  let way ← places.dropLast.filterMapM fun q => return (← itemAlone? q).map (q, ·)
  let items ← itemsBelow (places.getLastD [])
  return (way ++ items).foldl (fun t (q, i) => t.put q i) t

/-- Writes what a tree has that another one, which is the same as the disk, does not have. -/
def FileTree.store (t before : FileTree) : IO Unit := do
  for (p, i) in t.items do
    if before.item? p != some i then
      let path ← onDisk p
      match i with
      | .directory => IO.FS.createDir path
      | .file octets => IO.FS.writeBinFile path ⟨octets.toArray⟩

/-! ### The surroundings -/

/-- The variables of the environment that settings are read from. -/
def readEnvironment : IO Environment :=
  Settings.fieldNames.filterMapM fun field => do
    let name := variableName field
    return (← IO.getEnv (String.ofList name)).map fun v => (name, v.toList)

/-- The time, as notices show it. -/
def readStamp : IO Text := do
  let now := Std.Time.DateTime.ofTimestamp (← Std.Time.Timestamp.now) .UTC
  return (now.format "uuuu-MM-dd'T'HH:mm:ss.SSSSSS'Z'").toList

/-- The path that a command is about. -/
def Command.path : Command → Text
  | compile path .. | .show path _ => path

/-- The files that a command can look at. -/
def loadFiles (host : Host) (env : Environment) (command : Command) : IO FileTree := do
  let working := (← IO.currentDir).components.filterMap fun name =>
    if name.isEmpty then none else some name.toList
  let t := (placesOnWay [] working).foldl (fun t p => t.put p .directory) (⟨[], working⟩ : FileTree)
  let t ← t.load Settings.file
  let t ← t.load (.ofText command.path)
  match Setup.load host t env command.overrides with
  | .ok s => t.load s.out
  | .error _ => return t

/-- How the program is used. -/
def usage : String :=
  "Usage: docblock compile [--out-dir DIR] [--reserved-tag NAME] [--preset NAME] PATH\n" ++
    "       docblock show [--reserved-tag NAME] FILE\n"

/-- Runs a command on the disk. -/
def Command.perform (command : Command) : IO UInt32 := do
  let env ← readEnvironment
  let host := Runtime.usual.hostFor command
  let files ← loadFiles host env command
  let outcome := command.run host files env (← readStamp)
  outcome.files.store files
  (← IO.getStderr).putStr (String.ofList outcome.errors)
  match outcome.unreported with
  | some fault => (← IO.getStderr).putStr (String.ofList fault.report)
  | none => pure ()
  (← IO.getStdout).putStr (String.ofList outcome.output)
  return outcome.exit.toUInt32

end TagDoc

/-- The program. -/
def main (arguments : List String) : IO UInt32 := do
  match TagDoc.Command.ofArguments? (arguments.map String.toList) with
  | some command => command.perform
  | none =>
    (← IO.getStderr).putStr TagDoc.usage
    return 2

import TagDoc.Command.Basic
import TagDoc.Document.Run
import TagDoc.Notice.Line
import TagDoc.Settings.Load

/-!
# Running a command

A command loads the settings, sets up how notices are shown, makes the compiler and does its work. Faults that
say that what the user wrote is wrong are reported in a line or two; all others are left to whoever called.

The name of the output directory can have halves of surrogate pairs in it. If they stand for octets there can be such a
directory, but its name cannot be printed. On the files it then has the name that is shown of it.

## Main definitions

* `Outcome`: what a command leaves
* `Command.run`
* `Runtime.hostFor`: how a process reads for a command
-/

namespace TagDoc

/-- All that can go wrong with a command. -/
inductive CommandFault where
  | path (fault : FileFault)
  | config (fault : ConfigFault)
  | level (fault : NotALevel)
  | dialect (fault : UnknownDialect)
  | run (fault : RunFault)
  | document (path : Path) (fault : DocumentFault)
  | unwritable (fault : Json.WriteFault)
  | unencodable (fault : EncodeFault)
  | unprintable (fault : EncodeFault)
  deriving Repr

/-- What a command leaves: its exit code, what it wrote for its caller and about its work, the fault that it did
not report, and the files. -/
structure Outcome where
  exit : Nat
  output : Text
  errors : Text
  unreported : Option CommandFault
  files : FileTree
  deriving Repr

namespace CommandFault

/-- Whether the command reports the fault itself. -/
def isReported : CommandFault → Bool
  | config fault => fault.isForeseen
  | dialect _ => true
  | run fault => fault.isForeseen
  | document _ fault => fault.isForeseen
  | path _ | level _ | unwritable _ | unencodable _ | unprintable _ => false

/-- The wording of a fault. -/
def message : CommandFault → Text
  | path fault => fault.message
  | config fault => fault.message
  | level fault => fault.message
  | dialect fault => fault.message
  | run fault => fault.message
  | document p fault => "Failed to compile ".toList ++ p.toText ++ "\n  ".toList ++ fault.message
  | unwritable fault => fault.message
  | unencodable fault => fault.message
  | unprintable fault => fault.message

/-- The report of a fault. -/
def report (f : CommandFault) : Text := "Error: ".toList ++ f.message ++ ['\n']

/-- What a command leaves that ends with a fault; `log` is what it wrote before. -/
def outcome (f : CommandFault) (log : Text) (files : FileTree) : Outcome :=
  if f.isReported then ⟨1, [], log ++ f.report, none, files⟩ else ⟨1, [], log, some f, files⟩

end CommandFault

/-- What a command works with. -/
structure Setup where
  settings : Settings
  threshold : Threshold
  compiler : Compiler

namespace Setup

/-- What a command works with in the directory in use; `overrides` is what was given on the command line. -/
def load (host : Host) (t : FileTree) (env : Environment) (overrides : Entries) : Except CommandFault Setup := do
  let settings ← (Settings.load host.loadConfig host.optionsDepth t env overrides).mapError .config
  let threshold ← (Threshold.ofName settings.logLevel.shown).mapError .level
  let compiler ← (settings.compiler? host (decide (threshold ≤ Level.debug.number))).mapError .dialect
  return { settings, threshold, compiler }

/-- The output directory. -/
def out (s : Setup) : Path := .ofText s.settings.outputDir.shown

/-- What keeps the output directory from being made: halves of surrogate pairs in its name that stand for no octets. -/
def makeFault? (s : Setup) : Option EncodeFault :=
  match s.settings.outputDir with
  | .text _ => none
  | .codes points => encodeFault? isLooseOctet (Path.writtenPoints points)

/-- What keeps the name of the output directory from being printed behind a text. -/
def printFault? (s : Setup) (before : Text) : Option EncodeFault :=
  match s.settings.outputDir with
  | .text _ => none
  | .codes points => encodeFault? (fun _ => false) (before.map Char.toNat ++ Path.writtenPoints points)

/-- The lines for notices. -/
def log (s : Setup) (stamp : Text) (ns : List Notice) : Text := logText s.threshold s.settings.logFormat stamp ns

end Setup

namespace Command

/-- A text that may be given, as a value. -/
def givenText : Option Text → Value := textOrNull

/-- Names that are given, as a value; no names count as not given. -/
def givenNames (names : List Text) : Value := if names.isEmpty then .null else .list (names.map .str)

/-- What a command sets on its line. -/
def overrides : Command → Entries
  | compile _ outDir reserved preset =>
    [(.str "output_dir".toList, givenText outDir), (.str "reserved_tags".toList, givenNames reserved),
      (.str "markdown_preset".toList, givenText preset)]
  | .show _ reserved => [(.str "reserved_tags".toList, givenNames reserved)]

/-- What a line begins with that tells where the document of a source was written. -/
def lineStart (source : Path) : Text := "  ".toList ++ source.toText ++ " -> ".toList

/-- The lines that tell what was written where. -/
def outputLines (outputs : List (Path × Path)) : Text :=
  outputs.flatMap fun (source, target) => lineStart source ++ target.toText ++ ['\n']

/-- What the last line begins with. -/
def lastStart (outputs : List (Path × Path)) : Text :=
  "Compiled ".toList ++ Text.ofNat outputs.length ++ " document(s) to ".toList

/-- The lines that tell what was written where, and how many documents there are. -/
def listing (out : Path) (outputs : List (Path × Path)) : Text :=
  outputLines outputs ++ lastStart outputs ++ out.toText ++ "/\n".toList

/-- The lines before the first one that has the name of the output directory in it, and what that one begins with. -/
def beforeName (out : Path) (outputs : List (Path × Path)) : Text × Text :=
  let isBelow (output : Path × Path) : Bool := output.2.slashes == out.slashes && out.names.isPrefixOf output.2.names
  (outputLines (outputs.takeWhile (!isBelow ·)),
    ((outputs.find? isBelow).map fun output => lineStart output.1).getD (lastStart outputs))

/-- Tells what a run has written, as far as that can be printed. -/
def tellOutputs (s : Setup) (log : Text) (r : Run) : Outcome :=
  let (lines, start) := beforeName s.out r.outputs
  match s.printFault? start with
  | none => ⟨0, listing s.out r.outputs, log, none, r.files⟩
  | some fault => { (CommandFault.unprintable fault).outcome log r.files with output := lines }

/-- Compiles all sources below a path. -/
def compileAll (s : Setup) (stamp : Text) (t : FileTree) (path : Text) : Outcome :=
  match s.makeFault? with
  | some fault => (CommandFault.unencodable fault).outcome [] t
  | none =>
    match Run.all s.compiler t (.ofText path) s.out with
    | .ok r => tellOutputs s (s.log stamp r.notices) r
    | .error ⟨r, fault⟩ => (CommandFault.run fault).outcome (s.log stamp r.notices) r.files

/-- Shows the document of one source. -/
def showOne (s : Setup) (stamp : Text) (t : FileTree) (p : Path) : Outcome :=
  let log := s.log stamp (s.compiler.documentNotices t p)
  match s.compiler.document t p with
  | .error fault => (CommandFault.document p fault).outcome log t
  | .ok d =>
    match d.toJson documentLayout with
    | .error fault => (CommandFault.unwritable fault).outcome log t
    | .ok json => ⟨0, json ++ ['\n'], log, none, t⟩

/-- Runs a command in the directory in use; `stamp` is the time that notices show. The path of a source to be
shown is looked at before all else. -/
def run (host : Host) (t : FileTree) (env : Environment) (stamp : Text) (command : Command) : Outcome :=
  match command with
  | compile path .. =>
    match Setup.load host t env command.overrides with
    | .error fault => fault.outcome [] t
    | .ok s => compileAll s stamp t path
  | .show path _ =>
    let p := Path.ofText path
    if path.contains '\x00' then (CommandFault.path ⟨.zeroCharacter, p⟩).outcome [] t
    else
      match Setup.load host t env command.overrides with
      | .error fault => fault.outcome [] t
      | .ok s => showOne s stamp t p

/-- How many calls stand around the work on a document. A run over all sources is one of them. -/
def callsAround : Command → Nat
  | compile .. => 12
  | .show .. => 11

end Command

/-- How a process reads for a command. -/
def Runtime.hostFor (r : Runtime) (command : Command) : Host := r.host command.callsAround

end TagDoc

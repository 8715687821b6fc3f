import TagDoc.Document.Source

/-!
# Runs

A run compiles all sources below a path and writes each document to a file of its own in the output directory,
which is named by the slug. A document takes the place of an earlier one with the same slug, and that is told.
The first source that cannot be compiled stops the run; what was written before stays.

## Main definitions

* `Run`: how far a run has come
* `Run.add`: a run after one more source
* `Run.all`: the run over all sources below a path
-/

namespace TagDoc

/-- How far a run has come: the files as they are, what there is to be told, each source with the file its
document was written to, and for each slug the last source with it first. -/
structure Run where
  files : FileTree
  notices : List Notice
  outputs : List (Path × Path)
  written : List (Text × Path)
  deriving Repr

/-- Why a run stops: a file or directory cannot be used, a source has no document, or a document cannot be
written as JSON. -/
inductive RunFault where
  | file (fault : FileFault)
  | document (source : Path) (fault : DocumentFault)
  | unwritable (fault : Json.WriteFault)
  deriving Repr

namespace RunFault

/-- The wording of a fault. -/
def message : RunFault → Text
  | file fault => fault.message
  | document source fault =>
    "Failed to compile ".toList ++ source.toText ++ ": ".toList ++ fault.message
  | unwritable fault => fault.message

/-- Whether the fault says that what the user wrote is wrong. -/
def isForeseen : RunFault → Bool
  | document .. => true
  | _ => false

end RunFault

/-- A run that was stopped. -/
structure Stopped where
  run : Run
  fault : RunFault
  deriving Repr

/-- How documents are laid out, in their files and where they are shown. -/
def documentLayout : Json.Layout := .indented 2

namespace Run

/-- A run that is about to begin. -/
def start (t : FileTree) : Run := ⟨t, [], [], []⟩

/-- A run with more to be told. -/
def tell (r : Run) (ns : List Notice) : Run := { r with notices := r.notices ++ ns }

/-- The file in the output directory for a slug. -/
def outputFile (out : Path) (slug : Text) : Path := out.append (.ofText (slug ++ ".json".toList))

/-- The notice that a document takes the place of another. -/
def collisions (r : Run) (d : Document) : List Notice :=
  match r.written.lookup d.slug with
  | some earlier => [.slugCollision d.slug d.path earlier.toText]
  | none => []

/-- A run after a document was written. -/
def addDocument (out : Path) (r : Run) (source : Path) (d : Document) : Except Stopped Run := do
  let target := outputFile out d.slug
  let r := r.tell (r.collisions d)
  let json ← (d.toJson documentLayout).mapError fun fault => ⟨r, .unwritable fault⟩
  let files ← (r.files.writeText target json).mapError fun fault => ⟨r, .file fault⟩
  return { files
           notices := r.notices ++ [.compiled d.path target.toText d.block.tags.length]
           outputs := r.outputs ++ [(source, target)]
           written := (d.slug, source) :: r.written }

/-- A run after one more source. -/
def add (c : Compiler) (out : Path) (r : Run) (source : Path) : Except Stopped Run :=
  let r := r.tell (c.documentNotices r.files source)
  match c.document r.files source with
  | .error fault => .error ⟨r, .document source fault⟩
  | .ok d => r.addDocument out source d

/-- A run after more sources, one after the other. -/
def addAll (c : Compiler) (out : Path) (r : Run) (sources : List Path) : Except Stopped Run :=
  sources.foldlM (add c out) r

/-- The run over all sources below a path. The output directory is made first. -/
def all (c : Compiler) (t : FileTree) (p out : Path) : Except Stopped Run :=
  match t.ensureDirectory out with
  | (t, some fault) => .error ⟨start t, .file fault⟩
  | (t, none) =>
    match t.sources p with
    | .error fault => .error ⟨start t, .file fault⟩
    | .ok sources => addAll c out (start t) sources

end Run

end TagDoc

import TagDoc.Compiler
import TagDoc.Files.Reading
import TagDoc.Node.Route
import TagDoc.Text.Slug

/-!
# Documents from files

Files whose names end in `.md` or `.mdx` are sources of documents. The document of a file is the block of its
text, in which the headings have got their routes. It has the slug that its metadata ask for, or else one made
of the name of the file.

## Main definitions

* `FileTree.sources`: the sources below a path
* `FileTree.tooLongBelow?`: what keeps one from looking for them
* `Compiler.document`: the document of a file
-/

namespace TagDoc

/-- What the names of sources end in. -/
def sourceEndings : List Text := [".md".toList, ".mdx".toList]

/-- Whether a path has the name of a source. -/
def Path.isSource (p : Path) : Bool := sourceEndings.contains p.ending

/-- The first directory below a path that cannot be looked into, as the path that leads there is too long. -/
def FileTree.tooLongBelow? (t : FileTree) (p : Path) (place : Place) : Option Path :=
  (((t.below place).filter fun e => e.2.isDirectory).map fun e => p.append ⟨0, e.1⟩).find? fun q =>
    pathBound ≤ q.toText.octetCount

/-- The sources that a path leads to, in order: the file itself, or all that is below a directory and has the name
of a source. Every directory on the way has to be looked into. This goes as deep as the directories do: that a process may
not have room for the calls into a very deep tree is left out. -/
def FileTree.sources (t : FileTree) (p : Path) : Except FileFault (List Path) := do
  match ← t.find? p with
  | none => return []
  | some (.file _) => return if p.isSource then [p] else []
  | some .directory =>
    let place ← t.resolve p
    match t.tooLongBelow? p place with
    | some q => throw ⟨.nameTooLong, q⟩
    | none => return ((t.below place).map fun (names, _) => p.append ⟨0, names⟩).filter Path.isSource

/-- Why a file has no document: it has no text, or its text no block, or its slug is a number too long to be shown. -/
inductive DocumentFault where
  | unreadable (fault : ReadFault)
  | block (fault : BlockFault)
  | slugTooLong
  deriving Repr

namespace DocumentFault

/-- The wording of a fault. -/
def message : DocumentFault → Text
  | unreadable fault => fault.message
  | block fault => fault.message
  | slugTooLong =>
    "Exceeds the limit (4300 digits) for integer string conversion; use sys.set_int_max_str_digits() to ".toList ++
      "increase the limit".toList

/-- Whether the fault says that what the user wrote is wrong. -/
def isForeseen : DocumentFault → Bool
  | block (.frontMatter (.yaml _ fault)) => fault.isForeseen
  | block (.unrendered _) => false
  | _ => true

end DocumentFault

/-- The slug of a file with given metadata: what these ask for, or else one made of the name of the file. -/
def slugOf (metadata : Entries) (p : Path) : Except DocumentFault Text :=
  let v := (Entries.getText? metadata "slug".toList).getD .null
  if !v.isTruthy then .ok (Text.slug p.stem "doc".toList)
  else if v.isShort then .ok v.plain
  else .error .slugTooLong

/-- The document with a block. -/
def Document.make (p : Path) (b : Block) : Except DocumentFault Document := do
  return ⟨← slugOf b.metadata p, p.toText, b⟩

/-- A block with a route for each heading. -/
def Block.routed (b : Block) : Block := { b with contents := assignRoutes [] b.contents }

namespace Compiler

/-- The document of a file. -/
def document (c : Compiler) (t : FileTree) (p : Path) : Except DocumentFault Document := do
  let text ← (t.readText p).mapError .unreadable
  let b ← (c.block none text).mapError .block
  Document.make p b.routed

/-- What there is to be told about a file, whether it has a document or not. -/
def documentNotices (c : Compiler) (t : FileTree) (p : Path) : List Notice :=
  match t.readText p with
  | .error _ => []
  | .ok text => c.notices none text

end Compiler

end TagDoc

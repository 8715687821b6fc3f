import TagDoc.Files.Tree

/-!
# Text files

The text of a file is what its octets stand for in UTF-8, with every line break written as a line feed. Files
are written in UTF-8, with line breaks as they are.

## Main definitions

* `Text.unifyBreaks`
* `FileTree.readText`, `FileTree.writeText`
-/

namespace TagDoc

/-- A text in which every carriage return, with the line feed behind it if there is one, is a line feed. -/
def Text.unifyBreaks : Text → Text
  | '\r' :: '\n' :: t => '\n' :: unifyBreaks t
  | '\r' :: t => '\n' :: unifyBreaks t
  | c :: t => c :: unifyBreaks t
  | [] => []

/-- Why a file has no text: it cannot be read, or its octets stand for none. -/
inductive ReadFault where
  | file (fault : FileFault)
  | encoding (fault : Utf8Fault)
  deriving DecidableEq, Repr

/-- The wording of a fault. -/
def ReadFault.message : ReadFault → Text
  | file fault => fault.message
  | encoding fault => fault.message

namespace FileTree

/-- The text of a file. -/
def readText (t : FileTree) (p : Path) : Except ReadFault Text :=
  match t.read p with
  | .error fault => .error (.file fault)
  | .ok octets =>
    match Text.ofUtf8 octets with
    | .error fault => .error (.encoding fault)
    | .ok text => .ok text.unifyBreaks

/-- The tree after a text was written to a file. -/
def writeText (t : FileTree) (p : Path) (text : Text) : Except FileFault FileTree := t.write p text.toUtf8

end FileTree

end TagDoc

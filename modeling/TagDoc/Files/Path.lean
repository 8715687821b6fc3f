import TagDoc.Text.Raw
import TagDoc.Text.Utf8

/-!
# Paths

A path is a list of names, read from the directory in use or, if the path is absolute, from the root. It is
written with slashes between the names. Empty names and single dots mean nothing and are left out; two dots
stay, since what they mean depends on the files.

The ending of a name is its part from the last dot on, unless that dot is the first or the last character.

## Main definitions

* `Path`, `Path.ofText`, `Path.toText`
* `Path.append`: one path read from where another leads to
* `Path.stem`, `Path.ending`: the last name, cut in two
-/

namespace TagDoc

/-- A path: how many slashes it begins with, which is none unless the path is absolute, and its names. Two
slashes at the start are kept apart from one. -/
structure Path where
  slashes : Nat
  names : List Text
  deriving DecidableEq, Repr, Inhabited

namespace Path

/-- The path to the directory in use. -/
def here : Path := ⟨0, []⟩

/-- Whether a path is read from the root. -/
def isAbsolute (p : Path) : Bool := p.slashes != 0

/-- Whether a name leads anywhere. -/
def isName (t : Text) : Bool := !t.isEmpty && t != ['.']

/-- How many slashes count at the start of a path: of more than two, one. -/
def leadingSlashes (t : Text) : Nat :=
  let n := (t.takeWhile (· == '/')).length
  if n ≤ 2 then n else 1

/-- The path that a text stands for. -/
def ofText (t : Text) : Path := ⟨leadingSlashes t, (Text.splitOn '/' t).filter isName⟩

/-- A path as text. -/
def toText (p : Path) : Text :=
  if p.slashes = 0 ∧ p.names.isEmpty then ['.']
  else List.replicate p.slashes '/' ++ Text.join ['/'] p.names

/-- The code points of a path as it is written, given those of a text that stands for it. -/
def writtenPoints (points : List Nat) : List Nat :=
  let slash := '/'.toNat
  let names := (Text.splitOn slash points).filter fun name => !name.isEmpty && name != ['.'.toNat]
  List.replicate (leadingSlashes (Text.ofPoints points)) slash ++ [slash].intercalate names

/-- The path `q` read from where `p` leads to. -/
def append (p q : Path) : Path := if q.isAbsolute then q else ⟨p.slashes, p.names ++ q.names⟩

/-- The path to a name below a path. -/
def child (p : Path) (name : Text) : Path := ⟨p.slashes, p.names ++ [name]⟩

/-- The path without its last name. -/
def parent (p : Path) : Path := ⟨p.slashes, p.names.dropLast⟩

/-- The last name, empty if there is none. -/
def name (p : Path) : Text := p.names.getLastD []

/-- How many characters of a name stand before its ending. -/
def stemLength (name : Text) : Nat :=
  let ending := name.reverse.takeWhile (· != '.')
  let lead := name.length - ending.length - 1
  if ending.isEmpty ∨ lead = 0 ∨ ending.length = name.length then name.length else lead

/-- The last name without its ending. -/
def stem (p : Path) : Text := p.name.take (stemLength p.name)

/-- The ending of the last name, with its dot; empty if the name has none. -/
def ending (p : Path) : Text := p.name.drop (stemLength p.name)

end Path

end TagDoc

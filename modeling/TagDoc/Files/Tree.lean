import TagDoc.Files.Path
import TagDoc.Value.Literal

/-!
# Trees of files

A tree of files is a value: it tells for each place whether there is a directory or a file, and what the file
holds. One directory of it is the one in use, from which paths are read. Nothing but directories and files is
in a tree, so a path leads to one place: names go down, and two dots go up.

Operations that change a tree give back the changed tree.

## Main definitions

* `FileTree`, `FileTree.item?`
* `FileTree.resolve`: the place a path leads to
* `FileTree.read`, `FileTree.write`, `FileTree.ensureDirectory`, `FileTree.remove`
* `FileTree.below`: all that is below a place
-/

namespace TagDoc

/-- The names that lead to a place, from the root down. -/
abbrev Place := List Text

/-- What is at a place. -/
inductive Item where
  | directory
  | file (octets : List UInt8)
  deriving DecidableEq, Repr

/-- Whether an item is a directory. -/
def Item.isDirectory : Item → Bool
  | directory => true
  | file _ => false

/-- A tree of files: what is at which place, the root left out, and the directory in use. -/
structure FileTree where
  items : List (Place × Item)
  working : Place
  deriving Repr

/-- What can be wrong with a path. -/
inductive FileCause where
  | missing
  | notDirectory
  | isDirectory
  | alreadyThere
  | nameTooLong
  | zeroCharacter
  deriving DecidableEq, Repr

/-- A path that cannot be used as it was to be. -/
structure FileFault where
  cause : FileCause
  path : Path
  deriving DecidableEq, Repr

/-- The number of a cause among the faults of files, and its wording; one with a character that no path can
have is no fault of files. -/
def FileCause.number? : FileCause → Option (Nat × String)
  | missing => some (2, "No such file or directory")
  | notDirectory => some (20, "Not a directory")
  | isDirectory => some (21, "Is a directory")
  | alreadyThere => some (17, "File exists")
  | nameTooLong => some (36, "File name too long")
  | zeroCharacter => none

/-- The wording of a fault. -/
def FileFault.message (f : FileFault) : Text :=
  match f.cause.number? with
  | some (n, reason) =>
    "[Errno ".toList ++ Text.ofNat n ++ "] ".toList ++ reason.toList ++ ": ".toList ++ f.path.toText.quoted
  | none => "embedded null byte".toList

namespace FileTree

/-- What is at a place; at the root there is always a directory. -/
def item? (t : FileTree) (p : Place) : Option Item := if p.isEmpty then some .directory else t.items.lookup p

/-- Items with one of them set. -/
def setItem (p : Place) (i : Item) : List (Place × Item) → List (Place × Item)
  | [] => [(p, i)]
  | (q, j) :: rest => if q = p then (p, i) :: rest else (q, j) :: setItem p i rest

/-- The tree with an item put at a place. -/
def put (t : FileTree) (p : Place) (i : Item) : FileTree := { t with items := setItem p i t.items }

/-! ### Where paths lead -/

/-- The most octets that a name can have. -/
def maxName : Nat := 255

/-- The least number of octets that is too much for a whole path. -/
def pathBound : Nat := 4096

/-- The place that names lead to from a place. There must be a directory everywhere on the way, but nothing need
be at the end. -/
def walk (t : FileTree) : Place → List Text → Except FileCause Place
  | p, [] => .ok p
  | p, name :: names =>
    match t.item? p with
    | none => .error .missing
    | some (.file _) => .error .notDirectory
    | some .directory =>
      if name = ['.', '.'] then t.walk p.dropLast names
      else if maxName < name.octetCount then .error .nameTooLong
      else t.walk (p ++ [name]) names

/-- The place that a path leads to. -/
def resolve (t : FileTree) (p : Path) : Except FileFault Place :=
  let place :=
    if p.toText.contains '\x00' then .error .zeroCharacter
    else if pathBound ≤ p.toText.octetCount then .error .nameTooLong
    else t.walk (if p.isAbsolute then [] else t.working) p.names
  place.mapError fun cause => ⟨cause, p⟩

/-- What a path leads to, if anything. That a name is too long is a fault all the same. -/
def find? (t : FileTree) (p : Path) : Except FileFault (Option Item) :=
  match t.resolve p with
  | .ok place => .ok (t.item? place)
  | .error f => if f.cause = .nameTooLong then .error f else .ok none

/-- Whether a path leads to a directory. -/
def isDirectory (t : FileTree) (p : Path) : Bool :=
  match t.find? p with
  | .ok (some item) => item.isDirectory
  | _ => false

/-- Whether a path leads anywhere. -/
def contains (t : FileTree) (p : Path) : Bool :=
  match t.find? p with
  | .ok item => item.isSome
  | .error _ => false

/-! ### Reading and writing -/

/-- The octets of a file. -/
def read (t : FileTree) (p : Path) : Except FileFault (List UInt8) := do
  match t.item? (← t.resolve p) with
  | some (.file octets) => .ok octets
  | some .directory => .error ⟨.isDirectory, p⟩
  | none => .error ⟨.missing, p⟩

/-- The tree after octets were written to a file, which is made if there is none. -/
def write (t : FileTree) (p : Path) (octets : List UInt8) : Except FileFault FileTree := do
  let place ← t.resolve p
  match t.item? place with
  | some .directory => .error ⟨.isDirectory, p⟩
  | _ => .ok (t.put place (.file octets))

/-- The tree with a new directory. -/
def makeDirectory (t : FileTree) (p : Path) : Except FileFault FileTree := do
  let place ← t.resolve p
  if (t.item? place).isSome ∨ p.name = ['.', '.'] then .error ⟨.alreadyThere, p⟩
  else .ok (t.put place .directory)

/-- The tree with a directory at the end of a path, and the fault if there cannot be one. All directories that
are missing on the way are made; they stay if there is a fault. -/
def ensureDirectory (t : FileTree) (p : Path) : FileTree × Option FileFault :=
  match t.makeDirectory p with
  | .ok t => (t, none)
  | .error f =>
    if f.cause ≠ .missing then (t, if t.isDirectory p then none else some f)
    else if _h : p.names = [] then (t, some f)
    else
      match t.ensureDirectory p.parent with
      | (t, some f) => (t, some f)
      | (t, none) =>
        match t.makeDirectory p with
        | .ok t => (t, none)
        | .error f => (t, if f.cause ≠ .missing ∧ t.isDirectory p then none else some f)
termination_by p.names.length
decreasing_by
  have := List.length_pos_iff.2 _h
  simp only [Path.parent, List.length_dropLast]
  omega

/-- The tree without what a path leads to, and all that is below it. -/
def remove (t : FileTree) (p : Path) : Except FileFault FileTree := do
  let place ← t.resolve p
  match t.item? place with
  | none => .error ⟨.missing, p⟩
  | some _ => .ok { t with items := t.items.filter fun (q, _) => !place.isPrefixOf q }

/-! ### What is below a place -/

/-- All that is below a place, each with the names that lead to it from there, in order. -/
def below (t : FileTree) (place : Place) : List (List Text × Item) :=
  (t.items.filterMap fun (q, i) =>
    if place.isPrefixOf q && q.length != place.length then some (q.drop place.length, i) else none).mergeSort
      fun a b => inOrder Text.le a.1 b.1

end FileTree

end TagDoc

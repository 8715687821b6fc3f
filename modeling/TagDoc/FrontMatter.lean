import TagDoc.Tag.Scan
import TagDoc.Yaml.Load

/-!
# Front matter

A text may begin with a block of metadata in YAML between two delimiters: lines of three hyphens, behind which
blanks are allowed. The first delimiter is the first line of the text. At least one line stands between the
two, if there is a delimiter after it; else the second line can close the block at once.

## Main definitions

* `FrontMatter.cut?`: the block of metadata and the text after it
* `FrontMatter.extract`: the metadata and the text after it
-/

namespace TagDoc

open Text

/-- A text taken apart: its metadata and what comes after them. -/
structure FrontMatter where
  metadata : Entries
  body : Text
  deriving Repr

namespace FrontMatter

/-- Three hyphens and blanks behind them. -/
def isDelimiter (line : Text) : Bool := startsWith "---".toList line && (line.drop 3).all isBlank

/-- The lines before the first delimiter, of which there is one at least, and the text after the delimiter. -/
def findClosing? (t : Text) : Option (Text × Text) :=
  match _h : dropLine t with
  | [] => none
  | _ :: after =>
    if isDelimiter (takeLine after) then some (takeLine t, laterLines after)
    else (findClosing? after).map fun (content, body) => (takeLine t ++ '\n' :: content, body)
termination_by t.length
decreasing_by
  have bound := dropLine_length_le t
  rw [_h, List.length_cons] at bound
  omega

/-- The block between two delimiters at the start of a text, and the text after it. -/
def cut? (t : Text) : Option (Text × Text) :=
  match dropLine t with
  | [] => none
  | _ :: inner =>
    if isDelimiter (takeLine t) then
      findClosing? inner <|> (if isDelimiter (takeLine inner) then some ([], laterLines inner) else none)
    else none

/-- Why front matter is refused: it is not YAML, or it is not a mapping. -/
inductive Fault where
  | yaml (source : Text) (fault : Yaml.Fault)
  | notMapping (type : String)
  deriving Repr

/-- What the wording of a fault begins with. -/
def faultStart : Text := "Invalid YAML frontmatter: ".toList

/-- The wording of a fault. One that belongs to no stage of reading YAML speaks for itself. -/
def Fault.message : Fault → Text
  | yaml source fault => (if fault.stage?.isSome then faultStart else []) ++ fault.message source
  | notMapping type => faultStart ++ "expected a mapping, got ".toList ++ type.toList

/-- The metadata in a value; a value that does not count as given holds none. -/
def metadataOf (v : Value) : Except Fault Entries :=
  if !v.isTruthy then .ok []
  else
    match v with
    | .map entries => .ok entries
    | v => .error (.notMapping v.typeName)

/-- Takes a text apart; `load` reads YAML. A text without front matter has no metadata. -/
def extract (load : Text → Except Yaml.Fault Value) (t : Text) : Except Fault FrontMatter :=
  match cut? t with
  | none => .ok ⟨[], t⟩
  | some (source, body) =>
    match load source with
    | .error fault => .error (.yaml source fault)
    | .ok v => (metadataOf v).map fun metadata => ⟨metadata, body⟩

end FrontMatter

end TagDoc

import TagDoc.Markdown.Escape

/-!
# Lines

A document is read in lines. A line within a quotation or a list has marks of these before its content; they
count as its lead, together with the white space around them. Tabs reach to the next column that is a multiple
of four.

## Main definitions

* `Line`, `Line.ofText`: the lines of a document
* `Line.dropColumns`: a line from some column on
* `Line.unlines`: the text of lines, each from some column on
-/

namespace TagDoc.Markdown

open Text

/-- A line: the column at which its lead begins, as far as tabs are concerned, the lead, the content, how far
the content is indented, and whether a line break ends it. A line that only continues a paragraph, though it lacks
the mark of a quotation, is indented by a negative number. -/
structure Line where
  origin : Nat
  lead : Text
  content : Text
  indent : Int
  ended : Bool
  deriving Repr, Inhabited

namespace Line

/-- Whether a line has no content. -/
def isEmpty (l : Line) : Bool := l.content.isEmpty

/-- How many columns a character takes at a column. -/
def width (column : Nat) (c : Char) : Nat := if c == '\t' then 4 - column % 4 else 1

/-- How many columns a text takes at a column. -/
def widths (column : Nat) (t : Text) : Nat := t.foldl (fun w c => w + width (column + w) c) 0

/-- The line of a text, without its line break. -/
def ofText (t : Text) (ended : Bool) : Line :=
  let lead := t.takeWhile isBlank
  ⟨0, lead, t.drop lead.length, widths 0 lead, ended⟩

/-- The lines of a document. White space after the last line break is no line. -/
def lines (t : Text) : List Line :=
  let rows := splitOn '\n' t
  rows.dropLast.map (ofText · true) ++ (rows.getLast?.toList.filter fun r => !r.all isBlank).map (ofText · false)

/-- The lead from some column on, where it begins at `column`; a tab that the cut goes through is spaces. -/
def cutLead (origin limit column : Nat) : Text → Text
  | [] => List.replicate (column - limit) ' '
  | c :: lead =>
    if limit ≤ column then List.replicate (column - limit) ' ' ++ c :: lead
    else cutLead origin limit (column + width (column + origin) c) lead

/-- A line from some column on. -/
def dropColumns (limit : Nat) (l : Line) : Text := cutLead l.origin limit 0 l.lead ++ l.content

/-- The line break of a line, if there is one. -/
def lineBreak (l : Line) : Text := if l.ended then ['\n'] else []

/-- The text of lines with all their line breaks, each line from some column on. -/
def unlines (limit : Nat) (ls : List Line) : Text := ls.flatMap fun l => l.dropColumns limit ++ l.lineBreak

/-- The text of lines without the last line break. -/
def joinLines (limit : Nat) (ls : List Line) : Text := join ['\n'] (ls.map (dropColumns limit))

end Line

end TagDoc.Markdown

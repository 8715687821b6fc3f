import TagDoc.Markdown.Block
import TagDoc.Markdown.Dialect
import TagDoc.Markdown.HtmlTag
import TagDoc.Markdown.Line

/-!
# How blocks start

The first line of a block tells its kind. Some blocks also end the paragraph, or the lazy continuation of a
quotation, that stands before them.

## Main definitions

* `FenceMark.read?`, `readHeading?`, `isRule`, `ListMark.read?`, `readTable?`: what a line starts
* `readTask?`: the task that an item of a list is
* `startsBlock`: whether a line ends what stands before it
* `continues`: whether a line goes on with the paragraph before it
-/

namespace TagDoc.Markdown

open Text

/-- Where lines stand: the column from which their contents count, the column of the list around them if there is
one, and how many blocks are around them. -/
structure Place where
  indent : Nat
  listIndent : Option Nat
  level : Nat
  deriving Repr, Inhabited

/-- Whether a line is indented so far that it is code. -/
def Place.isCode (p : Place) (l : Line) : Bool := l.indent - p.indent ≥ 4

/-- The mark of a fenced block of code: the character it is made of, how often it is repeated, and the text
behind it. -/
structure FenceMark where
  mark : Char
  length : Nat
  info : Text
  deriving Repr

/-- The mark of a fence that a line starts with. -/
def FenceMark.read? (content : Text) : Option FenceMark := do
  let mark ← content.head?
  let length := (content.takeWhile (· == mark)).length
  let info := content.drop length
  if (mark == '~' || mark == '\x60') && 3 ≤ length && !(mark == '\x60' && mark ∈ info) then
    return ⟨mark, length, info⟩
  else none

/-- Whether a line closes a fence. -/
def FenceMark.isClosedBy (f : FenceMark) (content : Text) : Bool :=
  let length := (content.takeWhile (· == f.mark)).length
  f.length ≤ length && (content.drop length).all isBlank

/-- Whether a line is a rule: at least three times the same mark, with nothing but blanks between. -/
def isRule (content : Text) : Bool :=
  match content with
  | [] => false
  | mark :: _ =>
    (mark == '*' || mark == '-' || mark == '_') && content.all (fun c => c == mark || isBlank c) &&
      3 ≤ content.count mark

/-- The text of a heading without the hashes that close it. -/
def dropClosing (t : Text) : Text :=
  let t := stripEnd isBlank t
  let cut := stripEnd (· == '#') t
  if cut.getLast?.any isBlank then cut else t

/-- The level and the text of a heading. -/
def readHeading? (content : Text) : Option (Nat × Text) :=
  let level := (content.takeWhile (· == '#')).length
  let text := content.drop level
  if 1 ≤ level && level ≤ 6 && (text.isEmpty || text.head?.any isBlank) then some (level, trim (dropClosing text))
  else none

/-- Whether a line underlines a heading, and the level of this. -/
def readUnderline? (content : Text) : Option Nat := do
  let mark ← content.head?
  if (content.dropWhile (· == mark)).all isBlank then
    if mark == '=' then some 1 else if mark == '-' then some 2 else none
  else none

/-- The mark of an item of a list: its number if it has one, the character that tells it from others, and how long
it is. -/
structure ListMark where
  number : Option Nat
  mark : Char
  length : Nat
  deriving Repr

namespace ListMark

/-- The mark that a line starts with. A blank or the end of the line follows it. -/
def read? (content : Text) : Option ListMark :=
  let digits := content.takeWhile Char.isDigit
  match content.drop digits.length with
  | [] => none
  | mark :: rest =>
    if !(rest.isEmpty || rest.head?.any isBlank) then none
    else if digits.isEmpty then
      if mark == '*' || mark == '-' || mark == '+' then some ⟨none, mark, 1⟩ else none
    else if digits.length ≤ 9 && (mark == '.' || mark == ')') then
      some ⟨some (readNat digits), mark, digits.length + 1⟩
    else none

/-- Whether two marks belong to one list. -/
def sameList (a b : ListMark) : Bool := a.number.isSome == b.number.isSome && a.mark == b.mark

/-- The kind of list that a mark starts. -/
def style (m : ListMark) : ListStyle :=
  match m.number with
  | some n => .numbers n
  | none => .bullets

end ListMark

/-- The task that an item of a list is: whether it is done, and what follows its mark. There are blanks behind the
mark. -/
def readTask? : Text → Option (Bool × Text)
  | '[' :: c :: ']' :: b :: t =>
    if isBlank b && (c == ' ' || c == 'x' || c == 'X') then some (c != ' ', stripStart isBlank t) else none
  | _ => none

/-- The cells of a row; `cell` is the current one, its last character first. A bar after a backslash is text. -/
def splitCells (cell : Text) : Text → List Text
  | [] => [cell.reverse]
  | '|' :: t =>
    match cell with
    | '\\' :: cell => splitCells ('|' :: cell) t
    | cell => cell.reverse :: splitCells [] t
  | c :: t => splitCells (c :: cell) t

/-- The cells of a row, whose outer bars count for nothing. -/
def readRow (content : Text) : List Text :=
  let cells := splitCells [] (trim content)
  let cells := if cells.head? == some [] then cells.drop 1 else cells
  let cells := if cells.getLast? == some [] then cells.dropLast else cells
  cells.map trim

/-- How a column is aligned, from what stands under its header. -/
def readAlign? (t : Text) : Option Align :=
  let left := t.head? == some ':'
  let right := t.getLast? == some ':'
  let dashes := if left then t.drop 1 else t
  let dashes := if right then dashes.dropLast else dashes
  if dashes.isEmpty || dashes.any (· != '-') then none
  else some (if left && right then .center else if left then .left else if right then .right else .none)

/-- How the columns of a table are aligned, from the line under its header. It starts with no mark of a list. -/
def readAligns? (content : Text) : Option (List Align) :=
  let isMark := fun c : Char => c == '|' || c == '-' || c == ':'
  match content with
  | a :: b :: rest =>
    if isMark a && (isMark b || (isBlank b && a != '-')) && rest.all fun c => isMark c || isBlank c then
      let columns := (splitOn '|' content).map trim
      let columns := if columns.head? == some [] then columns.drop 1 else columns
      let columns := if columns.getLast? == some [] then columns.dropLast else columns
      columns.mapM readAlign?
    else none
  | _ => none

/-- The header of a table that two lines start, with the alignment of its columns. -/
def readTable? (p : Place) (l : Line) (later : List Line) : Option Table := do
  let under ← later.head?
  if under.indent < p.indent || p.isCode under || p.isCode l then none
  let aligns ← readAligns? under.content
  if !('|' ∈ l.content) then none
  let header := readRow l.content
  if header.isEmpty || header.length != aligns.length then none else return ⟨aligns, header, []⟩

/-- What a line may end: a paragraph, a definition, the lazy continuation of a quotation or the rows of a table,
or the items of a list. -/
inductive Open where
  | paragraph
  | definition
  | container
  | list
  deriving DecidableEq, Repr

/-- Whether a list starts within what is open. Within a paragraph it has to start with one, and not to be empty. -/
def startsList (p : Place) (within : Open) (l : Line) : Bool :=
  match ListMark.read? l.content with
  | none => false
  | some m =>
    let tooDeep := p.listIndent.any fun column => l.indent - column ≥ 4 && l.indent < p.indent
    let ends := within == .paragraph && l.indent ≥ p.indent
    !tooDeep && !(ends && (m.number.any (· != 1) || (l.content.drop m.length).all isBlank))

/-- Whether a block of HTML starts within what is open. -/
def startsHtml (d : Dialect) (l : Line) : Bool := d.html && (HtmlBlock.ofLine? l.content).any HtmlBlock.interrupts

/-- Whether a line starts a block that ends what is open. -/
def startsBlock (d : Dialect) (p : Place) (within : Open) (l : Line) (later : List Line) : Bool :=
  d.structured && !p.isCode l &&
    ((FenceMark.read? l.content).isSome || l.content.head? == some '>' || isRule l.content ||
      (within != .list && (startsList p within l || startsHtml d l || (readHeading? l.content).isSome)) ||
      ((within == .paragraph || within == .definition) && d.tables && (readTable? p l later).isSome))

/-- Whether a line goes on with what is open. -/
def continues (d : Dialect) (p : Place) (within : Open) (l : Line) (later : List Line) : Bool :=
  !l.isEmpty && (l.indent - p.indent > 3 || l.indent < 0 || !startsBlock d p within l later)

/-- How many of the next lines go on with what is open. -/
def countLines (d : Dialect) (p : Place) (within : Open) : List Line → Nat
  | [] => 0
  | l :: later => if continues d p within l later then countLines d p within later + 1 else 0

end TagDoc.Markdown

import TagDoc.Yaml.Fault

/-!
# A place in a text and what comes after it

A cursor moves through a text from its start and keeps count of lines and columns. The end of the text looks
like the character NUL, which no text in YAML holds.

## Main definitions

* `Yaml.Cursor`: the text left over with the place where it begins
* `Yaml.Cursor.peek`, `Yaml.Cursor.advance`, `Yaml.Cursor.takeBreak`
-/

namespace TagDoc.Yaml

/-- A place in a text, and the text from there on. -/
structure Cursor where
  rest : Text
  mark : Mark
  deriving Repr, Inhabited

/-- What stands for the end of a text. -/
def endChar : Char := '\x00'

/-- Line ends and the end of the text. -/
def isEnd (c : Char) : Bool := c == endChar || isBreak c

/-- Spaces, line ends and the end of the text. -/
def isSpaceOrEnd (c : Char) : Bool := c == ' ' || isEnd c

/-- Blanks, line ends and the end of the text. -/
def isBlankOrEnd (c : Char) : Bool := c == '\t' || isSpaceOrEnd c

namespace Cursor

/-- The start of a text. -/
def ofText (t : Text) : Cursor := ⟨t, ⟨0, 0, 0⟩⟩

/-- The column of the cursor. -/
def column (c : Cursor) : Nat := c.mark.column

/-- The character `k` places ahead. -/
def peek (c : Cursor) (k : Nat) : Char := (c.rest.drop k).headD endChar

/-- The next character. -/
def head (c : Cursor) : Char := c.rest.headD endChar

/-- The place after one more character; a mark of byte order takes no column, and of a pair of return and
line feed the second ends the line. -/
def advance (c : Cursor) : Cursor :=
  match c.rest with
  | [] => c
  | d :: rest =>
    let m := c.mark
    let isLineEnd := isBreak d && !(d == '\r' && rest.head? == some '\n')
    if isLineEnd then ⟨rest, ⟨m.index + 1, m.line + 1, 0⟩⟩
    else if d = '\uFEFF' then ⟨rest, { m with index := m.index + 1 }⟩
    else ⟨rest, { m with index := m.index + 1, column := m.column + 1 }⟩

/-- The place after `n` more characters. -/
def skip (c : Cursor) : (n : Nat) → Cursor
  | 0 => c
  | n + 1 => c.advance.skip n

/-- The characters of `p` at the cursor, and the place after them. -/
def takeWhile (p : Char → Bool) (c : Cursor) : Text × Cursor :=
  let taken := c.rest.takeWhile p
  (taken, c.skip taken.length)

/-- The place after the characters of `p`. -/
def skipWhile (p : Char → Bool) (c : Cursor) : Cursor := (c.takeWhile p).2

/-- The place after the spaces at the cursor, as far as they do not go past a column. -/
def skipSpacesTo (column : Nat) (c : Cursor) : Cursor :=
  c.skip (min (column - c.column) (c.rest.takeWhile (· == ' ')).length)

/-- A line end at the cursor as it counts in a text, and the place after it. All but the two separators of
Unicode count as a line feed; where there is no line end, nothing is taken. -/
def takeBreak (c : Cursor) : Text × Cursor :=
  match c.rest with
  | '\r' :: '\n' :: _ => (['\n'], c.skip 2)
  | d :: _ =>
    if d = '\u2028' ∨ d = '\u2029' then ([d], c.advance)
    else if isBreak d then (['\n'], c.advance)
    else ([], c)
  | [] => ([], c)

/-- Whether a line of three times the character `d`, or one that goes on after them with a blank, begins at
the cursor. -/
def atSeparator (d : Char) (c : Cursor) : Bool :=
  c.rest.take 3 == [d, d, d] && isBlankOrEnd (c.peek 3)

/-- Whether a line that starts or ends a document begins at the cursor. -/
def atDocumentMark (c : Cursor) : Bool := c.atSeparator '-' || c.atSeparator '.'

end Cursor

end TagDoc.Yaml

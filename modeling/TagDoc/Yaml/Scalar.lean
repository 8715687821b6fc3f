import TagDoc.Yaml.Token

/-!
# Scalars in their five forms

A scalar is written plain, between single or double quotes, or as a literal or folded block. Each form has its
own rules for line ends: a single line end between two lines of text is a space, except in literal blocks, and
every further one counts as written.

## Main definitions

* `Yaml.scanQuoted`: a scalar between quotes
* `Yaml.scanPlain`: a plain scalar
* `Yaml.scanBlock`: a literal or folded block
-/

namespace TagDoc.Yaml

/-- A fault of the stage that cuts a text into tokens. -/
def tokenFault {α : Type} (reason : String) : Except Fault α := .error (.stage .tokens reason)

/-- The code points of a text. -/
def points (t : Text) : List Nat := t.map Char.toNat

/-- What a line end followed by further ones stands for where lines are folded: a space if it is a single line
feed, else the line ends after it; a separator of Unicode also counts itself. -/
def foldBreaks (lineEnd : Text) (further : Text) : Text :=
  if lineEnd ≠ ['\n'] then lineEnd ++ further else if further.isEmpty then [' '] else further

/-! ### Between quotes -/

/-- The line ends at the cursor, each after blanks of its line. -/
def scanQuotedBreaks : (fuel : Nat) → Cursor → Except Fault (Text × Cursor)
  | 0, c => .ok ([], c)
  | fuel + 1, c =>
    if c.atDocumentMark then tokenFault "found unexpected document separator"
    else
      let c := c.skipWhile fun d => d == ' ' || d == '\t'
      if isBreak c.head then do
        let (b, c) := c.takeBreak
        let (bs, c) ← scanQuotedBreaks fuel c
        pure (b ++ bs, c)
      else pure ([], c)

/-- What a letter after a backslash stands for. -/
def unescape? (c : Char) : Option Char :=
  [('0', '\x00'), ('a', '\x07'), ('b', '\x08'), ('t', '\t'), ('\t', '\t'), ('n', '\n'), ('v', '\x0b'),
    ('f', '\x0c'), ('r', '\r'), ('e', '\x1b'), (' ', ' '), ('\x22', '\x22'), ('\\', '\\'), ('/', '/'),
    ('N', '\x85'), ('_', '\u00A0'), ('L', '\u2028'), ('P', '\u2029')].lookup c

/-- How many hexadecimal digits follow a letter after a backslash. -/
def codeLength? (c : Char) : Option Nat := [('x', 2), ('u', 4), ('U', 8)].lookup c

/-- Reads an escape after its backslash. -/
def scanEscape (fuel : Nat) (c : Cursor) : Except Fault (List Nat × Cursor) :=
  match unescape? c.head, codeLength? c.head with
  | some d, _ => .ok ([d.toNat], c.advance)
  | none, some n =>
    let digits := c.advance.rest.take n
    if digits.length = n ∧ digits.all (Text.hexDigit? · |>.isSome) then
      let code := Text.readHex digits
      if 0x80000000 ≤ code then .error .codeTooLarge
      else if 0x110000 ≤ code then .error .noCharacter
      else .ok ([code], c.skip (n + 1))
    else tokenFault "expected escape sequence of hexadecimal numbers"
  | none, none =>
    if isBreak c.head then do
      let (breaks, c) ← scanQuotedBreaks fuel c.takeBreak.2
      pure (points breaks, c)
    else tokenFault "found unknown escape character"

/-- Reads what lies between quotes up to the next blank, line end or closing quote. -/
def scanQuotedText (double : Bool) : (fuel : Nat) → Cursor → Except Fault (List Nat × Cursor)
  | 0, c => .ok ([], c)
  | fuel + 1, c => do
    let (run, c) := c.takeWhile fun d => !(d == '\x27' || d == '\x22' || d == '\\' || isBlankOrEnd d)
    let d := c.head
    if !double && d == '\x27' && c.peek 1 == '\x27' then
      let (more, c) ← scanQuotedText double fuel (c.skip 2)
      pure (points run ++ d.toNat :: more, c)
    else if (double && d == '\x27') || (!double && (d == '\x22' || d == '\\')) then
      let (more, c) ← scanQuotedText double fuel c.advance
      pure (points run ++ d.toNat :: more, c)
    else if double && d == '\\' then
      let (escaped, c) ← scanEscape (c.rest.length + 1) c.advance
      let (more, c) ← scanQuotedText double fuel c
      pure (points run ++ escaped ++ more, c)
    else pure (points run, c)

/-- Reads blanks between quotes; around a line end they do not count. -/
def scanQuotedSpaces (c : Cursor) : Except Fault (List Nat × Cursor) := do
  let (blanks, c) := c.takeWhile fun d => d == ' ' || d == '\t'
  if c.head == endChar then tokenFault "found unexpected end of stream"
  else if isBreak c.head then
    let (b, c) := c.takeBreak
    let (bs, c) ← scanQuotedBreaks (c.rest.length + 1) c
    pure (points (foldBreaks b bs), c)
  else pure (points blanks, c)

/-- Reads on to the closing quote. -/
def scanQuotedRest (quote : Char) (seen : List Nat) : (fuel : Nat) → Cursor → Except Fault (List Nat × Cursor)
  | 0, c => .ok (seen, c)
  | fuel + 1, c => do
    if c.head == quote then pure (seen, c.advance)
    else
      let (spaces, c) ← scanQuotedSpaces c
      let (more, c) ← scanQuotedText (quote == '\x22') (c.rest.length + 1) c
      scanQuotedRest quote (seen ++ spaces ++ more) fuel c

/-- Reads a scalar that starts with a quote at the cursor. -/
def scanQuoted (c : Cursor) : Except Fault (List Nat × Cursor) := do
  let quote := c.head
  let (first, after) ← scanQuotedText (quote == '\x22') (c.rest.length + 1) c.advance
  scanQuotedRest quote first (c.rest.length + 1) after

/-! ### Plain -/

/-- Reads line ends and the spaces between them; nothing is read past the start of a document mark. `none`
says that such a mark was met. -/
def scanPlainBreaks : (fuel : Nat) → Cursor → Option Text × Cursor
  | 0, c => (some [], c)
  | fuel + 1, c =>
    if c.head == ' ' then scanPlainBreaks fuel c.advance
    else if isBreak c.head then
      let (b, c) := c.takeBreak
      if c.atDocumentMark then (none, c)
      else
        let (bs, c) := scanPlainBreaks fuel c
        (bs.map (b ++ ·), c)
    else (some [], c)

/-- What lies between two words of a plain scalar: the text it counts for, whether a line ended, and the place
after it. -/
def scanPlainSpaces (c : Cursor) : Text × Bool × Cursor :=
  let (spaces, c) := c.takeWhile (· == ' ')
  if isBreak c.head then
    let (b, c) := c.takeBreak
    if c.atDocumentMark then ([], true, c)
    else
      match scanPlainBreaks (c.rest.length + 1) c with
      | (none, c) => ([], true, c)
      | (some bs, c) => (foldBreaks b bs, true, c)
  else (spaces, false, c)

/-- The signs that structure flow collections. -/
def isFlowSign (c : Char) : Bool := c == ',' || c == '[' || c == ']' || c == '\x7b' || c == '\x7d'

/-- The characters of a plain scalar up to the next blank, or to a sign that ends it. -/
def takePlainWord (flow : Bool) : Text → Text
  | [] => []
  | d :: rest =>
    let next := rest.headD endChar
    if isBlankOrEnd d then []
    else if d = ':' ∧ (isBlankOrEnd next || (flow && isFlowSign next)) then []
    else if flow && (isFlowSign d || d == '?') then []
    else d :: takePlainWord flow rest

/-- Reads the words of a plain scalar. Outside flow collections it goes on over lines that are indented by
`indent` at least. The answer holds the scalar, whether a line ended after its last word, and the place. -/
def scanPlainWords (flow : Bool) (indent : Nat) (seen : Text) (spaces : Text) (lineEnded : Bool) :
    (fuel : Nat) → Cursor → Text × Bool × Cursor
  | 0, c => (seen, lineEnded, c)
  | fuel + 1, c =>
    if c.head == '#' then (seen, lineEnded, c)
    else
      let word := takePlainWord flow c.rest
      if word.isEmpty then (seen, lineEnded, c)
      else
        let seen := seen ++ spaces ++ word
        let (spaces, lineEnded, c) := scanPlainSpaces (c.skip word.length)
        if spaces.isEmpty || c.head == '#' || (!flow && c.column < indent) then (seen, lineEnded, c)
        else scanPlainWords flow indent seen spaces lineEnded fuel c

/-- Reads a plain scalar. -/
def scanPlain (flow : Bool) (indent : Nat) (c : Cursor) : Text × Bool × Cursor :=
  scanPlainWords flow indent [] [] false (c.rest.length + 1) c

/-! ### Blocks -/

/-- What becomes of the line ends after the last line of a block: one stays, none, or all. -/
inductive Chomping where
  | clip
  | strip
  | keep
  deriving DecidableEq

/-- Reads a sign for chomping. -/
def scanChomping (c : Cursor) : Chomping × Cursor :=
  if c.head == '+' then (.keep, c.advance) else if c.head == '-' then (.strip, c.advance) else (.clip, c)

/-- Reads a digit for indentation, which is not zero. -/
def scanIncrement (c : Cursor) : Except Fault (Option Nat × Cursor) :=
  if c.head == '0' then tokenFault "expected indentation indicator in the range 1-9, but found 0"
  else if c.head.isDigit then .ok (some (Text.readNat [c.head]), c.advance)
  else .ok (none, c)

/-- Reads the signs for chomping and indentation, in any order. -/
def scanBlockSigns (c : Cursor) : Except Fault (Chomping × Option Nat × Cursor) := do
  let (chomping, c) := scanChomping c
  let (increment, c) ← scanIncrement c
  let (chomping, c) := if chomping = .clip ∧ increment.isSome then scanChomping c else (chomping, c)
  if isSpaceOrEnd c.head then pure (chomping, increment, c)
  else tokenFault "expected chomping or indentation indicators"

/-- Skips the rest of a line, which holds spaces and a comment at most. -/
def skipIgnoredLine (c : Cursor) : Except Fault Cursor :=
  let c := c.skipWhile (· == ' ')
  let c := if c.head == '#' then c.skipWhile (!isEnd ·) else c
  if isEnd c.head then .ok c.takeBreak.2 else tokenFault "expected a comment or a line break"

/-- Reads empty lines at the start of a block: their line ends, and the widest column among them. -/
def scanLeadingLines (widest : Nat) : (fuel : Nat) → Cursor → Text × Nat × Cursor
  | 0, c => ([], widest, c)
  | fuel + 1, c =>
    if c.head == ' ' then
      let c := c.advance
      scanLeadingLines (max widest c.column) fuel c
    else if isBreak c.head then
      let (b, c) := c.takeBreak
      let (bs, widest, c) := scanLeadingLines widest fuel c
      (b ++ bs, widest, c)
    else ([], widest, c)

/-- Reads empty lines within a block and the indentation of the line after them. -/
def scanEmptyLines (indent : Nat) : (fuel : Nat) → Cursor → Text × Cursor
  | 0, c => ([], c)
  | fuel + 1, c =>
    let c := c.skipSpacesTo indent
    if isBreak c.head then
      let (b, c) := c.takeBreak
      let (bs, c) := scanEmptyLines indent fuel c
      (b ++ bs, c)
    else ([], c)

/-- Reads the lines of a block, given the empty lines before the next of them. The answer holds the text, the
last line end, and the empty lines after it. -/
def scanBlockLines (folded : Bool) (indent : Nat) (seen : Text) (breaks lineEnd : Text) :
    (fuel : Nat) → Cursor → Text × Text × Text × Cursor
  | 0, c => (seen, lineEnd, breaks, c)
  | fuel + 1, c =>
    if c.column = indent ∧ c.head ≠ endChar then
      let startsWithText := !(c.head == ' ' || c.head == '\t')
      let (line, c) := c.takeWhile (!isEnd ·)
      let seen := seen ++ breaks ++ line
      let (lineEnd, c) := c.takeBreak
      let (breaks, c) := scanEmptyLines indent (c.rest.length + 1) c
      if c.column = indent ∧ c.head ≠ endChar then
        -- Between two lines of text a line end is a space, unless empty lines follow it.
        let joint :=
          if folded && lineEnd == ['\n'] && startsWithText && !(c.head == ' ' || c.head == '\t') then
            if breaks.isEmpty then [' '] else []
          else lineEnd
        scanBlockLines folded indent (seen ++ joint) breaks lineEnd fuel c
      else (seen, lineEnd, breaks, c)
    else (seen, lineEnd, breaks, c)

/-- Reads a block that starts with its sign at the cursor; its lines are indented more than `indent`. -/
def scanBlock (folded : Bool) (indent : Int) (c : Cursor) : Except Fault (Text × Cursor) := do
  let (chomping, increment, c) ← scanBlockSigns c.advance
  let c ← skipIgnoredLine c
  -- A block is indented by one column at least, even at the start of a document.
  let least := max 1 (indent + 1).toNat
  let fuel := c.rest.length + 1
  -- Without a digit, the first line that is not empty tells the column.
  let (breaks, column, c) := match increment with
    | none =>
      let (breaks, widest, c) := scanLeadingLines 0 fuel c
      (breaks, max least widest, c)
    | some n =>
      let column := least + n - 1
      let (breaks, c) := scanEmptyLines column fuel c
      (breaks, column, c)
  let (text, lineEnd, breaks, c) := scanBlockLines folded column [] breaks [] fuel c
  let tail := match chomping with
    | .strip => []
    | .clip => lineEnd
    | .keep => lineEnd ++ breaks
  pure (text ++ tail, c)

end TagDoc.Yaml

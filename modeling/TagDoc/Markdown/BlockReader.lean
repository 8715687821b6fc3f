import TagDoc.Markdown.BlockStart

/-!
# Reading blocks

A document is read line by line: the first line of what is left tells the kind of the next block, and the block
tells how many lines it takes. The lines within a quotation or an item of a list are read in the same way.

Every block takes a line at least, and the lines within a block have lost a mark, so that the number of lines and
characters bounds how often reading can go on.

## Main definitions

* `readLeaf`: blocks that hold text only
* `readBlocks`: the blocks of some lines
* `Markdown.parse`: the blocks of a document
-/

namespace TagDoc.Markdown

open Text

/-- A block, and the number of lines that it takes. -/
structure Taken where
  block : Block
  used : Nat
  deriving Repr

/-- The number of rows that follow the header of a table. A row ends the table once so many cells were missing in
rows that more than 65536 would have to be made up. -/
def takeRows (d : Dialect) (p : Place) (columns : Nat) : (missing : Int) → List Line → List (List Text)
  | _, [] => []
  | missing, l :: later =>
    if l.indent < p.indent || startsBlock d p .container l later || (trim l.content).isEmpty || p.isCode l then []
    else
      let row := readRow l.content
      -- Rows with more cells than the header make up for those with fewer.
      let missing := missing + columns - row.length
      if missing > 65536 then []
      else (row ++ List.replicate (columns - row.length) []).take columns :: takeRows d p columns missing later

/-- A table. -/
def takeTable? (d : Dialect) (p : Place) (l : Line) (later : List Line) : Option Taken := do
  if !d.tables then none
  let table ← readTable? p l later
  let rows := takeRows d p table.header.length 0 (later.drop 1)
  return ⟨.table { table with rows }, rows.length + 2⟩

/-- The number of lines of indented code: up to the last one before something else that has content. -/
def countCode (p : Place) : List Line → Nat
  | [] => 0
  | l :: later =>
    if l.isEmpty then
      match countCode p later with
      | 0 => 0
      | n + 1 => n + 2
    else if p.isCode l then countCode p later + 1
    else 0

/-- Indented code. -/
def takeCode (p : Place) (l : Line) (later : List Line) : Taken :=
  let used := countCode p later + 1
  ⟨.code (Line.joinLines (p.indent + 4) ((l :: later).take used) ++ ['\n']), used⟩

/-- The number of lines within a fence, and whether a line closes it. -/
def countFenced (p : Place) (f : FenceMark) : List Line → Nat × Bool
  | [] => (0, false)
  | l :: later =>
    if !l.isEmpty && l.indent < p.indent then (0, false)
    else if !p.isCode l && f.isClosedBy l.content then (0, true)
    else
      let (n, closed) := countFenced p f later
      (n + 1, closed)

/-- Fenced code. -/
def takeFence (p : Place) (f : FenceMark) (l : Line) (later : List Line) : Taken :=
  let (n, closed) := countFenced p f later
  ⟨.fence f.info (Line.unlines l.indent.toNat (later.take n)), if closed then n + 2 else n + 1⟩

/-- The number of lines after the first of a block of HTML. An empty line can stand in it, however little it is
indented. -/
def countHtml (p : Place) (kind : HtmlBlock) : List Line → Nat
  | [] => 0
  | l :: later =>
    if !l.isEmpty && l.indent < p.indent then 0
    else if kind.isLastLine l.content then if l.isEmpty then 0 else 1
    else countHtml p kind later + 1

/-- A block of HTML. -/
def takeHtml? (d : Dialect) (p : Place) (l : Line) (later : List Line) : Option Taken := do
  if !d.html then none
  let kind ← HtmlBlock.ofLine? l.content
  let used := if kind.isLastLine l.content then 1 else countHtml p kind later + 1
  return ⟨.html (Line.unlines p.indent ((l :: later).take used)), used⟩

/-- A definition of a label. -/
def takeDefinition? (d : Dialect) (p : Place) (l : Line) (later : List Line) : Option Taken := do
  if l.content.head? != some '[' then none
  let lines := l :: later.take (countLines d p .definition later)
  let source := (lines.flatMap fun l => l.content ++ l.lineBreak).toArray
  let (definition, stop) ← Definition.read? source
  return ⟨.definition definition, (source.take stop).count '\n' + 1⟩

/-- The number of lines before the one that underlines them, and the level of that; `n` of them were seen. -/
def findUnderline? (d : Dialect) (p : Place) (n : Nat) : List Line → Option (Nat × Nat)
  | [] => none
  | l :: later =>
    if l.isEmpty then none
    else if l.indent - p.indent > 3 then findUnderline? d p (n + 1) later
    else
      match if l.indent ≥ p.indent then readUnderline? l.content else none with
      | some level => some (n, level)
      | none =>
        if l.indent < 0 || !startsBlock d p .paragraph l later then findUnderline? d p (n + 1) later else none

/-- A heading that is underlined. -/
def takeUnderlined? (d : Dialect) (p : Place) (l : Line) (later : List Line) : Option Taken := do
  let (n, level) ← findUnderline? d p 0 later
  return ⟨.heading level (trim (Line.joinLines p.indent (l :: later.take n))), n + 2⟩

/-- A paragraph. -/
def takeParagraph (d : Dialect) (p : Place) (l : Line) (later : List Line) : Taken :=
  let n := countLines d p .paragraph later
  ⟨.paragraph (trim (Line.joinLines p.indent (l :: later.take n))), n + 1⟩

/-- A heading that is marked by hashes. -/
def takeHeading? (l : Line) : Option Taken := do
  let (level, text) ← readHeading? l.content
  return ⟨.heading level text, 1⟩

/-- A block that holds text only, and is no table, code or rule. -/
def takeText (d : Dialect) (p : Place) (l : Line) (later : List Line) : Taken :=
  (takeDefinition? d p l later <|> takeHtml? d p l later <|> takeHeading? l <|> takeUnderlined? d p l later).getD
    (takeParagraph d p l later)

/-- A line within a quotation, without the mark that it starts with and the blank behind that. Of a tab that is wider
than one column, what is left indents the content. -/
def quotedLine (l : Line) : Line :=
  let column := l.indent.toNat + 1
  let rest := l.content.drop 1
  let tab := rest.head? == some '\t'
  -- A tab that ends in the next column is used up by the mark.
  let kept := tab && (l.origin + column) % 4 != 3
  let blank := tab || rest.head? == some ' '
  let rest := if blank && !kept then rest.drop 1 else rest
  let start := if blank && !kept then column + 1 else column
  let lead := rest.takeWhile isBlank
  let shift := if kept then 1 else 0
  { l with
    origin := if blank then column + 1 else column
    lead
    content := rest.drop lead.length
    indent := Line.widths (start + l.origin + shift) lead }

/-- The lines within a quotation; `afterEmpty` tells that the last one has no content. A line without the mark goes
on with a paragraph, or ends the quotation. -/
def quotedLines (d : Dialect) (p : Place) (afterEmpty : Bool) : List Line → List Line
  | [] => []
  | l :: later =>
    if l.isEmpty then []
    else if l.content.head? == some '>' && l.indent ≥ p.indent then
      let inner := quotedLine l
      inner :: quotedLines d p inner.isEmpty later
    else if afterEmpty || startsBlock d p .container l later then []
    else { l with indent := -1 } :: quotedLines d p false later

/-- The kind of alert that a quotation is, by its first line. -/
def alert? (d : Dialect) (first : Line) : Option Alert := if d.alerts then Alert.ofLine? (trim first.content) else none

/-- The first line of an item of a list, where the mark counts as lead, and the column of the item's content. This is
one column after the mark if nothing follows, or code. -/
def itemLine (m : ListMark) (l : Line) : Line × Nat :=
  let start := l.indent.toNat + m.length
  let rest := l.content.drop m.length
  let blanks := rest.takeWhile isBlank
  let content := rest.drop blanks.length
  let width := Line.widths (start + l.origin) blanks
  -- Content that is indented by more than four columns is code, which keeps its indentation.
  let gap := if content.isEmpty || width > 4 then 1 else width
  ({ l with lead := l.lead ++ l.content.take m.length ++ blanks, content, indent := (start + width : Nat) }, start + gap)

/-- The task that an item of a list is, and the item's first line without the mark of the task. What is indented so far
that it is code has no such mark. -/
def taskLine (d : Dialect) (column : Nat) (first : Line) : Option Bool × Line :=
  if !d.tasks || first.indent - column ≥ 4 then (none, first)
  else
    match readTask? first.content with
    | some (done, content) => (some done, { first with lead := [], content })
    | none => (none, first)

/-- The mark of the next item of a list, if a line goes on with the list. -/
def nextMark? (d : Dialect) (p : Place) (m : ListMark) (l : Line) (later : List Line) : Option ListMark := do
  if l.indent < p.indent || p.isCode l || startsBlock d p .list l later then none
  let next ← ListMark.read? l.content
  if m.sameList next then return next else none

/-- Blocks, the number of lines they take, and whether no empty line stands between two of them. -/
structure Blocks where
  blocks : List Block
  used : Nat
  tight : Bool
  deriving Repr

/-- The items of a list, the number of lines they take, and whether all of them are tight. -/
structure Items where
  items : List (Option Bool × List Block)
  used : Nat
  tight : Bool
  deriving Repr

mutual

/-- The blocks of lines; `gap` tells that there was an empty line before, and `tight` that there was none before the
last block. Reading ends at a line that is not indented far enough. Where blocks stand too deep in each other, the
lines are left out. -/
def readBlocks (d : Dialect) (p : Place) (gap tight : Bool) : (fuel : Nat) → List Line → Blocks
  | 0, _ => ⟨[], 0, tight⟩
  | fuel + 1, lines =>
    let empty := (lines.takeWhile Line.isEmpty).length
    match lines.drop empty with
    | [] => ⟨[], empty, tight⟩
    | l :: later =>
      if l.indent < p.indent then ⟨[], empty, tight⟩
      -- What stands too deep is left out down to the last line.
      else if d.blockLimit ≤ p.level then ⟨[], lines.length, tight⟩
      else
        let taken := readBlock d p fuel l later
        let last := (l :: later)[taken.used - 1]?
        let rest := (l :: later).drop taken.used
        let more := readBlocks d p (gap || last.any Line.isEmpty || rest.head?.any Line.isEmpty) (!gap) fuel rest
        ⟨taken.block :: more.blocks, empty + taken.used + more.used, more.tight⟩

/-- The block that a line starts. -/
def readBlock (d : Dialect) (p : Place) : (fuel : Nat) → Line → List Line → Taken
  | 0, l, later => takeParagraph d p l later
  | fuel + 1, l, later =>
    if !d.structured then takeParagraph d p l later
    else
      match takeTable? d p l later with
      | some taken => taken
      | none =>
        if p.isCode l then takeCode p l later
        else
          match FenceMark.read? l.content with
          | some f => takeFence p f l later
          | none =>
            if l.content.head? == some '>' then
              let first := quotedLine l
              let place := { p with indent := 0, level := p.level + 1 }
              let rest := quotedLines d p first.isEmpty later
              match alert? d first with
              | some kind =>
                let inner := readBlocks d place false true fuel rest
                ⟨.alert kind inner.blocks, inner.used + 1⟩
              | none =>
                let inner := readBlocks d place false true fuel (first :: rest)
                ⟨.quote inner.blocks, inner.used⟩
            else if isRule l.content then ⟨.rule, 1⟩
            else
              match ListMark.read? l.content with
              | some m =>
                let items := readItems d p m false fuel l later
                ⟨.list m.style items.tight items.items, items.used⟩
              | none => takeText d p l later

/-- The items of a list from the one with the mark `m` on. An empty line at the end of an item is one between this and
the next; `loose` tells that there is one before. -/
def readItems (d : Dialect) (p : Place) (m : ListMark) (loose : Bool) : (fuel : Nat) → Line → List Line → Items
  | 0, _, _ => ⟨[], 1, true⟩
  | fuel + 1, l, later =>
    let (first, column) := itemLine m l
    let (task, first) := taskLine d column first
    let inner :=
      -- An item that begins with two empty lines holds nothing.
      if first.isEmpty && later.head?.all Line.isEmpty then ⟨[], min 2 (later.length + 1), true⟩
      else readBlocks d ⟨column, some p.indent, p.level + 2⟩ false true fuel (first :: later)
    let tight := inner.tight && !loose
    let endsEmpty := inner.used > 1 && (later[inner.used - 2]?).any Line.isEmpty
    match later.drop (inner.used - 1) with
    | [] => ⟨[(task, inner.blocks)], inner.used, tight⟩
    | next :: rest =>
      match nextMark? d p m next rest with
      | none => ⟨[(task, inner.blocks)], inner.used, tight⟩
      | some m =>
        let more := readItems d p m endsEmpty fuel next rest
        ⟨(task, inner.blocks) :: more.items, inner.used + more.used, tight && more.tight⟩

end

/-- Line breaks in one form, and no character that stands for none. -/
def normalize : Text → Text
  | [] => []
  | '\r' :: '\n' :: t => '\n' :: normalize t
  | '\r' :: t => '\n' :: normalize t
  | '\x00' :: t => '\uFFFD' :: normalize t
  | c :: t => c :: normalize t

/-- The blocks of a document. -/
def parse (d : Dialect) (t : Text) : List Block :=
  (readBlocks d ⟨0, none, 0⟩ false true (3 * t.length + 3) (Line.lines (normalize t))).blocks

end TagDoc.Markdown

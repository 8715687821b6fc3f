import TagDoc.Markdown.Attempt
import TagDoc.Markdown.BlockReader

/-!
# What is tried while blocks are read

The attempts are those of the reader, in order. At the first line of a block the kinds are tried until one fits.
A line that may go on with a block is asked for each kind that could end that block, until one does.

The functions here follow those that read blocks, and use them to see what is found; they only add where in the
document this happens.

## Main definitions

* `Spot`: where in the document lines stand
* `probe`, `probeLines`: the attempts at lines that may go on with a block
* `traceBlocks`: the attempts for some lines
* `Markdown.trace`: the attempts for a document
-/

namespace TagDoc.Markdown

open Text

mutual

/-- How many signs a block takes: one for its start, its end and each of its contents. The title of an alert is one of
its contents, with a start and an end of its own. -/
def Block.tokens (d : Dialect) : Block → Nat
  | .paragraph _ | .heading _ _ => 3
  | .rule | .code _ | .fence _ _ | .html _ => 1
  | .definition _ => if d.showsDefinitions then 1 else 0
  | .table t =>
    let columns := 3 * t.header.length
    6 + columns + if t.rows.isEmpty then 0 else 2 + t.rows.length * (2 + columns)
  | .quote blocks => 2 + tokensIn d blocks
  | .alert _ blocks => 5 + tokensIn d blocks
  | .list _ _ items => 2 + tokensOf d items

/-- How many signs blocks take. -/
def tokensIn (d : Dialect) : List Block → Nat
  | [] => 0
  | b :: blocks => b.tokens d + tokensIn d blocks

/-- How many signs the items of a list take. -/
def tokensOf (d : Dialect) : List (Option Bool × List Block) → Nat
  | [] => 0
  | (_, item) :: items => 2 + tokensIn d item + tokensOf d items

end

/-- Where in the document lines stand: the number of the first of them, how many signs were found before, the line
after the last one of what is read, and the line after the last one that paragraphs may reach. -/
structure Spot where
  line : Nat
  tokens : Nat
  stop : Nat
  reach : Nat
  deriving Repr

/-- The spot a number of lines below, where signs were found on the way. -/
def Spot.skip (s : Spot) (lines tokens : Nat) : Spot :=
  { s with line := s.line + lines, tokens := s.tokens + tokens }

/-- The attempt to read a block of some kind. -/
def Spot.attempt (s : Spot) (level : Nat) (kind : BlockKind) : Attempt :=
  ⟨kind, s.line, level, s.tokens, s.line, s.stop, false⟩

/-! ### Asking if a line ends a block -/

/-- The kinds that can end what is open, in the order in which they are tried. -/
def endingKinds (within : Open) : List BlockKind :=
  [.fence, .quote, .rule] ++ if within == .list then [] else [.list, .html, .heading]

/-- Whether a line starts a block of a kind that ends what is open. -/
def startsKind (d : Dialect) (p : Place) (within : Open) (l : Line) : BlockKind → Bool
  | .fence => (FenceMark.read? l.content).isSome
  | .quote => l.content.head? == some '>'
  | .rule => isRule l.content
  | .list => startsList p within l
  | .html => startsHtml d l
  | .heading => (readHeading? l.content).isSome
  | _ => false

/-- A list up to the first item of `p`, and this item. -/
def upTo {α : Type} (p : α → Bool) : List α → List α
  | [] => []
  | a :: as => if p a then [a] else a :: upTo p as

/-- Whether a line starts a table that ends what is open. -/
def startsTable (d : Dialect) (p : Place) (within : Open) (l : Line) (later : List Line) : Bool :=
  (within == .paragraph || within == .definition) && d.tables && (readTable? p l later).isSome

/-- The kinds that a line is asked for. A table is tried before all of them. -/
def probedKinds (d : Dialect) (p : Place) (within : Open) (l : Line) (later : List Line) : List BlockKind :=
  if !d.structured || startsTable d p within l later then []
  else upTo (fun k => !p.isCode l && startsKind d p within l k) (endingKinds within)

/-- The attempts at a line; the block that it may end begins at the line of `s`. -/
def probe (d : Dialect) (p : Place) (s : Spot) (within : Open) (line stop : Nat) (l : Line) (later : List Line) :
    List Attempt :=
  (probedKinds d p within l later).map fun k => ⟨k, s.line, p.level, s.tokens, line, stop, true⟩

/-- The attempts at lines that may go on with a paragraph or a definition, of which the first has the number `line`;
`reach` is the number of the line after the last one that is looked at. -/
def probeLines (d : Dialect) (p : Place) (s : Spot) (within : Open) (reach line : Nat) : List Line → List Attempt
  | [] => []
  | l :: later =>
    if l.isEmpty || reach ≤ line then []
    else if l.indent - p.indent > 3 || l.indent < 0 then probeLines d p s within reach (line + 1) later
    else
      probe d p s within line s.reach l later ++
        if startsBlock d p within l later then [] else probeLines d p s within reach (line + 1) later

/-- The attempts at lines one of which may underline a heading. -/
def probeUnderline (d : Dialect) (p : Place) (s : Spot) (line : Nat) : List Line → List Attempt
  | [] => []
  | l :: later =>
    if l.isEmpty then []
    else if l.indent - p.indent > 3 then probeUnderline d p s (line + 1) later
    else if l.indent ≥ p.indent && (readUnderline? l.content).isSome then []
    else if l.indent < 0 then probeUnderline d p s (line + 1) later
    else
      probe d p s .paragraph line s.stop l later ++
        if startsBlock d p .paragraph l later then [] else probeUnderline d p s (line + 1) later

/-- The attempts while it is found out whether a definition starts: at each line that is looked at for it. -/
def probeDefinition (d : Dialect) (p : Place) (s : Spot) (l : Line) (later : List Line) : List Attempt :=
  if l.content.head? != some '[' then []
  else
    let lines := l :: later.take (countLines d p .definition later)
    let source := (lines.flatMap fun l => l.content ++ l.lineBreak).toArray
    -- Lines are taken one by one, and only as long as the definition could go on.
    let asked := (source.take (Definition.reach source)).count '\n'
    probeLines d p s .definition (s.line + 1 + asked) (s.line + 1) later

/-- The attempts at the rows of a table with some number of columns; `row` counts the rows before. -/
def probeRows (d : Dialect) (p : Place) (s : Spot) (columns rows row : Nat) : List Line → List Attempt
  | [] => []
  | l :: later =>
    if l.indent < p.indent || rows < row then []
    else
      -- The table, its head and the rows before this one are open or done at this point.
      let found := 5 + 3 * columns + if row = 0 then 0 else 1 + row * (2 + 3 * columns)
      let inner := { p with level := p.level + if row = 0 then 1 else 2 }
      probe d inner { s with tokens := s.tokens + found } .container (s.line + 2 + row) s.stop l later ++
        probeRows d p s columns rows (row + 1) later

/-- The attempts at the lines of a quotation from the line with the number `line` on, and whether one of them ends the
quotation. -/
def probeQuote (d : Dialect) (p : Place) (s : Spot) (afterEmpty : Bool) (line : Nat) :
    List Line → List Attempt × Bool
  | [] => ([], false)
  | l :: later =>
    if l.isEmpty then ([], false)
    else if l.content.head? == some '>' && l.indent ≥ p.indent then
      probeQuote d p s (quotedLine l).isEmpty (line + 1) later
    else if afterEmpty then ([], false)
    else
      let here := probe d p s .container line s.stop l later
      if startsBlock d p .container l later then (here, true)
      else
        let (more, ended) := probeQuote d p s false (line + 1) later
        (here ++ more, ended)

/-! ### Reading blocks -/

/-- The attempts for a block that holds text only, and is no table, code, quotation, rule or list. -/
def traceText (d : Dialect) (p : Place) (s : Spot) (l : Line) (later : List Line) : List Attempt :=
  let attempt (k : BlockKind) : List Attempt := [s.attempt p.level k]
  attempt .definition ++ probeDefinition d p s l later ++
    if (takeDefinition? d p l later).isSome then []
    else attempt .html ++
      if (takeHtml? d p l later).isSome then []
      else attempt .heading ++
        if (takeHeading? l).isSome then []
        else attempt .underlined ++ probeUnderline d p s (s.line + 1) later ++
          if (takeUnderlined? d p l later).isSome then []
          else attempt .paragraph ++ probeLines d p s .paragraph s.reach (s.line + 1) later

mutual

/-- The attempts for lines that start at a spot. -/
def traceBlocks (d : Dialect) (p : Place) (s : Spot) : (fuel : Nat) → List Line → List Attempt
  | 0, _ => []
  | fuel + 1, lines =>
    let empty := (lines.takeWhile Line.isEmpty).length
    match lines.drop empty with
    | [] => []
    | l :: later =>
      if l.indent < p.indent || d.blockLimit ≤ p.level then []
      else
        let taken := readBlock d p fuel l later
        let s := s.skip empty 0
        traceBlock d p s fuel l later ++
          traceBlocks d p (s.skip taken.used (taken.block.tokens d)) fuel ((l :: later).drop taken.used)

/-- The attempts for the block that a line starts. -/
def traceBlock (d : Dialect) (p : Place) (s : Spot) : (fuel : Nat) → Line → List Line → List Attempt
  | 0, _, _ => []
  | fuel + 1, l, later =>
    let attempts (ks : List BlockKind) : List Attempt := ks.map (s.attempt p.level)
    if !d.structured then attempts [.paragraph]
    else
      match takeTable? d p l later with
      | some ⟨.table t, _⟩ => probeRows d p s t.header.length t.rows.length 0 (later.drop 1)
      | some _ => []
      | none =>
        if p.isCode l then attempts [.code]
        else if (FenceMark.read? l.content).isSome then attempts [.code, .fence]
        else if l.content.head? == some '>' then
          let (probes, ended) := probeQuote d p s (quotedLine l).isEmpty (s.line + 1) later
          let first := quotedLine l
          let rest := quotedLines d p first.isEmpty later
          let stop := s.line + rest.length + 1
          let inner : Spot := ⟨s.line, s.tokens + 1, stop, if ended then stop else s.reach⟩
          let place := { p with indent := 0, level := p.level + 1 }
          attempts [.code, .fence, .quote] ++ probes ++
            match alert? d first with
            | some _ => traceBlocks d place (inner.skip 1 3) fuel rest
            | none => traceBlocks d place inner fuel (first :: rest)
        else if isRule l.content then attempts [.code, .fence, .quote, .rule]
        else
          match ListMark.read? l.content with
          | some m =>
            attempts [.code, .fence, .quote, .rule, .list] ++
              traceItems d p { s with tokens := s.tokens + 1 } m fuel l later
          | none => attempts [.code, .fence, .quote, .rule, .list] ++ traceText d p s l later

/-- The attempts for the items of a list from the one with the mark `m` on. -/
def traceItems (d : Dialect) (p : Place) (s : Spot) (m : ListMark) : (fuel : Nat) → Line → List Line → List Attempt
  | 0, _, _ => []
  | fuel + 1, l, later =>
    let (first, column) := itemLine m l
    let (_, first) := taskLine d column first
    let place : Place := ⟨column, some p.indent, p.level + 2⟩
    let isBare := first.isEmpty && later.head?.all Line.isEmpty
    let inner : Blocks :=
      if isBare then ⟨[], min 2 (later.length + 1), true⟩ else readBlocks d place false true fuel (first :: later)
    let here := if isBare then [] else traceBlocks d place (s.skip 0 1) fuel (first :: later)
    match later.drop (inner.used - 1) with
    | [] => here
    | next :: rest =>
      let s := s.skip inner.used (2 + tokensIn d inner.blocks)
      -- After each item the next line is asked whether it ends the list.
      let probes :=
        if next.indent < p.indent || p.isCode next then []
        else probe d { p with level := p.level + 1 } s .list s.line s.stop next rest
      match nextMark? d p m next rest with
      | none => here ++ probes
      | some m => here ++ probes ++ traceItems d p s m fuel next rest

end

/-- The attempts for a document. -/
def trace (d : Dialect) (t : Text) : List Attempt :=
  let lines := Line.lines (normalize t)
  traceBlocks d ⟨0, none, 0⟩ ⟨0, 0, lines.length, lines.length⟩ (3 * t.length + 3) lines

end TagDoc.Markdown

import Std.Data.HashMap
import TagDoc.Markdown.BareLink
import TagDoc.Markdown.Delimiter
import TagDoc.Markdown.Dialect
import TagDoc.Markdown.HtmlTag

/-!
# Reading the text of a paragraph

The text is read once from its start to its end. Where a bracket opens, the label that it may open has to be closed
before it is known whether there is a link; what stands in the label is passed over item by item to find out. The
places at which items end are kept, so that none is passed over twice.

## Main definitions

* `labelEnd?`: where a label is closed
* `linkHere?`: the link at a position
* `readPieces`: the pieces of a text
-/

namespace TagDoc.Markdown

open Text

/-- A text in which pieces are read: the dialect, the definitions of the document, the text, and the scheme that the plain
text ends with before what is being looked at. -/
structure Passage where
  dialect : Dialect
  references : References
  source : Source
  scheme : Text

/-- How often reading can go on or go deeper within a text: a few times for each character. -/
def Passage.fuel (x : Passage) : Nat := 4 * x.source.size + 8

/-- What is known about a text: where items end, where the last run of backticks of each length starts, and whether
these were looked for up to the end. -/
structure Memo where
  stops : Std.HashMap Nat Nat
  backticks : List (Nat × Nat)
  complete : Bool

/-- Nothing is known. -/
def Memo.empty : Memo := ⟨∅, [], false⟩

/-- Where code ends: the position of the run of backticks that closes it, and the position after that. Runs of other
lengths are noted. -/
def findBackticks (s : Source) (stop length : Nat) :
    (fuel pos : Nat) → List (Nat × Nat) → Option (Nat × Nat) × List (Nat × Nat)
  | 0, _, runs => (none, runs)
  | fuel + 1, pos, runs =>
    let start := s.skip (· != '\x60') s.size pos
    if s.size ≤ start then (none, runs)
    else
      let close := s.skip (· == '\x60') stop (start + 1)
      if close - start = length then (some (start, close), runs)
      else findBackticks s stop length fuel close ((close - start, start) :: runs)

/-- The length of the run of backticks at a position, and where the code that it opens ends, if it does. -/
def codeEnd? (s : Source) (stop pos : Nat) (memo : Memo) : (Nat × Option (Nat × Nat)) × Memo :=
  let length := s.skip (· == '\x60') stop pos - pos
  -- Once the whole text was looked through, only runs that were met then can close code.
  if memo.complete && (memo.backticks.lookup length).all (· ≤ pos) then ((length, none), memo)
  else
    match findBackticks s stop length (s.size + 1) (pos + length) memo.backticks with
    | (some ends, runs) => ((length, some ends), { memo with backticks := runs })
    | (none, runs) => ((length, none), { memo with backticks := runs, complete := true })

/-- The position after a break and the blanks behind it. -/
def afterBreak (s : Source) (stop pos : Nat) : Nat := s.skip isBlank stop (pos + 1)

/-- The position after a character that is escaped. -/
def afterEscape? (s : Source) (stop pos : Nat) : Option Nat :=
  if stop ≤ pos + 1 then none else if s[pos + 1]? == some '\n' then some (afterBreak s stop (pos + 1)) else some (pos + 2)

/-- The text between angle brackets. -/
def bracketed? (s : Source) (stop pos : Nat) : Option Text :=
  let last := s.skip (fun c => c != '<' && c != '>') stop (pos + 1)
  if last < stop && s[last]? == some '>' then some (s.slice (pos + 1) last) else none

/-- Whether a text is an address with a scheme, but for a line break at its end. -/
def isAddress (t : Text) : Bool :=
  let t := if t.getLast? == some '\n' then t.dropLast else t
  let scheme := t.takeWhile fun c => c.isAlphanum || c == '+' || c == '.' || c == '-'
  scheme.head?.any Char.isAlpha && 2 ≤ scheme.length && scheme.length ≤ 32 && t[scheme.length]? == some ':' &&
    (t.drop (scheme.length + 1)).all fun c => c != '<' && c != '>' && 0x20 < c.toNat

/-- Whether a text is the label of a host of a mailbox. -/
def isMailLabel (t : Text) : Bool :=
  !t.isEmpty && t.length ≤ 63 && t.all (fun c => c.isAlphanum || c == '-') && t.head? != some '-' && t.getLast? != some '-'

/-- Whether a text is the address of a mailbox, but for a line break at its end. -/
def isMailbox (t : Text) : Bool :=
  let t := if t.getLast? == some '\n' then t.dropLast else t
  match splitOn '@' t with
  | [name, host] =>
    !name.isEmpty && name.all (fun c => c.isAlphanum || c ∈ ".!#$%&\x27*+/=?^_\x60\x7b|\x7d~-".toList) &&
      (splitOn '.' host).all isMailLabel
  | _ => false

/-- An address in angle brackets: as it is written, and where it leads. -/
def autolink? (s : Source) (stop pos : Nat) : Option (Text × Text) := do
  let t ← bracketed? s stop pos
  if isAddress t then return (t, ← allowed? t)
  else if isMailbox t then return (t, ← allowed? ("mailto:".toList ++ t))
  else none

/-- The position after an item of HTML. -/
def htmlEnd? (x : Passage) (stop pos : Nat) : Option Nat :=
  if x.dialect.html && pos + 2 < stop then HtmlTag.end? x.source pos else none

/-- A character reference: what it stands for, and the position after it. -/
def referenceHere? (s : Source) (stop pos : Nat) : Option (Text × Nat) := do
  if stop ≤ pos + 1 then none
  let (name, _) ← reference? (s.slice (pos + 1) (pos + 34))
  let t ← if name.head? == some '#' then (referenceNumber? 7 6 name).map fun n => [entityChar n] else namedEntity? name
  return (t, pos + name.length + 2)

/-- The scheme that plain text ends with, which is given with its last character first. -/
def pendingScheme (pending : Text) : Text :=
  let letters := (pending.takeWhile fun c : Char => isPlainAlphanum c || c == '+' || c == '.' || c == '-').reverse
  if letters.head?.any isPlainAlpha then letters else []

/-- The address with a scheme whose colon is at a position, and where it leads. As many characters as the scheme has are
taken to stand before the colon. -/
def addressAt? (x : Passage) (stop pos : Nat) : Option (Text × Text) := do
  if !(x.dialect.findsLinks && x.dialect.linkify) || x.scheme.isEmpty || stop < pos + 3 ||
      !x.source.holds pos "://".toList then none
  let tail := x.source.extract (pos - x.scheme.length) x.source.size
  let link ← BareLink.atStart? tail
  if link.stop ≤ link.start + x.scheme.length then none
  let t := stripEnd (· == '*') (Source.slice tail link.start link.stop)
  return (t, ← allowed? t)

/-- What stands behind a label: a target in parentheses, with the position after it; something else in parentheses, with
the position at which that is given up; an opening parenthesis at the end; or no parenthesis. -/
inductive Behind where
  | target (target : Target) (next : Nat)
  | broken (next : Nat)
  | unfinished
  | none

/-- A title, after white space, at a position, and the position after it and the white space behind. -/
def titleHere (s : Source) (stop pos : Nat) : Text × Nat :=
  let start := s.skip Definition.isFiller stop pos
  match if start = pos then none else title? s stop start with
  | some (title, last) => (title, s.skip Definition.isFiller stop last)
  | none => ([], start)

/-- What stands behind a label that ends before a position. -/
def behindLabel (s : Source) (stop pos : Nat) : Behind :=
  if stop ≤ pos || s[pos]? != some '(' then .none
  else
    let pos := s.skip Definition.isFiller stop (pos + 1)
    if stop ≤ pos then .unfinished
    else
      let (address, title, pos) := match destination? s stop pos with
        | some (t, last) => match allowed? t with
          | some address => let (title, next) := titleHere s stop last; (address, title, next)
          | none => ([], [], pos)
        | none => ([], [], pos)
      if pos < stop && s[pos]? == some ')' then .target ⟨address, title⟩ (pos + 1) else .broken (pos + 1)

/-- A link or an image: where its label starts and ends, its target, and the position after it. -/
structure LinkHere where
  start : Nat
  stop : Nat
  target : Target
  next : Nat

mutual

/-- The position after the item at a position. Where items stand too deep in each other, that is past the end. -/
def skipItem (x : Passage) (level stop : Nat) : (fuel pos : Nat) → StateM Memo Nat
  | 0, pos => return pos + 1
  | fuel + 1, pos => do
    match (← get).stops[pos]? with
    | some next => return next
    | none =>
      let next ←
        if x.dialect.textLimit ≤ level then pure (stop + 1)
        else
          match x.source[pos]? with
          | some '\n' => pure (afterBreak x.source stop pos)
          | some '\\' => pure ((afterEscape? x.source stop pos).getD (pos + 1))
          | some '\x60' =>
            let ((length, ends), memo) := codeEnd? x.source stop pos (← get)
            set memo
            pure ((ends.map (·.2)).getD (pos + length))
          | some '[' => pure (((← linkHere? x (level + 1) stop fuel pos).map (·.next)).getD (pos + 1))
          | some '!' => pure (((← imageHere? x (level + 1) stop fuel pos).map (·.next)).getD (pos + 1))
          | some '<' =>
            match autolink? x.source stop pos with
            | some (t, _) => pure (pos + t.length + 2)
            | none => pure ((htmlEnd? x stop pos).getD (pos + 1))
          | some '&' => pure (((referenceHere? x.source stop pos).map (·.2)).getD (pos + 1))
          | some ':' =>
            pure (((addressAt? x stop pos).map fun (t, _) => pos + t.length - x.scheme.length).getD (pos + 1))
          | _ => pure (pos + 1)
      modify fun memo => { memo with stops := memo.stops.insert pos next }
      return next
termination_by structural fuel _ => fuel

/-- The position of the bracket that closes a label, `depth` of its brackets being open at `pos`. Where a label holds no
links, one in it makes it no label. -/
def labelEnd? (x : Passage) (level stop : Nat) (holdsLinks : Bool) : (fuel depth pos : Nat) → StateM Memo (Option Nat)
  | 0, _, _ => return none
  | fuel + 1, depth, pos => do
    if stop ≤ pos then return none
    let c := x.source[pos]?
    if c == some ']' && depth ≤ 1 then return some pos
    let depth := if c == some ']' then depth - 1 else depth
    let next ← skipItem x level stop fuel pos
    -- A bracket that is an item by itself has to be closed too; one that begins a link is closed already.
    if c != some '[' then labelEnd? x level stop holdsLinks fuel depth next
    else if next = pos + 1 then labelEnd? x level stop holdsLinks fuel (depth + 1) next
    else if holdsLinks then labelEnd? x level stop holdsLinks fuel depth next
    else return none
termination_by structural fuel _ _ => fuel

/-- The target that a label or the label behind it leads to, which is looked for from `pos` on, and the position after
it. -/
def referenceTarget? (x : Passage) (level stop : Nat) (start last : Nat) :
    (fuel pos : Nat) → StateM Memo (Option (Target × Nat))
  | 0, _ => return none
  | fuel + 1, pos => do
    if x.references.isEmpty then return none
    let second ←
      if pos < stop && x.source[pos]? == some '[' then labelEnd? x level stop true fuel 1 (pos + 1) else pure none
    let label := match second with
      | some close => x.source.slice (pos + 1) close
      | none => []
    -- Two brackets with nothing in between repeat the label before them.
    let label := if label.isEmpty then x.source.slice start last else label
    let next := match second with
      | some close => close + 1
      | none => last + 1
    return (x.references.find? label).map fun target => (target, next)
termination_by structural fuel _ => fuel

/-- The link whose label opens at a position. -/
def linkHere? (x : Passage) (level stop : Nat) : (fuel pos : Nat) → StateM Memo (Option LinkHere)
  | 0, _ => return none
  | fuel + 1, pos => do
    match ← labelEnd? x level stop false fuel 1 (pos + 1) with
    | none => return none
    | some last =>
      match behindLabel x.source stop (last + 1) with
      | .target target next => return some ⟨pos + 1, last, target, next⟩
      | .broken next =>
        return (← referenceTarget? x level stop (pos + 1) last fuel next).map
          fun (target, next) => ⟨pos + 1, last, target, next⟩
      | .unfinished => return none
      | .none =>
        return (← referenceTarget? x level stop (pos + 1) last fuel (last + 1)).map
          fun (target, next) => ⟨pos + 1, last, target, next⟩
termination_by structural fuel _ => fuel

/-- The image whose mark stands at a position. -/
def imageHere? (x : Passage) (level stop : Nat) : (fuel pos : Nat) → StateM Memo (Option LinkHere)
  | 0, _ => return none
  | fuel + 1, pos => do
    if x.source[pos + 1]? != some '[' then return none
    match ← labelEnd? x level stop true fuel 1 (pos + 2) with
    | none => return none
    | some last =>
      match behindLabel x.source stop (last + 1) with
      | .target target next => return some ⟨pos + 2, last, target, next⟩
      | .none =>
        return (← referenceTarget? x level stop (pos + 2) last fuel (last + 1)).map
          fun (target, next) => ⟨pos + 2, last, target, next⟩
      | _ => return none
termination_by structural fuel _ => fuel

end

/-- Reading in progress: the position, the plain text since the last piece, its last character first, the pieces, the
delimiters among them, how many links are open, and what is known about the text. -/
structure Progress where
  pos : Nat
  pending : Text
  pieces : Array Piece
  delimiters : Array Delimiter
  links : Int
  memo : Memo

namespace Progress

/-- Reading at the start of a text. -/
def start : Progress := ⟨0, [], #[], #[], 0, Memo.empty⟩

/-- The plain text since the last piece becomes a piece. -/
def flush (st : Progress) : Progress :=
  if st.pending.isEmpty then st else { st with pending := [], pieces := st.pieces.push (.text st.pending.reverse) }

/-- Adds a piece, and goes on at a position. -/
def add (st : Progress) (piece : Piece) (next : Nat) : Progress :=
  let st := st.flush
  { st with pieces := st.pieces.push piece, pos := next }

/-- Adds plain text, and goes on at a position. -/
def plain (st : Progress) (t : Text) (next : Nat) : Progress := { st with pending := t.reverse ++ st.pending, pos := next }

/-- Pairs of delimiters become extents. -/
def finish (st : Progress) : Progress :=
  let st := st.flush
  { st with pieces := resolve st.delimiters st.pieces, delimiters := #[] }

/-- Adds a delimiter, which is a piece of plain text at first. -/
def addDelimiter (st : Progress) (mark : Char) (run : Nat) (opens closes : Bool) (t : Text) : Progress :=
  { st with
    pieces := st.pieces.push (.text t)
    delimiters := st.delimiters.push ⟨mark, run, st.pieces.size, opens, closes⟩ }

/-- Adds a number of delimiters of the same kind. -/
def addDelimiters (st : Progress) (mark : Char) (run : Nat) (opens closes : Bool) (t : Text) : Nat → Progress
  | 0 => st
  | n + 1 => addDelimiters (st.addDelimiter mark run opens closes t) mark run opens closes t n

/-- Adds a break, in front of which blanks count for nothing. Two spaces or more make it a hard one. -/
def lineBreak (st : Progress) (next : Nat) : Progress :=
  let blanks := (st.pending.takeWhile (· == ' ')).length
  { st with pending := st.pending.drop blanks }.add (if 2 ≤ blanks then .hardBreak else .softBreak) next

/-- Adds an address that leads somewhere. -/
def addAddress (st : Progress) (t address : Text) (next : Nat) : Progress :=
  let link := Extent.link ⟨address, []⟩ true
  ((st.add (.opens link) next).add (.text (Address.shown t)) next).add (.closes link) next

end Progress

/-- A run of emphasis at a position. -/
def readEmphasis (x : Passage) (stop : Nat) (mark : Char) (st : Progress) : Progress :=
  let next := x.source.skip (· == mark) stop st.pos
  let before := if st.pos = 0 then ' ' else x.source[st.pos - 1]?.getD ' '
  let after := if next < stop then x.source[next]?.getD ' ' else ' '
  let length := next - st.pos
  if mark == '~' then
    if x.dialect.singleTildes then
      -- A run closes only a run of its own length.
      let (opens, closes) := flanking before after true
      let run := List.replicate length mark
      if 2 < length then st.plain run next
      else { st.flush.addDelimiter mark length opens closes run with pos := next }
    else if length < 2 then st.plain [mark] (st.pos + 1)
    else
      let (opens, closes) := flanking before after true
      let st := st.flush
      let st := if length % 2 = 1 then st.add (.text ['~']) next else st
      { st.addDelimiters mark 0 opens closes ['~', '~'] (length / 2) with pos := next }
  else
    let (opens, closes) := flanking before after (mark == '*')
    { st.flush.addDelimiters mark length opens closes [mark] length with pos := next }

/-- Code at a position, or the backticks that open none. Line breaks in code are spaces, and one space at each end does
not count, unless there is nothing else. -/
def readCode (x : Passage) (stop : Nat) (st : Progress) : Progress :=
  let ((length, ends), memo) := codeEnd? x.source stop st.pos st.memo
  let st := { st with memo }
  match ends with
  | none => st.plain (List.replicate length '\x60') (st.pos + length)
  | some (last, next) =>
    let t := (x.source.slice (st.pos + length) last).map fun c => if c == '\n' then ' ' else c
    -- Spaces at both ends keep backticks within the code apart from those around it.
    let framed := t.head? == some ' ' && t.getLast? == some ' ' && !t.all (· == ' ')
    st.add (.code (if framed then (t.drop 1).dropLast else t)) next

/-- An escape at a position. -/
def readEscape (x : Passage) (stop : Nat) (st : Progress) : Progress :=
  match afterEscape? x.source stop st.pos, x.source[st.pos + 1]? with
  | some next, some '\n' => st.add .hardBreak next
  | some next, some c => st.add (.literal (if isAsciiMark c then [c] else ['\\', c])) next
  | _, _ => st.plain ['\\'] (st.pos + 1)

/-- An address or an item of HTML at a position. -/
def readAngle (x : Passage) (stop : Nat) (st : Progress) : Progress :=
  match autolink? x.source stop st.pos with
  | some (t, address) => st.addAddress t address (st.pos + t.length + 2)
  | none =>
    match htmlEnd? x stop st.pos with
    | some next =>
      let t := x.source.slice st.pos next
      let links := st.links + (if HtmlTag.opensLink t then 1 else 0) - (if HtmlTag.closesLink t then 1 else 0)
      { st.add (.html t) next with links }
    | none => st.plain ['<'] (st.pos + 1)

/-- The scheme that the plain text so far ends with. There is none within a link. -/
def Progress.scheme (st : Progress) : Text := if 0 < st.links then [] else pendingScheme st.pending

/-- An address with a scheme, of which the colon is at the position. -/
def readColon (x : Passage) (stop : Nat) (st : Progress) : Progress :=
  let scheme := st.scheme
  match addressAt? { x with scheme } stop st.pos with
  | some (t, address) =>
    -- The scheme was taken for plain text until its colon was met.
    let next := st.pos + t.length - scheme.length
    { st with pending := st.pending.drop scheme.length }.addAddress t address next
  | none => st.plain [':'] (st.pos + 1)

/-- Reads the pieces of a text up to a position. -/
def readPassage (x : Passage) (level stop : Nat) : (fuel : Nat) → Progress → Progress
  | 0, st => st
  | fuel + 1, st =>
    if stop ≤ st.pos then st
    else
      let pos := st.pos
      let reading := x.dialect.structured && level < x.dialect.textLimit
      let next := match x.source[pos]? with
        | none => { st with pos := stop }
        | some c =>
          if !reading then st.plain [c] (pos + 1)
          else match c with
            | '\n' => st.lineBreak (afterBreak x.source stop pos)
            | '\\' => readEscape x stop st
            | '\x60' => readCode x stop st
            | '*' | '_' => readEmphasis x stop c st
            | '~' => if x.dialect.strikethrough then readEmphasis x stop c st else st.plain [c] (pos + 1)
            | '<' => readAngle x stop st
            | ':' => readColon x stop st
            | '&' => match referenceHere? x.source stop pos with
              | some (t, next) => st.add (.literal t) next
              | none => st.plain [c] (pos + 1)
            | '[' => match linkHere? { x with scheme := st.scheme } level stop x.fuel pos st.memo with
              | (none, memo) => { st with memo }.plain [c] (pos + 1)
              | (some link, memo) =>
                -- Delimiters within the label pair with each other only.
                let extent := Extent.link link.target false
                let opened := { st with memo }.add (.opens extent) link.start
                let inner := readPassage x (level + 1) link.stop fuel
                  { opened with delimiters := #[], links := opened.links + 1 }
                let inner := inner.finish
                { inner.add (.closes extent) link.next with delimiters := opened.delimiters, links := inner.links - 1 }
            | '!' => match imageHere? { x with scheme := st.scheme } level stop x.fuel pos st.memo with
              | (none, memo) => { st with memo }.plain [c] (pos + 1)
              | (some link, memo) =>
                -- The label of an image is a text of its own.
                let label := x.source.slice link.start link.stop
                let inner := readPassage { x with source := label.toArray } 0 label.length fuel Progress.start
                let alt := joinPlainPieces inner.finish.pieces.toList
                { st with memo }.add (.image link.target label alt) link.next
            | _ => st.plain [c] (pos + 1)
      readPassage x level stop fuel next

/-- The pieces of a text. -/
def readPieces (d : Dialect) (references : References) (t : Text) : List Piece :=
  let x : Passage := ⟨d, references, t.toArray, []⟩
  joinPlainPieces (readPassage x 0 x.source.size x.fuel Progress.start).finish.pieces.toList

end TagDoc.Markdown

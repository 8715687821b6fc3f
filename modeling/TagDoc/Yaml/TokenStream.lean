import TagDoc.Text.Utf8
import TagDoc.Yaml.Scalar

/-!
# The tokens of a text

Tokens come in order, with one exception. That something is a key is known only when the colon behind it is
met, and the sign for the key is then put in front of it. Until that is settled for a token, it and those after
it are held back; a fault that is met in the meantime comes before them.

A key without its own sign must end on the line on which it starts, within 1024 characters.

## Main definitions

* `Yaml.Scanner`: what is known at some place of the text
* `Yaml.TokenStream.ofText`
-/

namespace TagDoc.Yaml

/-- Something that is a key if a colon follows: the number of its token, whether nothing else can stand in its
place, and where it starts. -/
structure Candidate where
  token : Nat
  required : Bool
  start : Mark
  deriving Repr

/-- What is known at some place of a text: the tokens so far, how deep it is in flow collections, the column of
the innermost block collection and those of the ones around it, whether a key may start, and the candidates for
keys by depth. -/
structure Scanner where
  cursor : Cursor
  tokens : Array Token
  flowDepth : Nat
  indent : Int
  outer : List Int
  keyAllowed : Bool
  candidates : List (Nat × Candidate)
  ended : Bool

namespace Scanner

/-- The start of a text, after its mark of byte order if it has one. -/
def ofText (t : Text) : Scanner :=
  let c := Cursor.ofText t
  ⟨if c.head == '\uFEFF' then c.advance else c, #[], 0, -1, [], true, [], false⟩

/-- The longest text that is a key without a sign of its own. -/
def maxKeyLength : Nat := 1024

/-- The fault of something that must be a key and has no colon. -/
def noColon {α : Type} : Except Fault α := tokenFault "could not find expected ':'"

/-- Whether a candidate can no longer be a key. -/
def Candidate.isStale (here : Mark) (k : Candidate) : Bool :=
  k.start.line != here.line || maxKeyLength < here.index - k.start.index

/-- Drops the candidates that can no longer be keys. -/
def dropStale (s : Scanner) : Except Fault Scanner :=
  -- What must be a key may not be given up in silence.
  let (stale, live) := s.candidates.partition fun (_, k) => Candidate.isStale s.cursor.mark k
  if stale.any fun (_, k) => k.required then noColon else .ok { s with candidates := live }

/-- Drops the candidate at the present depth. -/
def dropCandidate (s : Scanner) : Except Fault Scanner :=
  match s.candidates.lookup s.flowDepth with
  | none => .ok s
  | some k =>
    if k.required then noColon
    else .ok { s with candidates := s.candidates.filter (·.1 != s.flowDepth) }

/-- Takes the next token for a candidate, if a key may start here. -/
def saveCandidate (s : Scanner) : Except Fault Scanner :=
  if s.keyAllowed then do
    let required := s.flowDepth = 0 ∧ s.indent = s.cursor.column
    let s ← s.dropCandidate
    pure { s with candidates := (s.flowDepth, ⟨s.tokens.size, required, s.cursor.mark⟩) :: s.candidates }
  else .ok s

/-- Adds a token that starts at a mark. -/
def push (s : Scanner) (start : Mark) (kind : TokenKind) : Scanner :=
  { s with tokens := s.tokens.push ⟨kind, start⟩ }

/-- Ends the block collections that are indented more than a column. -/
def closeBlocks (column : Int) (s : Scanner) : Scanner :=
  if s.flowDepth = 0 then go s s.outer else s
where
  /-- One collection after the other. -/
  go (s : Scanner) : List Int → Scanner
    | [] => s
    | o :: os =>
      if column < s.indent then go { s.push s.cursor.mark .blockEnd with indent := o, outer := os } os else s

/-- Opens a block collection at a column, if none is open there; `kind` goes in front of the token numbered
`at`. -/
def openBlock (column : Nat) (position : Nat) (start : Mark) (kind : TokenKind) (s : Scanner) : Scanner :=
  if s.indent < column then
    { s with
      outer := s.indent :: s.outer
      indent := column
      tokens := s.tokens.insertIdxIfInBounds position ⟨kind, start⟩ }
  else s

/-- Moves on by `n` characters that are a token of their own. -/
def take (n : Nat) (kind : TokenKind) (s : Scanner) : Scanner :=
  { s.push s.cursor.mark kind with cursor := s.cursor.skip n }

/-- Skips blanks, comments and line ends before the next token. After a line end a key may start, outside flow
collections. -/
def skipToToken : (fuel : Nat) → Scanner → Scanner
  | 0, s => s
  | fuel + 1, s =>
    let c := s.cursor.skipWhile (· == ' ')
    let c := if c.head == '#' then c.skipWhile (!isEnd ·) else c
    if isBreak c.head then
      skipToToken fuel { s with cursor := c.takeBreak.2, keyAllowed := s.keyAllowed || s.flowDepth == 0 }
    else { s with cursor := c }

/-! ### Directives, anchors and tags -/

/-- The characters of names. -/
def isNameChar (c : Char) : Bool := c.isAlphanum || c == '-' || c == '_'

/-- The characters of addresses, beside the escaped ones. -/
def isUriChar (c : Char) : Bool := c.isAlphanum || "-;/?:@&=+$,_.!~*'()[]".toList.contains c

/-- Reads a number of a version. -/
def scanVersionNumber (c : Cursor) : Except Fault (Nat × Cursor) :=
  let (digits, c) := c.takeWhile Char.isDigit
  if digits.isEmpty then tokenFault "expected a digit" else .ok (Text.readNat digits, c)

/-- Reads octets that are written as a percent sign and two hexadecimal digits each. -/
def scanUriOctets : (fuel : Nat) → Cursor → Except Fault (List UInt8 × Cursor)
  | 0, c => .ok ([], c)
  | fuel + 1, c =>
    if c.head == '%' then
      let digits := c.advance.rest.take 2
      if digits.length = 2 ∧ digits.all (Text.hexDigit? · |>.isSome) then do
        let (more, c) ← scanUriOctets fuel (c.skip 3)
        pure ((Text.readHex digits).toUInt8 :: more, c)
      else tokenFault "expected URI escape sequence of 2 hexadecimal numbers"
    else .ok ([], c)

/-- Reads the characters of an address. -/
def scanUriText : (fuel : Nat) → Cursor → Except Fault (Text × Cursor)
  | 0, c => .ok ([], c)
  | fuel + 1, c => do
    let (run, c) := c.takeWhile isUriChar
    if c.head == '%' then
      let (octets, c) ← scanUriOctets (c.rest.length + 1) c
      match Text.ofUtf8 octets with
      | .error _ => tokenFault "the octets of an escape are no text"
      | .ok t =>
        let (more, c) ← scanUriText fuel c
        pure (run ++ t ++ more, c)
    else pure (run, c)

/-- Reads an address, which is not empty. -/
def scanUri (c : Cursor) : Except Fault (Text × Cursor) := do
  let isThere := isUriChar c.head || c.head == '%'
  let (t, c) ← scanUriText (c.rest.length + 1) c
  if isThere then pure (t, c) else tokenFault "expected URI"

/-- Reads a handle: an exclamation mark, alone or with a name and another one behind it. -/
def scanHandle (c : Cursor) : Except Fault (Text × Cursor) :=
  if c.head != '!' then tokenFault "expected '!'"
  else if c.peek 1 == ' ' then .ok (['!'], c.advance)
  else
    let (name, after) := c.advance.takeWhile isNameChar
    if after.head == '!' then .ok ('!' :: name ++ ['!'], after.advance) else tokenFault "expected '!'"

/-- Reads a directive after its percent sign. -/
def scanDirective (c : Cursor) : Except Fault (Directive × Cursor) := do
  let (name, c) := c.takeWhile isNameChar
  if name.isEmpty then tokenFault "expected alphabetic or numeric character"
  else if !isSpaceOrEnd c.head then tokenFault "expected alphabetic or numeric character"
  else
    let (directive, c) ←
      if name = "YAML".toList then do
        let (major, c) ← scanVersionNumber (c.skipWhile (· == ' '))
        if c.head != '.' then tokenFault "expected a digit or '.'"
        let (minor, c) ← scanVersionNumber c.advance
        if !isSpaceOrEnd c.head then tokenFault "expected a digit or ' '"
        pure (Directive.version major minor, c)
      else if name = "TAG".toList then do
        let (handle, c) ← scanHandle (c.skipWhile (· == ' '))
        if c.head != ' ' then tokenFault "expected ' '"
        let (start, c) ← scanUri (c.skipWhile (· == ' '))
        if !isSpaceOrEnd c.head then tokenFault "expected ' '"
        pure (Directive.handle handle start, c)
      else pure (Directive.other, c.skipWhile (!isEnd ·))
    let c ← skipIgnoredLine c
    pure (directive, c)

/-- The characters that may follow an anchor or an alias. -/
def endsAnchor (c : Char) : Bool := isBlankOrEnd c || "?:,]\x7d%@\x60".toList.contains c

/-- Reads the name of an anchor or an alias after its sign. -/
def scanAnchor (c : Cursor) : Except Fault (Text × Cursor) :=
  let (name, c) := c.takeWhile isNameChar
  if name.isEmpty || !endsAnchor c.head then tokenFault "expected alphabetic or numeric character"
  else .ok (name, c)

/-- Reads a tag. -/
def scanTag (c : Cursor) : Except Fault (TagText × Cursor) := do
  let (tag, c) ←
    if c.peek 1 == '<' then do
      let (suffix, c) ← scanUri (c.skip 2)
      if c.head != '>' then tokenFault "expected '>'"
      pure (⟨none, suffix⟩, c.advance)
    else if isBlankOrEnd (c.peek 1) then pure (⟨none, ['!']⟩, c.advance)
    else do
      -- A handle is there if a second exclamation mark is.
      let word := c.advance.rest.takeWhile (!isSpaceOrEnd ·)
      let (handle, c) ← if word.contains '!' then scanHandle c else pure (['!'], c.advance)
      let (suffix, c) ← scanUri c
      pure (⟨some handle, suffix⟩, c)
  if isSpaceOrEnd c.head then pure (tag, c) else tokenFault "expected ' '"

/-! ### Single tokens -/

/-- Ends the text. -/
def fetchEnd (s : Scanner) : Except Fault Scanner := do
  let s ← (s.closeBlocks (-1)).dropCandidate
  pure { s.push s.cursor.mark .streamEnd with keyAllowed := false, candidates := [], ended := true }

/-- Reads a directive. -/
def fetchDirective (s : Scanner) : Except Fault Scanner := do
  let s ← (s.closeBlocks (-1)).dropCandidate
  let (directive, c) ← scanDirective s.cursor.advance
  pure { s.push s.cursor.mark (.directive directive) with keyAllowed := false, cursor := c }

/-- Reads the line that starts or ends a document. -/
def fetchDocumentMark (kind : TokenKind) (s : Scanner) : Except Fault Scanner := do
  let s ← (s.closeBlocks (-1)).dropCandidate
  pure { s.take 3 kind with keyAllowed := false }

/-- Opens a flow collection. -/
def fetchFlowStart (kind : TokenKind) (s : Scanner) : Except Fault Scanner := do
  let s ← s.saveCandidate
  pure { s.take 1 kind with flowDepth := s.flowDepth + 1, keyAllowed := true }

/-- Closes a flow collection. -/
def fetchFlowEnd (kind : TokenKind) (s : Scanner) : Except Fault Scanner := do
  let s ← s.dropCandidate
  pure { s.take 1 kind with flowDepth := s.flowDepth - 1, keyAllowed := false }

/-- Goes on to the next item of a flow collection. -/
def fetchFlowEntry (s : Scanner) : Except Fault Scanner := do
  let s ← s.dropCandidate
  pure { s.take 1 .flowEntry with keyAllowed := true }

/-- Starts an item of a block sequence. -/
def fetchBlockEntry (s : Scanner) : Except Fault Scanner := do
  if s.flowDepth = 0 ∧ !s.keyAllowed then tokenFault "sequence entries are not allowed here"
  let s := if s.flowDepth = 0 then
      s.openBlock s.cursor.column s.tokens.size s.cursor.mark .blockSequenceStart
    else s
  let s ← s.dropCandidate
  pure { s.take 1 .blockEntry with keyAllowed := true }

/-- Starts a key that has its sign. -/
def fetchKey (s : Scanner) : Except Fault Scanner := do
  if s.flowDepth = 0 ∧ !s.keyAllowed then tokenFault "mapping keys are not allowed here"
  let s := if s.flowDepth = 0 then
      s.openBlock s.cursor.column s.tokens.size s.cursor.mark .blockMappingStart
    else s
  let s ← s.dropCandidate
  pure { s.take 1 .key with keyAllowed := s.flowDepth == 0 }

/-- Starts a value. The candidate before it, if there is one, is its key. -/
def fetchValue (s : Scanner) : Except Fault Scanner := do
  match s.candidates.lookup s.flowDepth with
  | some k =>
    -- The sign goes in front of the token that turns out to be the key.
    let s := { s with
      candidates := s.candidates.filter (·.1 != s.flowDepth)
      tokens := s.tokens.insertIdxIfInBounds k.token ⟨.key, k.start⟩ }
    let s := if s.flowDepth = 0 then s.openBlock k.start.column k.token k.start .blockMappingStart else s
    pure { s.take 1 .value with keyAllowed := false }
  | none =>
    if s.flowDepth = 0 ∧ !s.keyAllowed then tokenFault "mapping values are not allowed here"
    let s := if s.flowDepth = 0 then
        s.openBlock s.cursor.column s.tokens.size s.cursor.mark .blockMappingStart
      else s
    pure { s.take 1 .value with keyAllowed := s.flowDepth == 0 }

/-- Reads an alias or an anchor. -/
def fetchAnchor (kind : Text → TokenKind) (s : Scanner) : Except Fault Scanner := do
  let s ← s.saveCandidate
  let (name, c) ← scanAnchor s.cursor.advance
  pure { s.push s.cursor.mark (kind name) with keyAllowed := false, cursor := c }

/-- Reads a tag. -/
def fetchTag (s : Scanner) : Except Fault Scanner := do
  let s ← s.saveCandidate
  let (tag, c) ← scanTag s.cursor
  pure { s.push s.cursor.mark (.tag tag) with keyAllowed := false, cursor := c }

/-- Reads a literal or folded block. -/
def fetchBlock (folded : Bool) (s : Scanner) : Except Fault Scanner := do
  let s ← s.dropCandidate
  let (content, c) ← scanBlock folded s.indent s.cursor
  pure { s.push s.cursor.mark (.scalar false (points content)) with keyAllowed := true, cursor := c }

/-- Reads a scalar between quotes. -/
def fetchQuoted (s : Scanner) : Except Fault Scanner := do
  let s ← s.saveCandidate
  let (content, c) ← scanQuoted s.cursor
  pure { s.push s.cursor.mark (.scalar false content) with keyAllowed := false, cursor := c }

/-- Reads a plain scalar. -/
def fetchPlain (s : Scanner) : Except Fault Scanner := do
  let s ← s.saveCandidate
  let (content, lineEnded, c) := scanPlain (s.flowDepth != 0) (s.indent + 1).toNat s.cursor
  pure { s.push s.cursor.mark (.scalar true (points content)) with keyAllowed := lineEnded, cursor := c }

/-- Whether a plain scalar can start at the cursor. -/
def startsPlain (s : Scanner) : Bool :=
  let d := s.cursor.head
  let next := s.cursor.peek 1
  !(isBlankOrEnd d || "-?:,[]\x7b\x7d#&*!|>'\"%@\x60".toList.contains d) ||
    (!isBlankOrEnd next && (d == '-' || (s.flowDepth == 0 && (d == '?' || d == ':'))))

/-- Reads the next token, and those that come with it. -/
def fetch (s : Scanner) : Except Fault Scanner := do
  let s ← (s.skipToToken (s.cursor.rest.length + 1)).dropStale
  let s := s.closeBlocks s.cursor.column
  let d := s.cursor.head
  let standsAlone := isBlankOrEnd (s.cursor.peek 1)
  let atLineStart := s.cursor.column == 0
  if d == endChar then s.fetchEnd
  else if d == '%' && atLineStart then s.fetchDirective
  else if atLineStart && s.cursor.atSeparator '-' then s.fetchDocumentMark .documentStart
  else if atLineStart && s.cursor.atSeparator '.' then s.fetchDocumentMark .documentEnd
  else if d == '[' then s.fetchFlowStart .flowSequenceStart
  else if d == '\x7b' then s.fetchFlowStart .flowMappingStart
  else if d == ']' then s.fetchFlowEnd .flowSequenceEnd
  else if d == '\x7d' then s.fetchFlowEnd .flowMappingEnd
  else if d == ',' then s.fetchFlowEntry
  else if d == '-' && standsAlone then s.fetchBlockEntry
  else if d == '?' && (s.flowDepth != 0 || standsAlone) then s.fetchKey
  else if d == ':' && (s.flowDepth != 0 || standsAlone) then s.fetchValue
  else if d == '*' then s.fetchAnchor .alias
  else if d == '&' then s.fetchAnchor .anchor
  else if d == '!' then s.fetchTag
  else if d == '|' && s.flowDepth == 0 then s.fetchBlock false
  else if d == '>' && s.flowDepth == 0 then s.fetchBlock true
  else if d == '\x27' || d == '\x22' then s.fetchQuoted
  else if s.startsPlain then s.fetchPlain
  else tokenFault "found a character that cannot start any token"

/-- The tokens that are settled when a fault is met: those before the first candidate. -/
def settled (s : Scanner) : List Token :=
  match (s.candidates.map (·.2.token)).min? with
  | some n => s.tokens.toList.take n
  | none => s.tokens.toList

/-- Reads tokens to the end of the text or to a fault. What must be a key and ends on another line than it starts on is
a fault at once, whatever follows. -/
def run : (fuel : Nat) → Scanner → TokenStream
  | 0, s => ⟨s.tokens.toList, none⟩
  | fuel + 1, s =>
    if s.ended then ⟨s.tokens.toList, none⟩
    else
      match s.fetch >>= dropStale with
      | .ok s => run fuel s
      | .error fault => ⟨s.settled, some fault⟩

end Scanner

/-- The tokens of a text. Every step but the last takes a character at least. -/
def TokenStream.ofText (t : Text) : TokenStream :=
  Scanner.run (t.length + 2) (.ofText t)

end TagDoc.Yaml

import TagDoc.Markdown.BareLink
import TagDoc.Markdown.Dialect
import TagDoc.Markdown.HtmlTag
import TagDoc.Markdown.Inline

/-!
# Typography

What is done to the pieces of a text once they are read: addresses in plain text become links, some ways to write signs
in ASCII become these signs, and quotation marks become curly ones.

## Main definitions

* `linkAddresses`: addresses in plain text become links
* `setSigns`: signs in place of their ASCII forms
* `setQuotes`: curly quotation marks
-/

namespace TagDoc.Markdown

open Text

/-- The pieces of a text in which addresses are links; `start` is where the text goes on after the last one. -/
def splitAddresses (t : Source) (start : Nat) : List BareLink → List Piece
  | [] => if start < t.size then [.text (t.slice start t.size)] else []
  | l :: links =>
    let written := t.slice l.start l.stop
    match allowed? (l.address written) with
    | none => splitAddresses t start links
    | some address =>
      let shown :=
        if l.scheme.isEmpty then (Address.shown ("http://".toList ++ written)).drop 7 else Address.shown written
      let link := Extent.link ⟨address, []⟩ true
      (if start < l.start then [.text (t.slice start l.start)] else []) ++
        [.opens link, .text shown, .closes link] ++ splitAddresses t l.stop links

/-- The pieces for a plain text with addresses. After an escape, an address does not start. -/
def addressPieces (t : Text) (afterLiteral : Bool) : List Piece :=
  let source := t.toArray
  let links := BareLink.all source (source.size + 1) 0
  if links.isEmpty then [.text t]
  else splitAddresses source 0 (if afterLiteral && links.head?.any (·.start == 0) then links.drop 1 else links)

/-- Turns addresses into links, from the last piece to the first; `done` are the pieces behind those left. Within a link no
address becomes another, be it a link of HTML, of which `html` are open. -/
def linkAddressesFrom (html : Nat) (within : Bool) (done : List Piece) : List Piece → List Piece
  | [] => done
  | .closes (.link target found) :: ps => linkAddressesFrom html true (.closes (.link target found) :: done) ps
  | .opens (.link target found) :: ps => linkAddressesFrom html false (.opens (.link target found) :: done) ps
  | .html t :: ps =>
    let html := if within then html
      else (if HtmlTag.opensLink t then html - 1 else html) + (if HtmlTag.closesLink t then 1 else 0)
    linkAddressesFrom html within (.html t :: done) ps
  | .text t :: ps =>
    let afterLiteral := match ps with
      | .literal _ :: _ => true
      | _ => false
    let here := if within || 0 < html then [.text t] else addressPieces t afterLiteral
    linkAddressesFrom html within (here ++ done) ps
  | p :: ps => linkAddressesFrom html within (p :: done) ps

/-- Addresses in plain text become links, if it looks as though the text `t`, of which the pieces are, held any. -/
def linkAddresses (t : Text) (ps : List Piece) : List Piece :=
  if BareLink.mayHold t.toArray then linkAddressesFrom 0 false [] ps.reverse else ps

/-- Letters in parentheses become the signs for a copyright, a registered mark and a trade mark. -/
def setLetters (t : Text) : Text :=
  match t with
  | '(' :: c :: ')' :: rest =>
    if c.toLower == 'c' then '©' :: setLetters rest
    else if c.toLower == 'r' then '®' :: setLetters rest
    else '(' :: setLetters (c :: ')' :: rest)
  | '(' :: a :: b :: ')' :: rest =>
    if a.toLower == 't' && b.toLower == 'm' then '™' :: setLetters rest
    else '(' :: setLetters (a :: b :: ')' :: rest)
  | c :: rest => c :: setLetters rest
  | [] => []

/-- Whether a text holds a form that typography improves. -/
def isRare (t : Text) : Bool :=
  match t with
  | [] => false
  | _ :: rest =>
    (["+-", "..", "????", "!!!!", ",,", "--"].any fun form => startsWith form.toList t) || isRare rest

/-- A plus and a minus become one sign. -/
def setPlusMinus : Text → Text
  | '+' :: '-' :: t => '±' :: setPlusMinus t
  | c :: t => c :: setPlusMinus t
  | [] => []

/-- Question marks and exclamation marks. -/
def isShout (c : Char) : Bool := c == '?' || c == '!'

/-- After a question mark or an exclamation mark, an ellipsis is two dots. -/
def setShoutedDots : Text → Text
  | c :: d :: t => if isShout c && d == '…' then c :: '.' :: '.' :: setShoutedDots t else c :: setShoutedDots (d :: t)
  | t => t

/-- Two dots or more are an ellipsis. -/
def setDots (run : Text) : Text :=
  match run with
  | '.' :: '.' :: _ => ['…']
  | _ => run

/-- Two commas or more are one. -/
def setCommas (run : Text) : Text :=
  match run with
  | ',' :: ',' :: _ => [',']
  | _ => run

/-- Four or more question and exclamation marks are three of the last. -/
def setShouts (run : Text) : Text :=
  if 4 ≤ run.length && run.all isShout then (run.getLast?.toList.flatMap fun c => [c, c, c]) else run

/-- Dashes in place of hyphens: a long one for three, and one of middle length for two, if there is white space on both
sides or on none. -/
def setDashes (before : Option Char) : List Text → Text
  | [] => []
  | run :: runs =>
    let after := (runs.head?.bind List.head?)
    let spaced := before.all isSpace && after.all isSpace
    let joined := before.all (fun c => !isSpace c) && after.all (fun c => !isSpace c)
    let here :=
      if run == "---".toList then ['—'] else if run == "--".toList && (spaced || joined) then ['–'] else run
    here ++ setDashes run.getLast? runs

/-- A text with all rare forms improved. -/
def setRare (t : Text) : Text :=
  let t := setShoutedDots (((setPlusMinus t).splitBy (· == ·)).flatMap setDots)
  let t := (t.splitBy fun a b => isShout a && isShout b).flatMap setShouts
  let t := (t.splitBy (· == ·)).flatMap setCommas
  setDashes none (t.splitBy (· == ·))

/-- Signs in place of their ASCII forms, save in links that were found in plain text. -/
def setSigns (within : Bool) : List Piece → List Piece
  | [] => []
  | .opens (.link target true) :: ps => .opens (.link target true) :: setSigns true ps
  | .closes (.link target true) :: ps => .closes (.link target true) :: setSigns false ps
  | .text t :: ps =>
    let set := if within then t else
      let t := setLetters t
      if isRare t then setRare t else t
    .text set :: setSigns within ps
  | p :: ps => p :: setSigns within ps

/-- A quotation mark that waits for the one that closes it: the piece it is in, its position there, whether it is a single
one, and how many extents it is in. -/
structure Quote where
  place : Nat
  pos : Nat
  single : Bool
  level : Nat

/-- The character before a piece, which is a space at the start of a line. -/
def charBefore (pieces : Array Piece) : (place : Nat) → Char
  | 0 => ' '
  | place + 1 =>
    match pieces[place]? with
    | none => ' '
    | some p => if p.isBreak then ' ' else (p.contents.getLast?).getD (charBefore pieces place)

/-- The character after a row of pieces starts, which is a space at the end of a line. -/
def charAfter : List Piece → Char
  | [] => ' '
  | p :: ps => if p.isBreak then ' ' else p.contents.head?.getD (charAfter ps)

/-- A text with one character replaced. -/
def replaceChar (t : Text) (pos : Nat) (by_ : Text) : Text := t.take pos ++ by_ ++ t.drop (pos + 1)

/-- Pieces with one character of the text of a piece replaced. -/
def replaceIn (pieces : Array Piece) (place pos : Nat) (by_ : Text) : Array Piece :=
  match pieces[place]? with
  | some (.text t) => pieces.setIfInBounds place (.text (replaceChar t pos by_))
  | _ => pieces

/-- Whether a quotation mark between two characters can open and close; `inch` tells of a double one after which another
follows. -/
def quoteSides (before after : Char) (inch : Bool) : Bool × Bool :=
  let opens := !(isGap after || (isMark after && !(isGap before || isMark before)))
  let closes := !(isGap before || (isMark before && !(isGap after || isMark after)))
  let (opens, closes) := if inch && before.isDigit then (false, false) else (opens, closes)
  if opens && closes then (isMark before, isMark after) else (opens, closes)

/-- The quotation mark that a closing one goes with, among those that wait, the last of which is the first here; and those
before it. -/
def findQuote? (single : Bool) (level : Nat) : List Quote → Option (Quote × List Quote)
  | [] => none
  | q :: waiting =>
    if q.level < level then none
    else if q.single == single && q.level == level then some (q, waiting)
    else findQuote? single level waiting

/-- Sets the quotation marks in the text of a piece from a position on. -/
def setQuotesIn (d : Dialect) (place level : Nat) (later : List Piece) :
    (fuel pos : Nat) → Array Piece × List Quote → Except OptionFault (Array Piece × List Quote)
  | 0, _, st => .ok st
  | fuel + 1, pos, (pieces, waiting) =>
    match pieces[place]? with
    | some (.text t) =>
      let skipped := (t.drop pos).takeWhile fun c => c != '\x22' && c != '\x27'
      let pos := pos + skipped.length
      match t.drop pos with
      | [] => .ok (pieces, waiting)
      | c :: rest =>
        let single := c == '\x27'
        let before := if pos = 0 then charBefore pieces place else t[pos - 1]?.getD ' '
        let after := rest.head?.getD (charAfter later)
        let (opens, closes) := quoteSides before after (!single && after == '\x22')
        match if closes then findQuote? single level waiting else none with
        | some (q, left) => do
          let quotes ← d.quotes single
          -- What opens stands before this place, and moves it if it is in the same piece.
          let shift := if q.place = place then quotes.opener.length else 1
          setQuotesIn d place level later fuel (pos + quotes.closer.length + shift - 1)
            (replaceIn (replaceIn pieces place pos quotes.closer) q.place q.pos quotes.opener, left)
        | none =>
          let st :=
            if opens then (pieces, ⟨place, pos, single, level⟩ :: waiting)
            else if single then (replaceIn pieces place pos ['’'], waiting)
            else (pieces, waiting)
          setQuotesIn d place level later fuel (pos + 1) st
    | _ => .ok (pieces, waiting)

/-- Sets the quotation marks in pieces from a place on, within `level` extents. -/
def setQuotesFrom (d : Dialect) (place level : Nat) (st : Array Piece × List Quote) :
    List Piece → Except OptionFault (Array Piece)
  | [] => .ok st.1
  | p :: later => do
    let level := match p with
      | .closes _ => level - 1
      | _ => level
    let waiting := st.2.dropWhile fun q => level < q.level
    let st ← match p with
      | .text t => setQuotesIn d place level later (t.length + 1) 0 (st.1, waiting)
      | _ => pure (st.1, waiting)
    let level := match p with
      | .opens _ => level + 1
      | _ => level
    setQuotesFrom d (place + 1) level st later

/-- Curly quotation marks in place of straight ones. -/
def setQuotes (d : Dialect) (ps : List Piece) : Except OptionFault (List Piece) :=
  (setQuotesFrom d 0 0 (ps.toArray, []) ps).map Array.toList

/-- The pieces of the text `t` as the dialect has them typeset. -/
def typeset (d : Dialect) (t : Text) (ps : List Piece) : Except OptionFault (List Piece) :=
  let ps := if d.findsLinks && d.linkify then linkAddresses t ps else ps
  if d.setsType && d.typographer then setQuotes d (setSigns false ps) else .ok ps

end TagDoc.Markdown

import TagDoc.Markdown.Address
import TagDoc.Markdown.Source
import TagDoc.Text.CaseKey
import TagDoc.Text.Slug

/-!
# The syntax of links

A link leads to an address and can have a title. Both are written behind the text of the link, or once for all
links in a definition under a label.

## Main definitions

* `Target`: where a link leads
* `destination?`, `title?`: an address and a title at a position
* `labelKey`: what labels are compared by
* `Definition.read?`: a definition at the start of a paragraph
-/

namespace TagDoc.Markdown

open Text

/-- Where a link leads: an address, and a title if that is not empty. -/
structure Target where
  address : Text
  title : Text
  deriving DecidableEq, Repr, Inhabited

/-- The end of an address in angle brackets, and the position of its closing bracket. -/
def bracketEnd? (s : Source) (stop : Nat) : (fuel pos : Nat) → Option Nat
  | 0, _ => none
  | fuel + 1, pos =>
    if stop ≤ pos then none
    else match s[pos]? with
      | none | some '\n' | some '<' => none
      | some '>' => some pos
      | some '\\' => bracketEnd? s stop fuel (if pos + 1 < stop then pos + 2 else pos + 1)
      | some _ => bracketEnd? s stop fuel (pos + 1)

/-- The end of an address without brackets, which lies before white space or before a closing parenthesis that has no
opening one. `depth` counts the open parentheses, of which there are at most 32. -/
def bareEnd? (s : Source) (stop : Nat) : (fuel depth pos : Nat) → Option Nat
  | 0, _, _ => none
  | fuel + 1, depth, pos =>
    let finish := if depth = 0 then some pos else none
    if stop ≤ pos then finish
    else match s[pos]? with
      | none => finish
      | some '\\' =>
        if pos + 1 < stop then
          if s[pos + 1]? == some ' ' then finish else bareEnd? s stop fuel depth (pos + 2)
        else bareEnd? s stop fuel depth (pos + 1)
      | some '(' => if depth < 32 then bareEnd? s stop fuel (depth + 1) (pos + 1) else none
      | some ')' => if depth = 0 then some pos else bareEnd? s stop fuel (depth - 1) (pos + 1)
      | some c => if c.toNat ≤ 0x20 || c.toNat == 0x7F then finish else bareEnd? s stop fuel depth (pos + 1)

/-- The address at a position, unescaped, and the position after it. -/
def destination? (s : Source) (stop pos : Nat) : Option (Text × Nat) :=
  if s[pos]? == some '<' then
    (bracketEnd? s stop (s.size + 1) (pos + 1)).map fun last => (unescape (s.slice (pos + 1) last), last + 1)
  else
    (bareEnd? s stop (s.size + 1) 0 pos).bind fun last =>
      if last = pos then none else some (unescape (s.slice pos last), last)

/-- The position at which a title ends: that of the mark that closes it, or of an opening parenthesis in a title that
stands in parentheses, or `stop`. -/
def titleStop (s : Source) (stop : Nat) (closer : Char) : (fuel pos : Nat) → Nat
  | 0, _ => stop
  | fuel + 1, pos =>
    if stop ≤ pos then stop
    else match s[pos]? with
      | none => stop
      | some c =>
        if c == closer || (c == '(' && closer == ')') then pos
        else titleStop s stop closer fuel (if c == '\\' && pos + 1 < stop then pos + 2 else pos + 1)

/-- The mark that closes a title, by the one that opens it. -/
def titleCloser? (opener : Char) : Option Char :=
  if opener == '\x22' || opener == '\x27' then some opener else if opener == '(' then some ')' else none

/-- The title at a position, unescaped, and the position after it. -/
def title? (s : Source) (stop pos : Nat) : Option (Text × Nat) := do
  if stop ≤ pos then none
  let closer ← titleCloser? (← s[pos]?)
  let last := titleStop s stop closer (s.size + 1) (pos + 1)
  if last < stop && s[last]? == some closer then return (unescape (s.slice (pos + 1) last), last + 1) else none

/-- An address that may stand in a link, as it stands there. -/
def allowed? (address : Text) : Option Text :=
  let a := Address.normal address
  if Address.isAllowed a then some a else none

/-- What labels are compared by: case and the amount of white space do not count. -/
def labelKey (label : Text) : Text := caseKey (replaceRuns isSpace ' ' (strip label))

/-- The definition of a label. -/
structure Definition where
  label : Text
  target : Target
  deriving DecidableEq, Repr, Inhabited

namespace Definition

/-- White space, line breaks included. -/
def isFiller (c : Char) : Bool := isBlank c || c == '\n'

/-- The position at which a label ends: that of a bracket, or the end of the text. -/
def labelStop (s : Source) : (fuel pos : Nat) → Nat
  | 0, _ => s.size
  | fuel + 1, pos =>
    match s[pos]? with
    | none => s.size
    | some '[' | some ']' => pos
    | some '\\' => labelStop s fuel (pos + 2)
    | some _ => labelStop s fuel (pos + 1)

/-- The position after the line break of the line at a position. -/
def lineStop (s : Source) (pos : Nat) : Nat := min s.size (s.skip (· != '\n') s.size pos + 1)

/-- Whether nothing but white space stands between a position and the end of its line. -/
def endsLine (s : Source) (pos : Nat) : Bool :=
  let pos := s.skip isBlank s.size pos
  s.size ≤ pos || s[pos]? == some '\n'

/-- The title of a definition whose address ends at `stop`, and the position after it. A title that something
follows on its line is no title, and then the address ends its line; an empty title has to end its line. White space
stands before a title, unless this goes over more than one line. -/
def ending? (s : Source) (stop : Nat) : Option (Text × Nat) :=
  let untitled := if endsLine s stop then some ([], stop) else none
  let pos := s.skip isFiller s.size stop
  match title? s s.size pos with
  | none => untitled
  | some (title, last) =>
    if pos = stop ∧ last ≤ lineStop s pos then untitled
    else if endsLine s last then some (title, last)
    else if title.isEmpty then none
    else untitled

/-- The position of the bracket that closes the label at the start; a colon follows it. -/
def labelEnd? (s : Source) : Option Nat :=
  let close := labelStop s s.size 1
  if s[close]? == some ']' && s[close + 1]? == some ':' then some close else none

/-- The position of the address behind a label. -/
def addressStart (s : Source) (close : Nat) : Nat := s.skip isFiller s.size (close + 2)

/-- The address at a position, and the position after it. An address does not go over the end of its line, though it
can reach it. -/
def address? (s : Source) (start : Nat) : Option (Text × Nat) := do
  let (address, stop) ← destination? s (lineStop s start) start
  return (← allowed? address, stop)

/-- The definition that a paragraph starts with, and a position in its last line. -/
def read? (s : Source) : Option (Definition × Nat) := do
  if s[0]? != some '[' then none
  let close ← labelEnd? s
  let start := addressStart s close
  let (address, stop) ← address? s start
  let (title, last) ← if stop = lineStop s start then some ([], start) else ending? s stop
  let label := labelKey (s.slice 1 close)
  if label.isEmpty then none else return (⟨label, ⟨address, title⟩⟩, last)

/-- The position up to which a paragraph has to be looked at to tell if it starts with a definition. -/
def reach (s : Source) : Nat :=
  match labelEnd? s with
  | none => labelStop s s.size 1
  | some close =>
    let start := addressStart s close
    match address? s start with
    | none => start
    | some (_, stop) =>
      if stop = lineStop s start then start
      else
        let pos := s.skip isFiller s.size stop
        match s[pos]?.bind titleCloser? with
        | some closer => titleStop s s.size closer (s.size + 1) (pos + 1)
        | none => pos

end Definition

/-- Where labels lead; of two definitions of a label the first counts. -/
abbrev References := List Definition

/-- Where a label leads. -/
def References.find? (refs : References) (label : Text) : Option Target :=
  let key := labelKey label
  (List.find? (fun d : Definition => d.label == key) refs).map (·.target)

end TagDoc.Markdown

import TagDoc.Markdown.Source
import TagDoc.Text.Digit
import TagDoc.Text.Lower

/-!
# Bare links

Addresses that stand in plain text without any mark: with a scheme, as the name of a host under a known top-level
domain, or as the address of a mailbox. Case does not count in the parts that are known.

Of several addresses in a text the first counts. Addresses without a scheme are only looked for in a text that holds
something like the end of a host.

## Main definitions

* `BareLink.atStart?`: the address with a scheme that a text begins with
* `BareLink.first?`: the first address in a text
* `BareLink.mayHold`: whether it is worth while to look for addresses in a text
-/

namespace TagDoc.Markdown

open Text

/-- An address found in a text: where it starts and ends, and its scheme, which is empty if it has none. -/
structure BareLink where
  start : Nat
  stop : Nat
  scheme : Text
  deriving Repr

namespace BareLink

/-- Characters that no address holds. -/
def isDivider (c : Char) : Bool := c == '<' || c == '>' || c == '｜'

/-- Controls and the spaces of Unicode. -/
def isVoid (c : Char) : Bool :=
  let n := c.toNat
  n ≤ 0x20 || (0x7F ≤ n && n ≤ 0xA0) || n == 0x1680 || (0x2000 ≤ n && n ≤ 0x200A) || n == 0x2028 || n == 0x2029 ||
    n == 0x202F || n == 0x205F || n == 0x3000

/-- Whether a character is in the first plane of Unicode. Those of other planes are neither letters nor marks here. -/
def isBasic (c : Char) : Bool := c.toNat < 0x10000

/-- Controls, spaces and punctuation. -/
def isBoundary (c : Char) : Bool := isVoid c || (isBasic c && isPunctuation c)

/-- Letters of the label of a host: all but boundaries and dividers. -/
def isLabelLetter (c : Char) : Bool := isBasic c && !isDivider c && !isBoundary c

/-- Whether a position is the end of a text, or holds a character of `p`. -/
def ends (p : Char → Bool) (s : Source) (pos : Nat) : Bool := s[pos]?.all p

/-- Letters, digits and hyphens of ASCII. -/
def isCodeLetter (c : Char) : Bool := isPlainAlphanum c || c == '-'

/-- Whether a label is in the notation for labels of other scripts. -/
def isCoded (label : Text) : Bool :=
  let code := label.drop 4
  plainLetters (label.take 4) == "xn--".toList && !code.isEmpty && code.length ≤ 59 && code.all isCodeLetter

/-- The position after a label: at most 63 letters and hyphens, with a letter at both ends. -/
def label? (s : Source) (pos : Nat) : Option Nat :=
  let stop := s.skip (fun c => isLabelLetter c || c == '-') s.size pos
  let isPlain := s.has isLabelLetter pos && s.has isLabelLetter (stop - 1) && stop - pos ≤ 63
  if isPlain || isCoded (s.slice pos stop) then some stop else none

/-- The labels of a host, each with its position, and the position after them. -/
def labels? (s : Source) : (fuel pos : Nat) → Option (List Nat × Nat)
  | 0, _ => none
  | fuel + 1, pos => do
    let stop ← label? s pos
    if s[stop]? == some '.' && s.has isLabelLetter (stop + 1) then
      let (more, stop) ← labels? s fuel (stop + 1)
      return (pos :: more, stop)
    else return ([pos], stop)

/-- Whether a host can end at a position. -/
def endsHost (s : Source) (pos : Nat) : Bool :=
  ends (fun c => isDivider c || isBoundary c) s pos &&
    match s[pos]? with
    | some '-' | some '_' => false
    | some ':' => !s.has isDecimal (pos + 1)
    | some '.' => ends isBoundary s (pos + 1) && s[pos + 1]? != some '-'
    | _ => true

/-- Whether digits are those of a port. Of five digits the ones that tell whether the number is too large are those of
ASCII. -/
def isPort (digits : Text) : Bool :=
  match digits with
  | [a, b, c, d, e] =>
    ('1' ≤ a && a ≤ '5') ||
      (a == '6' && (('0' ≤ b && b ≤ '4') ||
        (b == '5' && (('0' ≤ c && c ≤ '4') ||
          (c == '5' && (('0' ≤ d && d ≤ '2') || (d == '3' && '0' ≤ e && e ≤ '5')))))))
  | _ => !digits.isEmpty && digits.length ≤ 4

/-- The position after a port. -/
def skipPort (s : Source) (pos : Nat) : Nat :=
  let stop := s.skip isDecimal s.size (pos + 1)
  if s[pos]? == some ':' && isPort (s.slice (pos + 1) stop) then stop else pos

/-- The position after a bracketed part of a path. -/
def bracketed? (closer : Char) (s : Source) (pos : Nat) : Option Nat :=
  let stop := s.skip (fun c => !isVoid c && c != closer) s.size (pos + 1)
  if s[stop]? == some closer then some (stop + 1) else none

/-- The position after a quoted part of a path, which is not empty. -/
def quoted? (quote : Char) (s : Source) (pos : Nat) : Option Nat :=
  (bracketed? quote s pos).bind fun stop => if pos + 2 < stop then some stop else none

/-- The position after a mark that is not the last of a path. -/
def inner? (c : Char) (s : Source) (pos : Nat) : Option Nat :=
  if ends isVoid s pos || s[pos]? == some c then none else some pos

/-- The position after the next part of a path. -/
def pathPart? (s : Source) (pos : Nat) : Option Nat :=
  match s[pos]? with
  | none => none
  | some '[' => bracketed? ']' s pos
  | some '(' => bracketed? ')' s pos
  | some '\x7b' => bracketed? '\x7d' s pos
  | some '\x22' => quoted? '\x22' s pos
  | some '\x27' => quoted? '\x27' s pos <|>
      if s.has (fun c => isLabelLetter c || c == '-') (pos + 1) then some (pos + 1) else none
  | some '.' =>
    let stop := s.skip (· == '.') s.size pos
    if pos + 2 ≤ stop then
      if s.has (fun c => isPlainAlphanum c || c == '%' || c == '/' || c == '&') stop then some (stop + 1) else none
    else inner? '.' s stop
  | some '-' => some (s.skip (· == '-') s.size pos)
  | some ',' => if ends isVoid s (pos + 1) then none else some (pos + 1)
  | some ';' => if ends isVoid s (pos + 1) then none else some (pos + 1)
  | some '!' => inner? '!' s (s.skip (· == '!') s.size pos)
  | some '?' => inner? '?' s (pos + 1)
  | some c => if isVoid c || isDivider c || c == ')' || c == ']' || c == '\x7d' then none else some (pos + 1)

/-- The position after the parts of a path. -/
def pathParts (s : Source) : (fuel pos : Nat) → Nat
  | 0, pos => pos
  | fuel + 1, pos =>
    match pathPart? s pos with
    | some next => pathParts s fuel next
    | none => pos

/-- The position after a path, a query or a fragment. -/
def skipPath (s : Source) (pos : Nat) : Nat :=
  if s.has (fun c => c == '/' || c == '?' || c == '#') pos then
    let stop := pathParts s s.size (pos + 1)
    if stop = pos + 1 && s[pos]? != some '/' then pos else stop
  else pos

/-- The position after the port and the path of a host that ends here. -/
def afterHost? (s : Source) (pos : Nat) : Option Nat :=
  let pos := skipPort s pos
  if endsHost s pos then some (skipPath s pos) else none

/-- The position after a user and an at sign. The user has at most fifty characters. -/
def user? (s : Source) (pos : Nat) : Option Nat :=
  let stop := s.skip (fun c => !isVoid c && !(c ∈ "@/[]()".toList)) s.size pos
  if pos < stop && stop - pos ≤ 50 && s[stop]? == some '@' then some (stop + 1) else none

/-- The position after a host with port and path. -/
def host? (s : Source) (pos : Nat) : Option Nat := do
  let (_, stop) ← labels? s s.size pos
  afterHost? s stop

/-- The position after a host of more than one label, or the local host, with port and path. The last label has no
hyphen, unless it is in the notation for other scripts. -/
def publicHost? (s : Source) (pos : Nat) : Option Nat := do
  let (places, stop) ← labels? s s.size pos
  let isRoot := places.getLast?.all fun place => let last := s.slice place stop; isCoded last || !('-' ∈ last)
  if (2 ≤ places.length && isRoot) || plainLetters (s.slice pos stop) == "localhost".toList then afterHost? s stop
  else none

/-- The position after what `f` finds, with or without a user before it. -/
def withUser? (f : Source → Nat → Option Nat) (s : Source) (pos : Nat) : Option Nat :=
  (user? s pos).bind (f s) <|> f s pos

/-- The position after the name of a mailbox, which has at most 64 characters, and an at sign. -/
def mailbox? (s : Source) (pos : Nat) : Option Nat :=
  let stop := s.skip (fun c => isPlainAlphanum c || c ∈ "-;:&=+$,.\x22_".toList) s.size pos
  if pos < stop && stop - pos ≤ 64 && s[pos]? != some '\x22' && s[stop]? == some '@' then some (stop + 1) else none

/-- The position after a host without port or path. -/
def mailHost? (s : Source) (pos : Nat) : Option Nat := do
  let (_, stop) ← labels? s s.size pos
  if endsHost s stop then some stop else none

/-- The schemes that are known. -/
def schemes : List Text := ["http:", "https:", "ftp:", "//", "mailto:"].map String.toList

/-- The scheme at a position. -/
def scheme? (s : Source) (pos : Nat) : Option Text :=
  schemes.find? fun scheme => plainLetters (s.slice pos (pos + scheme.length)) == scheme

/-- The position after an address of a scheme, whose rest starts at a position. There is none if the scheme is not
written in letters of ASCII. -/
def rest? (scheme : Text) (s : Source) (pos : Nat) : Option Nat :=
  if toLower (s.slice (pos - scheme.length) pos) != scheme then none
  else if scheme == "mailto:".toList then (mailbox? s pos).bind (mailHost? s)
  else if scheme == "//".toList then
    if 3 ≤ pos && s.has (fun c => c == ':' || c == '/') (pos - 3) then none else withUser? publicHost? s pos
  else if s.holds pos "//".toList then withUser? host? s (pos + 2)
  else none

/-- Whether a scheme can follow a character. -/
def precedesScheme (c : Char) : Bool := c != '_' && (isDivider c || isBoundary c)

/-- The address with a scheme at a position. -/
def withScheme? (s : Source) (pos : Nat) : Option BareLink := do
  let scheme ← scheme? s pos
  return ⟨pos, ← rest? scheme s (pos + scheme.length), scheme⟩

/-- The address with a scheme that a text begins with; a character that a scheme can follow may come before it. -/
def atStart? (s : Source) : Option BareLink :=
  if (scheme? s 0).isSome then withScheme? s 0 else if s.has precedesScheme 0 then withScheme? s 1 else none

/-- The first address with a scheme, which starts at `pos` or behind it, as long as the character before it is not
that at `used - 1` or one before this: a scheme that begins no address uses its characters up. -/
def firstWithScheme? (s : Source) : (fuel used pos : Nat) → Option BareLink
  | 0, _, _ => none
  | fuel + 1, used, pos =>
    if s.size ≤ pos then none
    else if pos = 0 || (used < pos && s.has precedesScheme (pos - 1)) then
      match scheme? s pos with
      | none => firstWithScheme? s fuel used (pos + 1)
      | some scheme =>
        let next := pos + scheme.length
        match rest? scheme s next with
        | some stop => some ⟨pos, stop, scheme⟩
        | none => firstWithScheme? s fuel next next
    else firstWithScheme? s fuel used (pos + 1)

/-- The top-level domains that are known, those of countries apart. -/
def domains : List String :=
  ["biz", "com", "edu", "gov", "net", "org", "pro", "web", "xxx", "aero", "asia", "coop", "info", "museum", "name",
    "shop", "рф"]

/-- The top-level domains of countries, by their first letters. -/
def countries : List (Char × String) :=
  [('a', "cdefgilmnoqrstuwxz"), ('b', "abdefghijmnorstvwyz"), ('c', "acdfghiklmnoruvwxyz"), ('d', "ejkmoz"),
    ('e', "cegrstu"), ('f', "ijkmor"), ('g', "abdefghilmnpqrstuwy"), ('h', "kmnrtu"), ('i', "delmnoqrst"),
    ('j', "emop"), ('k', "eghimnprwyz"), ('l', "abcikrstuvy"), ('m', "acdeghklmnopqrstuvwxyz"),
    ('n', "acefgilopruz"), ('o', "m"), ('p', "aefghklmnrstwy"), ('q', "a"), ('r', "eosuw"),
    ('s', "abcdeghijklmnortuvxyz"), ('t', "cdfghjklmnortvwz"), ('u', "agksyz"), ('v', "aceginu"), ('w', "fs"),
    ('y', "et"), ('z', "amw")]

/-- Whether two letters are the top-level domain of a country. -/
def isCountry (a b : Char) : Bool := (countries.lookup a).any fun letters => b ∈ letters.toList

/-- Whether a label is a top-level domain. -/
def isDomain (label : Text) : Bool :=
  isCoded label ||
    match plainLetters label with
    | [a, b] => isCountry a b || String.ofList [a, b] ∈ domains
    | letters => String.ofList letters ∈ domains

/-- The position after the labels of a host under a known domain. -/
def knownHost? (s : Source) (pos : Nat) : Option Nat := do
  let (places, stop) ← labels? s s.size pos
  let last ← places.getLast?
  if 2 ≤ places.length && isDomain (s.slice last stop) then some stop else none

/-- Whether a text is a number from 0 to 255, in at most three digits. -/
def isOctet (t : Text) : Bool := !t.isEmpty && t.length ≤ 3 && t.all Char.isDigit && readNat t ≤ 255

/-- The position after some numbers with points between them. -/
def octets? (s : Source) : (more pos : Nat) → Option Nat
  | more, pos =>
    let stop := s.skip Char.isDigit s.size pos
    if !isOctet (s.slice pos stop) then none
    else match more with
      | 0 => some stop
      | more + 1 => if s[stop]? == some '.' then octets? s more (stop + 1) else none

/-- The position after a host that is told by four numbers. -/
def numberedHost? (s : Source) (pos : Nat) : Option Nat := octets? s 3 pos

/-- Characters outside words that an address without a scheme can follow, but not start with. -/
def isSign (c : Char) : Bool := c ∈ "$+<=>^\x60|｜".toList

/-- The address without a scheme at a position. -/
def withoutScheme? (s : Source) (pos : Nat) : Option BareLink := do
  if s.has isSign pos then none
  let stop ← knownHost? s pos
  let stop ← afterHost? s stop
  return ⟨pos, stop, []⟩

/-- The address of a mailbox at a position. -/
def mail? (s : Source) (pos : Nat) : Option BareLink := do
  let host ← mailbox? s pos
  let ended? (stop : Option Nat) : Option Nat := stop.filter (endsHost s)
  let stop ← ended? (numberedHost? s host) <|> ended? (knownHost? s host)
  return ⟨pos, stop, "mailto:".toList⟩

/-- The first address that `f` finds behind a character of `p`, or at the start. -/
def firstBehind? (p : Char → Bool) (f : Source → Nat → Option BareLink) (s : Source) :
    (fuel pos : Nat) → Option BareLink
  | 0, _ => none
  | fuel + 1, pos =>
    if s.size ≤ pos then none
    else
      match if pos = 0 || s.has p (pos - 1) then f s pos else none with
      | some l => some l
      | none => firstBehind? p f s fuel (pos + 1)

/-- Whether the end of a host can follow at a position: a known domain behind a point and before a boundary, a number
between points, or one of two words. -/
def hintsAtHost (s : Source) (pos : Nat) : Bool :=
  let word (t : String) : Bool := plainLetters (s.slice pos (pos + t.length)) == t.toList
  let ended (stop : Nat) : Bool := ends (fun c => isBoundary c || c == '>') s stop
  word "localhost" || word "www." ||
    (s[pos]? == some '.' &&
      let digits := s.skip isDecimal (pos + 4) (pos + 1)
      let code := s.skip isCodeLetter (pos + 64) (pos + 5)
      (pos + 1 < digits && s[digits]? == some '.') ||
        ((domains.any fun d => plainLetters (s.slice (pos + 1) (pos + 1 + d.length)) == d.toList &&
          ended (pos + 1 + d.length)) ||
        (match plainLetters (s.slice (pos + 1) (pos + 3)) with
          | [a, b] => isCountry a b && ended (pos + 3)
          | _ => false) ||
        (plainLetters (s.slice (pos + 1) (pos + 5)) == "xn--".toList &&
          (List.range (code - (pos + 5))).any fun n => ended (pos + 6 + n))))

/-- The first position from `pos` on that hints at a host. -/
def firstHint? (s : Source) : (fuel pos : Nat) → Option Nat
  | 0, _ => none
  | fuel + 1, pos =>
    if s.size ≤ pos then none else if hintsAtHost s pos then some pos else firstHint? s fuel (pos + 1)

/-- Whether a scheme stands somewhere in a text. -/
def holdsScheme (s : Source) : (fuel pos : Nat) → Bool
  | 0, _ => false
  | fuel + 1, pos =>
    if s.size ≤ pos then false
    else ((pos = 0 || s.has precedesScheme (pos - 1)) && (scheme? s pos).isSome) || holdsScheme s fuel (pos + 1)

/-- Whether it is worth while to look for addresses in a text. -/
def mayHold (s : Source) : Bool := '@' ∈ s || (firstHint? s s.size 0).isSome || holdsScheme s s.size 0

/-- The first address in a text: the one with a scheme, unless one without starts before it; and unless one of a mailbox
starts before that, or at the same place and goes on longer. -/
def first? (s : Source) : Option BareLink :=
  let schemed := firstWithScheme? s s.size 0 0
  let hosted :=
    if (firstHint? s s.size 0).any fun hint => schemed.all fun l => hint < l.start then
      firstBehind? (fun c => !(c ∈ ".:/-_@".toList) && (isSign c || isBoundary c)) withoutScheme? s s.size 0
    else none
  let written := match schemed, hosted with
    | some l, some h => if h.start < l.start then some h else some l
    | l, h => l <|> h
  let mailed := if '@' ∈ s then
      firstBehind? (fun c => isDivider c || c == '\x22' || c == '(' || isVoid c) mail? s s.size 0
    else none
  match written, mailed with
  | some l, some m => if m.start < l.start || (m.start = l.start && l.stop < m.stop) then some m else some l
  | l, m => l <|> m

/-- All addresses in a text, of which `start` characters were looked at; the rest of the text is searched on its own. -/
def all (s : Source) : (fuel start : Nat) → List BareLink
  | 0, _ => []
  | fuel + 1, start =>
    match first? (s.extract start s.size) with
    | some l =>
      let l := { l with start := start + l.start, stop := start + l.stop }
      l :: all s fuel l.stop
    | none => []

/-- The address that a link leads to: where the scheme is left out, it is that of the web or of mail. -/
def address (l : BareLink) (t : Text) : Text :=
  if l.scheme.isEmpty then "http://".toList ++ t
  else if l.scheme == "mailto:".toList && !startsWith "mailto:".toList (plainLetters t) then "mailto:".toList ++ t
  else t

end BareLink

end TagDoc.Markdown

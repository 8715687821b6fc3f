import TagDoc.Markdown.Escape
import TagDoc.Text.Lower
import TagDoc.Text.Punycode
import TagDoc.Text.Utf8

/-!
# Addresses

The addresses of links and images: how they are taken apart, how they are written in HTML, how they are shown,
and which are refused.

## Main definitions

* `Address.ofText`, `Address.toText`: the parts of an address
* `Address.normal`: an address as it stands in a link
* `Address.shown`: an address as it is shown to a reader
* `Address.isAllowed`: addresses that run no code and read no local file
-/

namespace TagDoc.Markdown

open Text

/-- The parts of an address, each with the mark that tells it where there is one, save for the at sign after
the user and the colon before the port. -/
structure Address where
  scheme : Text
  slashes : Bool
  user : Text
  host : Text
  port : Text
  path : Text
  query : Text
  fragment : Text
  deriving Repr, Inhabited

namespace Address

/-- Characters that no host holds. -/
def endsHost (c : Char) : Bool := c ∈ "%/?;#\x27\x7b\x7d|\\^\x60<>\x22 \r\n\t".toList

/-- Characters that end the part of the host, with user and port. -/
def endsAuthority (c : Char) : Bool := c == '/' || c == '?' || c == '#'

/-- A letter of a label of a host; the count of these is limited to 63. -/
def isHostLetter (c : Char) : Bool := c.isAlphanum || c == '+' || c == '_' || c == '-'

/-- Whether a label of a host is in order; characters outside ASCII count as letters. -/
def isLabel (label : Text) : Bool := label.length ≤ 63 && label.all fun c => isHostLetter c || !isAscii c

/-- The labels of a host up to the first that is not in order, of which the letters at its start are kept, and
what is left out. -/
def cutLabels : List Text → List Text × Option Text
  | [] => ([], none)
  | label :: labels =>
    if isLabel label then
      let (kept, out) := cutLabels labels
      (label :: kept, out)
    else
      let start := (label.takeWhile isHostLetter).take 63
      ([start], some (join ['.'] (label.drop start.length :: labels)))

/-- The scheme that an address begins with, its colon included. -/
def takeScheme (t : Text) : Text :=
  let letters := t.takeWhile fun c => isPlainAlphanum c || c == '.' || c == '+' || c == '-'
  if !letters.isEmpty && t[letters.length]? == some ':' then letters ++ [':'] else []

/-- The port at the end of an authority, its colon included. -/
def takePort (t : Text) : Text :=
  let digits := (t.reverse.takeWhile Char.isDigit).reverse
  if (t.reverse.drop digits.length).head? == some ':' then ':' :: digits else []

/-- What stands before the last at sign, if there is one, and what stands after it. -/
def splitUser (t : Text) : Option (Text × Text) :=
  let host := (t.reverse.takeWhile (· != '@')).reverse
  if host.length < t.length then some (t.take (t.length - host.length - 1), host) else none

/-- The schemes after which two slashes are needed for a host. -/
def needsSlashes (scheme : Text) : Bool :=
  scheme ∈ ["http:", "https:", "ftp:", "gopher:", "file:"].map String.toList

/-- The host, with user and port, at the start of a text, and what follows. -/
def takeHost (a : Address) (t : Text) : Address × Text :=
  let authority := t.takeWhile fun c => !endsAuthority c
  let (user, t) := match splitUser authority with
    | some (user, _) => (user, t.drop (user.length + 1))
    | none => ([], t)
  let named := t.takeWhile fun c => !endsHost c
  let named := if named.getLast? == some ':' then named.dropLast else named
  let rest := t.drop named.length
  let port := takePort named
  let name := named.take (named.length - port.length)
  let bracketed := name.head? == some '[' && name.getLast? == some ']'
  let (name, rest) :=
    if bracketed then (name, rest)
    else match cutLabels (splitOn '.' name) with
      | (labels, out) => (join ['.'] labels, (out.getD []) ++ rest)
  let name := if name.length > 255 then [] else name
  ({ a with user, host := if bracketed then (name.drop 1).dropLast else name, port := port.drop 1 }, rest)

/-- The parts of an address. Two slashes at its start tell of a host. -/
def ofText (t : Text) : Address :=
  let t := strip t
  let scheme := takeScheme t
  let t := t.drop scheme.length
  let hostless := scheme == "javascript:".toList
  let slashes := startsWith "//".toList t
  let a : Address := ⟨scheme, slashes && !hostless, [], [], [], [], [], []⟩
  let t := if a.slashes then t.drop 2 else t
  let (a, t) :=
    if !hostless && (slashes || (!scheme.isEmpty && !needsSlashes scheme)) then a.takeHost t else (a, t)
  let (t, fragment) := (t.takeWhile (· != '#'), t.dropWhile (· != '#'))
  { a with path := t.takeWhile (· != '?'), query := t.dropWhile (· != '?'), fragment }

/-- An address put together from its parts, each of which is written in some way. A host with colons in it stands in
brackets, which are written as they are. -/
def toText (write : Text → Text) (a : Address) : Text :=
  write (a.scheme ++ (if a.slashes then "//".toList else []) ++ (if a.user.isEmpty then [] else a.user ++ ['@'])) ++
    (if ':' ∈ a.host then '[' :: write a.host ++ [']'] else write a.host) ++
    write ((if a.port.isEmpty then [] else ':' :: a.port) ++ a.path ++ a.query ++ a.fragment)

/-- The dots between the labels of a host, in all scripts. -/
def isHostDot (c : Char) : Bool := c == '.' || c == '。' || c == '．' || c == '｡'

/-- The labels of a host. -/
def hostLabels (host : Text) : List Text := splitOn '.' (host.map fun c => if isHostDot c then '.' else c)

/-- Whether the labels of the host are ones that Punycode is meant for. -/
def hasNamedHost (a : Address) : Bool :=
  !a.host.isEmpty && (a.scheme.isEmpty || a.scheme ∈ ["http:", "https:", "mailto:"].map String.toList)

/-- A label in ASCII. -/
def asciiLabel (label : Text) : Text :=
  if label.any fun c => c.toNat > 0x7E then "xn--".toList ++ toPunycode label else label

/-- A host in ASCII. -/
def asciiHost (host : Text) : Text := join ['.'] ((hostLabels host).map asciiLabel)

/-- A label as it is read, if it stands for something. -/
def readableLabel? (label : Text) : Option Text :=
  if startsWith "xn--".toList label then ofPunycode? (toLower (label.drop 4)) else some label

/-- A host as it is read, if all its labels stand for something. -/
def readableHost (host : Text) : Text :=
  match (hostLabels host).mapM readableLabel? with
  | some labels => join ['.'] labels
  | none => host

/-- Two hexadecimal digits, the letters capital, after a percent sign. -/
def percent (octet : Nat) : Text := '%' :: (writeHex 2 octet).map Char.toUpper

/-- Characters that stand in an address as they are. -/
def isPlain (c : Char) : Bool := c.isAlphanum || c ∈ ";/?:@&=+$,-_.!~*\x27()#".toList

/-- An address in ASCII, with all other characters in percent notation. What is in that notation already stays
as it is. -/
def encode : Text → Text
  | [] => []
  | c :: t =>
    match c, t with
    | '%', a :: b :: _ =>
      if (hexDigit? a).isSome && (hexDigit? b).isSome then c :: encode t else percent c.toNat ++ encode t
    | _, _ => (if isPlain c then [c] else (toUtf8 [c]).flatMap fun b => percent b.toNat) ++ encode t

/-- The octets that a text in percent notation begins with. -/
def takeOctets : Text → List UInt8
  | '%' :: a :: b :: t =>
    match hexDigit? a, hexDigit? b with
    | some x, some y => UInt8.ofNat (16 * x + y) :: takeOctets t
    | _, _ => []
  | _ => []

/-- Characters that stay in percent notation. -/
def staysCoded (c : Char) : Bool := c ∈ ";/?:@&=+$,#%".toList

/-- The first character that octets stand for, and how many octets it takes. Octets that go on with no
character are told by replacement characters. -/
def decodeOctet (octets : List UInt8) : Text × Nat :=
  match octets with
  | [] => ([], 1)
  | b :: bs =>
    if b < 0x80 then
      let c := Char.ofNat b.toNat
      (if staysCoded c then percent b.toNat else [c], 1)
    else
      let n := if b &&& 0xE0 == 0xC0 then 1 else if b &&& 0xF0 == 0xE0 then 2 else if b &&& 0xF8 == 0xF0 then 3 else 0
      let tail := bs.take n
      if n ≠ 0 && tail.length == n && tail.all fun b => b &&& 0xC0 == 0x80 then
        match ofUtf8 (b :: tail) with
        | .ok t => (t, n + 1)
        | .error _ => (List.replicate (n + 1) '\uFFFD', n + 1)
      else (['\uFFFD'], 1)

/-- The text of octets. -/
def decodeOctets : (fuel : Nat) → List UInt8 → Text
  | 0, _ => []
  | _, [] => []
  | fuel + 1, octets =>
    let (t, n) := decodeOctet octets
    t ++ decodeOctets fuel (octets.drop n)

/-- An address with its percent notation resolved, save for characters that have a meaning of their own. -/
def decode (t : Text) : Text :=
  match t with
  | [] => []
  | c :: rest =>
    let octets := takeOctets t
    if octets.isEmpty then c :: decode rest
    else decodeOctets octets.length octets ++ decode (rest.drop (3 * octets.length - 1))
termination_by t.length

/-- An address as it stands in a link. -/
def normal (t : Text) : Text :=
  let a := ofText t
  toText encode (if a.hasNamedHost then { a with host := asciiHost a.host } else a)

/-- An address as it is shown to a reader. -/
def shown (t : Text) : Text :=
  let a := ofText t
  decode (toText id (if a.hasNamedHost then { a with host := readableHost a.host } else a))

/-- Addresses that run no code, read no local file and hold no data, unless it is an image. -/
def isAllowed (t : Text) : Bool :=
  let t := toLower (strip t)
  !(["vbscript:", "javascript:", "file:", "data:"].any fun s => startsWith s.toList t) ||
    ["gif;", "png;", "jpeg;", "webp;"].any fun s => startsWith ("data:image/" ++ s).toList t

end Address

end TagDoc.Markdown

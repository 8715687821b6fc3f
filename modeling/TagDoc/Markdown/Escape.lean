import TagDoc.Markdown.Entity
import TagDoc.Text.Category

/-!
# Escapes and classes of characters

Which characters Markdown tells apart, how an escaped text reads, and how a text is written as HTML.

## Main definitions

* `Markdown.isGap`, `Markdown.isMark`: white space and punctuation around runs of emphasis
* `Markdown.trim`: a text without the white space around it
* `Markdown.unescape`: a text with its escapes and character references resolved
* `Markdown.escapeHtml`: a text as it stands in HTML
-/

namespace TagDoc.Markdown

open Text

/-- The punctuation of ASCII. A backslash makes it stand for itself. -/
def isAsciiMark (c : Char) : Bool :=
  let n := c.toNat
  (0x21 ≤ n && n ≤ 0x2F) || (0x3A ≤ n && n ≤ 0x40) || (0x5B ≤ n && n ≤ 0x60) || (0x7B ≤ n && n ≤ 0x7E)

/-- Punctuation and symbols. -/
def isMark (c : Char) : Bool := isAsciiMark c || isPunctuation c || isSymbol c

/-- White space within a paragraph: spaces of any width, tabs and line breaks. -/
def isGap (c : Char) : Bool :=
  let n := c.toNat
  (0x09 ≤ n && n ≤ 0x0D) || n == 0x20 || n == 0xA0 || n == 0x1680 || (0x2000 ≤ n && n ≤ 0x200A) || n == 0x202F ||
    n == 0x205F || n == 0x3000

/-- White space around the text of a block and between the words behind a fence: that of Unicode without the control for
a next line. -/
def isMargin (c : Char) : Bool := isUnicodeSpace c && c.toNat != 0x85

/-- A text without the white space around it. -/
def trim (t : Text) : Text := Text.trim isMargin t

/-- A character reference that `&` was read of: its name, between 2 and 32 characters up to a semicolon, and
what follows. The name is of letters and digits, and its first character a letter or a hash. -/
def reference? (t : Text) : Option (Text × Text) :=
  match t with
  | c :: _ =>
    let name := t.takeWhile fun c => c.isAlphanum || c == '#'
    match t.drop name.length with
    | ';' :: rest =>
      if (c.isAlpha || c == '#') && (name.drop 1).all Char.isAlphanum && 2 ≤ name.length && name.length ≤ 32 then
        some (name, rest)
      else none
    | _ => none
  | [] => none

/-- The number after the hash of a reference by number, if it has at most so many digits. -/
def referenceNumber? (decimals hexadecimals : Nat) : Text → Option Nat
  | '#' :: x :: digits =>
    if x == 'x' || x == 'X' then
      if !digits.isEmpty && digits.length ≤ hexadecimals && digits.all (fun c => (hexDigit? c).isSome) then
        some (readHex digits)
      else none
    else if digits.length < decimals && (x :: digits).all Char.isDigit then some (readNat (x :: digits))
    else none
  | _ => none

/-- The characters of a reference, if there are such. -/
def referenceText? (name : Text) : Option Text :=
  match namedEntity? name with
  | some t => some t
  | none =>
    match referenceNumber? 8 8 name with
    | some n => if isEntityCode n then some [Char.ofNat n] else none
    | none => none

/-- The text that is meant where punctuation is escaped by backslashes, and characters are given by reference.
A reference to nothing stands for itself. -/
def unescape (t : Text) : Text :=
  match t with
  | [] => []
  | [c] => [c]
  | c :: d :: t =>
    if c == '\\' && isAsciiMark d then d :: unescape t
    else if c == '&' then
      match (reference? (d :: t)).bind fun (name, _) => (referenceText? name).map fun u => (name, u) with
      | some (name, u) => u ++ unescape ((d :: t).drop (name.length + 1))
      | none => c :: unescape (d :: t)
    else c :: unescape (d :: t)
termination_by t.length
decreasing_by all_goals simp_wf; try omega

/-- A character as it stands in HTML. -/
def escapeHtmlChar (c : Char) : Text :=
  if c == '&' then "&amp;".toList
  else if c == '<' then "&lt;".toList
  else if c == '>' then "&gt;".toList
  else if c == '\x22' then "&quot;".toList
  else [c]

/-- A text as it stands in HTML. -/
def escapeHtml (t : Text) : Text := t.flatMap escapeHtmlChar

end TagDoc.Markdown

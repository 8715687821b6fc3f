/-!
# Text as a list of characters

Every part of the library works on `Text`, the list of a text's characters, so that a position counts
characters and the standard list functions apply.

## Main definitions

* `Text.isSpace`, `Text.isBlank`, `Text.isWord`: the three classes of characters the tag syntax uses
* `Text.trim`, `Text.strip`: a text without certain characters, or white space, around it
* `Text.splitOn`, `Text.join`: cutting at a character, and putting back together
* `Text.readNat`, `Text.readHex`, `Text.ofNat`, `Text.writeHex`: numbers in digits
* `Text.takeLine`, `Text.dropLine`: the first line without its line break, and what follows that line
-/

namespace TagDoc

/-- A text is the list of its characters. -/
abbrev Text := List Char

/-- Texts that compare as equal are equal. -/
instance Text.lawfulBEq : LawfulBEq Text := inferInstance

/-- Whether one list comes before another, or is the same, item by item; the start of a list comes before it. -/
def inOrder {α : Type} (le : α → α → Bool) : List α → List α → Bool
  | [], _ => true
  | _ :: _, [] => false
  | a :: as, b :: bs => le a b && (!le b a || inOrder le as bs)

namespace Text

/-- Whether one text comes before another, or is the same: character by character, by code points. -/
def le (s t : Text) : Bool := inOrder (fun c d => c.toNat ≤ d.toNat) s t

/-- White space: the controls U+0009 to U+000D and U+001C to U+001F, the next-line control, and every
character that Unicode calls a space or a separator. -/
def isSpace (c : Char) : Bool :=
  let n := c.toNat
  (0x09 ≤ n && n ≤ 0x0D) || (0x1C ≤ n && n ≤ 0x20) || n == 0x85 || n == 0xA0 || n == 0x1680 ||
    (0x2000 ≤ n && n ≤ 0x200A) || n == 0x2028 || n == 0x2029 || n == 0x202F || n == 0x205F || n == 0x3000

/-- White space as Unicode defines it: the controls that separate records and lines of records are none. -/
def isUnicodeSpace (c : Char) : Bool := isSpace c && !(0x1C ≤ c.toNat && c.toNat ≤ 0x1F)

/-- A blank is a space or a tab. -/
def isBlank (c : Char) : Bool := c == ' ' || c == '\t'

/-- A word character is an ASCII letter, an ASCII digit or the underscore. -/
def isWord (c : Char) : Bool := c.isAlphanum || c == '_'

section Items

/-! What is cut off or out of a text is cut in the same way of any list, such as one of code points. -/

variable {α : Type}

/-- The text from its first character outside `p` on. -/
def stripStart (p : α → Bool) (t : List α) : List α := t.dropWhile p

/-- The text up to its last character outside `p`. -/
def stripEnd (p : α → Bool) (t : List α) : List α := (t.reverse.dropWhile p).reverse

/-- The text without the characters of `p` at its two ends. -/
def trim (p : α → Bool) (t : List α) : List α := stripEnd p (stripStart p t)

/-- The pieces of a text between the occurrences of a character; there is always at least one. -/
def splitOn [DecidableEq α] (sep : α) : List α → List (List α)
  | [] => [[]]
  | c :: t =>
    if c = sep then [] :: splitOn sep t
    else match splitOn sep t with
      | [] => [[c]]
      | p :: ps => (c :: p) :: ps

end Items

/-- The text without the white space around it. -/
def strip (t : Text) : Text := trim isSpace t

/-- The first line of a text, without its line break. -/
def takeLine (t : Text) : Text := t.takeWhile (· != '\n')

/-- What follows the first line of a text: its line break and all that comes after, if there is one. -/
def dropLine (t : Text) : Text := t.dropWhile (· != '\n')

/-- Texts put together with a separator between every two. -/
def join (sep : Text) : List Text → Text
  | [] => []
  | [t] => t
  | t :: ts => t ++ sep ++ join sep ts

/-- The decimal digits of a number. -/
def ofNat (n : Nat) : Text := Nat.toDigits 10 n

/-- The decimal digits of a whole number, after a minus sign if it is negative. -/
def ofInt : Int → Text
  | .ofNat n => ofNat n
  | .negSucc n => '-' :: ofNat (n + 1)

/-- The number that decimal digits stand for; a character that is no digit counts as zero. -/
def readNat (t : Text) : Nat :=
  t.foldl (fun n c => 10 * n + if c.isDigit then c.toNat - '0'.toNat else 0) 0

/-- What a hexadecimal digit stands for. -/
def hexDigit? (c : Char) : Option Nat :=
  if c.isDigit then some (c.toNat - '0'.toNat)
  else if 'a' ≤ c ∧ c ≤ 'f' then some (c.toNat - 'a'.toNat + 10)
  else if 'A' ≤ c ∧ c ≤ 'F' then some (c.toNat - 'A'.toNat + 10)
  else none

/-- The number that hexadecimal digits stand for; a character that is no digit counts as zero. -/
def readHex (t : Text) : Nat := t.foldl (fun n c => 16 * n + (hexDigit? c).getD 0) 0

/-- A number in hexadecimal digits, the letters small, with zeros in front up to a width. -/
def writeHex (width n : Nat) : Text :=
  let digits := Nat.toDigits 16 n
  List.replicate (width - digits.length) '0' ++ digits

/-- ASCII capitals become small letters; all else stays. -/
def toLower (t : Text) : Text := t.map Char.toLower

/-- Whether the text begins with `lead`. -/
def startsWith (lead : Text) (t : Text) : Bool := lead.isPrefixOf t

theorem takeLine_append_dropLine (t : Text) : takeLine t ++ dropLine t = t :=
  List.takeWhile_append_dropWhile

theorem dropLine_length_le (t : Text) : (dropLine t).length ≤ t.length :=
  (List.dropWhile_sublist _).length_le

end Text

end TagDoc

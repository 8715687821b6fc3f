import TagDoc.Text.Basic

/-!
# Texts with halves of surrogate pairs

What is written with escapes can hold half of a surrogate pair that stands alone, and then it has no characters but only
code points. It can be kept and compared, but not encoded. In names of files some of these halves stand for single octets,
those that are part of no character.

## Main definitions

* `RawText`: a text, or code points that are none
* `encodeFault?`: what keeps it from being encoded
* `Text.ofPoints`: what is shown of it
-/

namespace TagDoc

/-- A text, or code points among which there is half of a surrogate pair. -/
inductive RawText where
  | text (t : Text)
  | codes (points : List Nat)
  deriving DecidableEq, Repr

instance : Coe Text RawText := ⟨.text⟩

namespace Text

/-- A code point as a character; the replacement character stands in for half of a surrogate pair. -/
def standIn (point : Nat) : Char := if point.isValidChar then Char.ofNat point else '\uFFFD'

/-- The text of code points, with replacement characters for halves of surrogate pairs. -/
def ofPoints (points : List Nat) : Text := points.map standIn

end Text

/-- Halves of surrogate pairs that cannot be encoded: the first of them, its position, and how many stand together. -/
structure EncodeFault where
  first : Nat
  position : Nat
  count : Nat
  deriving DecidableEq, Repr

/-- The wording. -/
def EncodeFault.message (f : EncodeFault) : Text :=
  "'utf-8' codec can't encode ".toList ++
    (if f.count = 1 then
      "character '\\u".toList ++ Text.writeHex 4 f.first ++ "' in position ".toList ++ Text.ofNat f.position
    else
      "characters in position ".toList ++ Text.ofNat f.position ++ '-' :: Text.ofNat (f.position + f.count - 1)) ++
    ": surrogates not allowed".toList

/-- Whether a code point is half of a surrogate pair. -/
def isHalf (point : Nat) : Bool := !point.isValidChar

/-- Whether a code point stands for an octet of a name that is part of no character. -/
def isLooseOctet (point : Nat) : Bool := 0xDC80 ≤ point && point ≤ 0xDCFF

/-- What keeps code points from being encoded, where the halves that `passes` allows are encoded. -/
def encodeFault? (passes : Nat → Bool) (points : List Nat) : Option EncodeFault :=
  let isBad (point : Nat) : Bool := isHalf point && !passes point
  match points.dropWhile (!isBad ·) with
  | [] => none
  | point :: rest =>
    some ⟨point, (points.takeWhile (!isBad ·)).length, ((point :: rest).takeWhile isHalf).length⟩

namespace RawText

/-- The code points. -/
def points : RawText → List Nat
  | text t => t.map Char.toNat
  | codes points => points

/-- The text, if it is one. -/
def text? : RawText → Option Text
  | text t => some t
  | codes _ => none

/-- What is shown of it, with replacement characters for halves of surrogate pairs. -/
def shown : RawText → Text
  | text t => t
  | codes points => Text.ofPoints points

end RawText

end TagDoc

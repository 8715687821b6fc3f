import TagDoc.Text.Basic

/-!
# UTF-8

The octets of a text, and the text that octets stand for (RFC 3629). Where octets stand for no text, the
first place that breaks the rules is told, with the number of octets there that began well.

## Main definitions

* `Text.toUtf8`, `Text.ofUtf8`
* `Utf8Fault`, `Utf8Fault.message`
-/

namespace TagDoc

/-- How octets can break the rules: one that starts no character, one that does not go on with the character
begun before it, or an end in the midst of a character. -/
inductive Utf8Cause where
  | badStart
  | badContinuation
  | unexpectedEnd
  deriving DecidableEq, Repr

/-- A breach of the rules: where the character begins, how many octets of it there are, and the first. -/
structure Utf8Fault where
  cause : Utf8Cause
  position : Nat
  length : Nat
  octet : UInt8
  deriving DecidableEq, Repr

/-- The wording of a cause. -/
def Utf8Cause.message : Utf8Cause → String
  | badStart => "invalid start byte"
  | badContinuation => "invalid continuation byte"
  | unexpectedEnd => "unexpected end of data"

/-- The wording of a breach: of a single octet its value is told, of several their positions. -/
def Utf8Fault.message (f : Utf8Fault) : Text :=
  "'utf-8' codec can't decode ".toList ++
    (if f.length = 1 then
      "byte 0x".toList ++ Text.writeHex 2 f.octet.toNat ++ " in position ".toList ++ Text.ofNat f.position
    else
      "bytes in position ".toList ++ Text.ofNat f.position ++ '-' :: Text.ofNat (f.position + f.length - 1)) ++
    ": ".toList ++ f.cause.message.toList

namespace Text

/-- The octets of a text. -/
def toUtf8 (t : Text) : List UInt8 := (String.ofList t).toUTF8.toList

/-- How many octets a text takes. -/
def octetCount (t : Text) : Nat := t.foldl (fun n c => n + c.utf8Size) 0

/-- How many octets go on with a character after its first octet. -/
def tailLength? (b : UInt8) : Option Nat :=
  if b < 0x80 then some 0
  else if b < 0xC2 then none
  else if b < 0xE0 then some 1
  else if b < 0xF0 then some 2
  else if b < 0xF5 then some 3
  else none

/-- Whether an octet may be the second of a character that begins with `first`: no longer form than needed,
no surrogate, and nothing past the last code point. -/
def isSecond (first b : UInt8) : Bool :=
  (if first = 0xE0 then 0xA0 else if first = 0xF0 then 0x90 else 0x80) ≤ b &&
    b ≤ (if first = 0xED then 0x9F else if first = 0xF4 then 0x8F else 0xBF)

/-- The octets that go on with a character begun by `first`, out of `n` that it needs. -/
def takeTail (first : UInt8) (n : Nat) (octets : List UInt8) : List UInt8 :=
  match octets.take n with
  | [] => []
  | b :: bs => if isSecond first b then b :: bs.takeWhile fun b => 0x80 ≤ b && b ≤ 0xBF else []

/-- The character of a first octet and the octets after it. -/
def assemble (first : UInt8) (tail : List UInt8) : Char :=
  let lead := if tail.isEmpty then first.toNat else first.toNat % (1 <<< (6 - tail.length))
  Char.ofNat (tail.foldl (fun n b => n * 64 + b.toNat % 64) lead)

/-- Reads octets that begin at `position`; `seen` holds the characters so far, the last first. -/
def decodeFrom (seen : List Char) (position : Nat) : (fuel : Nat) → List UInt8 → Except Utf8Fault Text
  | 0, _ => .ok seen.reverse
  | _, [] => .ok seen.reverse
  | fuel + 1, b :: bs =>
    match tailLength? b with
    | none => .error ⟨.badStart, position, 1, b⟩
    | some n =>
      let tail := takeTail b n bs
      if tail.length = n then
        decodeFrom (assemble b tail :: seen) (position + n + 1) fuel (bs.drop n)
      else
        let cause := if tail.length = bs.length then .unexpectedEnd else .badContinuation
        .error ⟨cause, position, tail.length + 1, b⟩

/-- The text that octets stand for. -/
def ofUtf8 (octets : List UInt8) : Except Utf8Fault Text := decodeFrom [] 0 octets.length octets

end Text

end TagDoc

import TagDoc.Text.Basic

/-!
# What can be wrong with a text in JSON

## Main definitions

* `Json.Cause`: why a text is refused
* `Json.Fault`: a cause with the place where it shows
* `Json.Fault.message`: the wording
-/

namespace TagDoc.Json

/-- Why a text is refused. The last four have no place in the text. -/
inductive Cause where
  | byteOrderMark
  | expectedValue
  | expectedName
  | expectedColon
  | expectedComma
  | extraData
  | unterminatedString
  | controlCharacter
  | badEscape
  | badUnicodeEscape
  | refusedConstant (name : Text)
  | tooManyDigits (count : Nat)
  | arrayTooDeep
  | objectTooDeep
  deriving DecidableEq, Repr

/-- A cause, with how many characters of the text are left where it shows. -/
structure Fault where
  cause : Cause
  left : Nat
  deriving DecidableEq, Repr

/-- The most digits that a whole number may have. -/
def maxDigits : Nat := 4300

namespace Cause

/-- Whether the fault of this cause is a breach of the grammar and so has a place. -/
def hasPlace : Cause → Bool
  | refusedConstant _ | tooManyDigits _ | arrayTooDeep | objectTooDeep => false
  | _ => true

/-- The wording of a cause. -/
def message : Cause → Text
  | byteOrderMark => "Unexpected UTF-8 BOM (decode using utf-8-sig)".toList
  | expectedValue => "Expecting value".toList
  | expectedName => "Expecting property name enclosed in double quotes".toList
  | expectedColon => "Expecting ':' delimiter".toList
  | expectedComma => "Expecting ',' delimiter".toList
  | extraData => "Extra data".toList
  | unterminatedString => "Unterminated string starting at".toList
  | controlCharacter => "Invalid control character at".toList
  | badEscape => "Invalid \\escape".toList
  | badUnicodeEscape => "Invalid \\uXXXX escape".toList
  | refusedConstant name => name ++ " is not valid JSON".toList
  | tooManyDigits count =>
    "Exceeds the limit (".toList ++ Text.ofNat maxDigits ++
      " digits) for integer string conversion: value has ".toList ++ Text.ofNat count ++
      " digits; use sys.set_int_max_str_digits() to increase the limit".toList
  | arrayTooDeep =>
    "maximum recursion depth exceeded while decoding a JSON array from a unicode string".toList
  | objectTooDeep =>
    "maximum recursion depth exceeded while decoding a JSON object from a unicode string".toList

end Cause

/-- The line of the position `at` in a text, its column, both counted from one. -/
def lineAndColumn (t : Text) (position : Nat) : Nat × Nat :=
  let before := t.take position
  (before.count '\n' + 1, (before.reverse.takeWhile (· != '\n')).length + 1)

/-- The wording of a fault, with its place in the text `t` if it has one. -/
def Fault.message (t : Text) (f : Fault) : Text :=
  if f.cause.hasPlace then
    let position := t.length - f.left
    let (line, column) := lineAndColumn t position
    f.cause.message ++ ": line ".toList ++ Text.ofNat line ++ " column ".toList ++ Text.ofNat column ++
      " (char ".toList ++ Text.ofNat position ++ [')']
  else f.cause.message

end TagDoc.Json

import TagDoc.Decimal.Shortest
import TagDoc.Text.Category
import TagDoc.Value.Basic

/-!
# The literal of a value

A value in messages and names is shown as a literal: text between quotes, a list between brackets, a mapping
between braces. The plain text of a value differs from its literal for text, dates and moments only.

## Main definitions

* `Text.quoted`: a text between quotes
* `Value.literal`
* `Value.plain`
* `Value.isShort`: whether all numbers in a value are short enough to be shown
-/

namespace TagDoc

/-- How literals show doubles: in positions from four places after the point to sixteen before it. -/
def literalNumbers : NumberStyle := ⟨-4, 15, 2⟩

/-- The escape for a code point, of the shortest form that holds it. -/
def escapeCode (n : Nat) : Text :=
  if n < 0x100 then '\\' :: 'x' :: Text.writeHex 2 n
  else if n < 0x10000 then '\\' :: 'u' :: Text.writeHex 4 n
  else '\\' :: 'U' :: Text.writeHex 8 n

/-- A code point between quotes of the kind `quote`. -/
def quotedCode (quote : Char) (n : Nat) : Text :=
  if n = quote.toNat ∨ n = '\\'.toNat then ['\\', Char.ofNat n]
  else if n = '\n'.toNat then ['\\', 'n']
  else if n = '\r'.toNat then ['\\', 'r']
  else if n = '\t'.toNat then ['\\', 't']
  else if n.isValidChar ∧ Text.isPrintable (Char.ofNat n) then [Char.ofNat n]
  else escapeCode n

/-- Single quotes, unless there is a single quote and no double quote to be shown. -/
def quoteFor (points : List Nat) : Char :=
  if points.contains 0x27 && !points.contains 0x22 then '\x22' else '\x27'

/-- Code points between quotes. -/
def quotedCodes (points : List Nat) : Text :=
  let quote := quoteFor points
  quote :: points.flatMap (quotedCode quote) ++ [quote]

/-- A text between quotes; what does not print is escaped. -/
def Text.quoted (t : Text) : Text := quotedCodes (t.map Char.toNat)

/-- The same for a text that may have halves of surrogate pairs. -/
def RawText.quoted (t : RawText) : Text := quotedCodes t.points

/-- An octet between quotes: ASCII as it is, all else escaped. -/
def quotedOctet (quote : Char) (b : UInt8) : Text :=
  if b < 0x7F then quotedCode quote b.toNat else '\\' :: 'x' :: Text.writeHex 2 b.toNat

/-- Octets between quotes. -/
def quotedOctets (octets : List UInt8) : Text :=
  let quote := quoteFor (octets.map UInt8.toNat)
  'b' :: quote :: octets.flatMap (quotedOctet quote) ++ [quote]

namespace Value

/-- A name with its arguments. -/
def call (name : String) (args : List Text) : Text :=
  name.toList ++ '(' :: Text.join ", ".toList args ++ [')']

/-- The literal of an offset from universal time. -/
def offsetLiteral (minutes : Int) : Text :=
  if minutes = 0 then "datetime.timezone.utc".toList
  else
    let days := minutes / 1440
    let seconds := minutes % 1440 * 60
    let fields := (if days = 0 then [] else ["days=".toList ++ Text.ofInt days]) ++
      (if seconds = 0 then [] else ["seconds=".toList ++ Text.ofInt seconds])
    call "datetime.timezone" [call "datetime.timedelta" fields]

/-- The literal of a moment; seconds and their parts are left out where they are zero. -/
def momentLiteral (m : Moment) : Text :=
  let fields := [m.date.year, m.date.month, m.date.day, m.hour, m.minute] ++
    (if m.second = 0 ∧ m.microsecond = 0 then []
      else m.second :: if m.microsecond = 0 then [] else [m.microsecond])
  call "datetime.datetime" <| fields.map Text.ofNat ++
    (m.offset.map fun o => "tzinfo=".toList ++ offsetLiteral o).toList

mutual

/-- A value as a literal. -/
def literal : Value → Text
  | null => "None".toList
  | bool b => (if b then "True" else "False").toList
  | int n => Text.ofInt n
  | float x => literalNumbers.write x
  | nan _ => "nan".toList
  | str t => t.quoted
  | codes points => quotedCodes points
  | bytes octets => quotedOctets octets
  | date d => call "datetime.date" ([d.year, d.month, d.day].map Text.ofNat)
  | moment m => momentLiteral m
  | list vs => '[' :: Text.join ", ".toList (literals vs) ++ [']']
  | tuple [v] => '(' :: v.literal ++ [',', ')']
  | tuple vs => '(' :: Text.join ", ".toList (literals vs) ++ [')']
  | set [] => call "set" []
  | set vs => '\x7b' :: Text.join ", ".toList (literals vs) ++ ['\x7d']
  | map es => '\x7b' :: Text.join ", ".toList (entryLiterals es) ++ ['\x7d']
  | again .list => "[...]".toList
  | again .map => '\x7b' :: "...".toList ++ ['\x7d']

/-- The literals of values. -/
def literals : List Value → List Text
  | [] => []
  | v :: vs => v.literal :: literals vs

/-- Entries as literals with a colon between key and value. -/
def entryLiterals : List (Value × Value) → List Text
  | [] => []
  | (k, v) :: es => (k.literal ++ ": ".toList ++ v.literal) :: entryLiterals es

end

/-- A value as plain text: text, dates and moments as they are, all else as a literal. In a text there are replacement
characters for halves of surrogate pairs. -/
def plain : Value → Text
  | str t => t
  | codes points => Text.ofPoints points
  | date d => d.iso
  | moment m => m.write ' '
  | v => v.literal

/-- The least number with more digits than are shown. -/
def shownBound : Nat := Nat.pow 10 4300

mutual

/-- Whether all numbers in a value are short enough to be shown. -/
def isShort : Value → Bool
  | int n => n.natAbs < shownBound
  | list vs | tuple vs | set vs => areShort vs
  | map es => entriesAreShort es
  | _ => true

/-- Whether all numbers in values are short enough to be shown. -/
def areShort : List Value → Bool
  | [] => true
  | v :: vs => v.isShort && areShort vs

/-- Whether all numbers in entries are short enough to be shown. -/
def entriesAreShort : List (Value × Value) → Bool
  | [] => true
  | (k, v) :: es => k.isShort && v.isShort && entriesAreShort es

end

/-- The literal of a value, or only the name of its type if a number in it is too long. -/
def shown (v : Value) : Text :=
  if v.isShort then v.literal else "<unprintable ".toList ++ v.typeName.toList ++ " object>".toList

end Value

end TagDoc

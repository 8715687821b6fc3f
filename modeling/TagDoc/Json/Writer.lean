import TagDoc.Decimal.Shortest
import TagDoc.Text.Raw
import TagDoc.Text.Utf8
import TagDoc.Value.Basic

/-!
# Writing JSON

A value as a text in JSON, in one line or over indented lines. Mappings keep the order of their entries, and
every key is written as a string. Characters outside ASCII are written as they are; numbers that JSON does
not have are null; dates and moments are strings; octets are the text that they stand for in UTF-8. Octets
that stand for no text cannot be written, and text with half of a surrogate pair in it cannot either, nor what holds
itself. Data that is part of something larger may be nested to a limit only.

## Main definitions

* `Json.write`: a value as a text
* `Json.writeHolding`: a value that holds data of no fixed form, as a text
* `Json.Layout`: in one line, or over indented lines
-/

namespace TagDoc.Json

/-- Why a value cannot be written. -/
inductive WriteFault where
  | loneSurrogates (fault : EncodeFault)
  | octets (fault : Utf8Fault)
  | endless
  | tooDeep
  deriving DecidableEq, Repr

/-- The wording. -/
def WriteFault.message : WriteFault → Text
  | loneSurrogates fault => "Error serializing to JSON: UnicodeEncodeError: ".toList ++ fault.message
  | octets fault =>
    "Error serializing to JSON: ".toList ++
      (if fault.cause = .unexpectedEnd then
        "incomplete utf-8 byte sequence from index ".toList ++ Text.ofNat fault.position
      else
        "invalid utf-8 sequence of ".toList ++ Text.ofNat fault.length ++ " bytes from index ".toList ++
          Text.ofNat fault.position)
  | endless => "Error serializing to JSON: ValueError: Circular reference detected (id repeated)".toList
  | tooDeep => "Error serializing to JSON: ValueError: Circular reference detected (depth exceeded)".toList

/-- In one line without blanks, or over lines that are indented by a number of spaces more per level. -/
inductive Layout where
  | compact
  | indented (width : Nat)
  deriving DecidableEq, Repr

/-- How JSON shows doubles: in positions from five places after the point to sixteen before it. -/
def numbers : NumberStyle := ⟨-5, 15, 1⟩

/-- How keys show doubles. -/
def keyNumbers : NumberStyle := ⟨-4, 15, 2⟩

/-- A character of a string: quotes, backslashes and the controls below the space are escaped. -/
def escape (c : Char) : Text :=
  if c = '\x22' ∨ c = '\\' then ['\\', c]
  else if c = '\n' then ['\\', 'n']
  else if c = '\r' then ['\\', 'r']
  else if c = '\t' then ['\\', 't']
  else if c = '\x08' then ['\\', 'b']
  else if c = '\x0c' then ['\\', 'f']
  else if c.toNat < 0x20 then '\\' :: 'u' :: Text.writeHex 4 c.toNat
  else [c]

/-- A text as a string. -/
def writeString (t : Text) : Text := '\x22' :: t.flatMap escape ++ ['\x22']

/-- The fault of code points that stand for no text: the first halves of surrogate pairs in them. -/
def surrogateFault (points : List Nat) : WriteFault :=
  .loneSurrogates ((encodeFault? (fun _ => false) points).getD ⟨0, points.length, 0⟩)

/-- The text that octets stand for. -/
def octetText (octets : List UInt8) : Except WriteFault Text :=
  (Text.ofUtf8 octets).mapError .octets

mutual

/-- The text of a key. A number that JSON does not have is written like null, and a pair as its parts with a comma between
them. Collections of other kinds are no keys. -/
def keyText : Value → Except WriteFault Text
  | .null | .nan _ => .ok "None".toList
  | .bool b => .ok (if b then "true" else "false").toList
  | .int n => .ok (Text.ofInt n)
  | .float x => .ok (if x.isNaN || x.isInf then "None".toList else keyNumbers.write x)
  | .str t => .ok t
  | .codes points => .error (surrogateFault points)
  | .bytes octets => octetText octets
  | .date d => .ok d.iso
  | .moment m => .ok m.isoZulu
  | .tuple vs => do return Text.join [','] (← keyTexts vs)
  | .list _ | .set _ | .map _ | .again _ => .ok []

/-- The texts of the parts of a key. -/
def keyTexts : List Value → Except WriteFault (List Text)
  | [] => .ok []
  | v :: vs => do
    let t ← keyText v
    return t :: (← keyTexts vs)

end

/-- The line break and the indentation before an item at a level. -/
def Layout.lineBreak (layout : Layout) (level : Nat) : Text :=
  match layout with
  | .compact => []
  | .indented width => '\n' :: List.replicate (width * level) ' '

/-- What stands between a key and its value. -/
def Layout.colon : Layout → Text
  | .compact => [':']
  | .indented _ => [':', ' ']

/-- Items at a level between an opening and a closing sign. -/
def Layout.group (layout : Layout) (level : Nat) (opening closing : Char) (items : List Text) : Text :=
  if items.isEmpty then [opening, closing]
  else
    opening :: Text.join [','] (items.map (layout.lineBreak (level + 1) ++ ·)) ++
      layout.lineBreak level ++ [closing]

mutual

/-- A value at a level. -/
def writeAt (layout : Layout) (level : Nat) : Value → Except WriteFault Text
  | .null | .nan _ => .ok "null".toList
  | .bool b => .ok (if b then "true" else "false").toList
  | .int n => .ok (Text.ofInt n)
  | .float x => .ok (if x.isNaN || x.isInf then "null".toList else numbers.write x)
  | .str t => .ok (writeString t)
  | .codes points => .error (surrogateFault points)
  | .bytes octets => (octetText octets).map writeString
  | .date d => .ok (writeString d.iso)
  | .moment m => .ok (writeString m.isoZulu)
  | .list vs | .tuple vs | .set vs => do
    return layout.group level '[' ']' (← writeItems layout (level + 1) vs)
  | .map es => do
    return layout.group level '\x7b' '\x7d' (← writeEntries layout (level + 1) es)
  | .again _ => .error .endless

/-- Values at a level, one text each. -/
def writeItems (layout : Layout) (level : Nat) : List Value → Except WriteFault (List Text)
  | [] => .ok []
  | v :: vs => do
    let t ← writeAt layout level v
    return t :: (← writeItems layout level vs)

/-- Entries at a level, one text each. -/
def writeEntries (layout : Layout) (level : Nat) : List (Value × Value) → Except WriteFault (List Text)
  | [] => .ok []
  | (k, v) :: es => do
    let key ← keyText k
    let t ← writeAt layout level v
    return (writeString key ++ layout.colon ++ t) :: (← writeEntries layout level es)

end

/-- A value as a text in JSON. -/
def write (layout : Layout) (v : Value) : Except WriteFault Text := writeAt layout 0 v

mutual

/-- How many values are nested in a value, itself included. -/
def depth : Value → Nat
  | .list vs | .tuple vs | .set vs => itemsDepth vs + 1
  | .map es => entriesDepth es + 1
  | _ => 1

/-- The greatest depth of some values. -/
def itemsDepth : List Value → Nat
  | [] => 0
  | v :: vs => max (depth v) (itemsDepth vs)

/-- The greatest depth of the values of some entries. -/
def entriesDepth : List (Value × Value) → Nat
  | [] => 0
  | (_, v) :: es => max (depth v) (entriesDepth es)

end

/-- The greatest depth of data of no fixed form that can be written. -/
def maxWrittenDepth : Nat := 255

/-- A value as a text in JSON; `data` are the data of no fixed form that it holds. -/
def writeHolding (layout : Layout) (data : List Value) (v : Value) : Except WriteFault Text :=
  if data.any (maxWrittenDepth < depth ·) then .error .tooDeep else write layout v

end TagDoc.Json

import TagDoc.Json.Fault
import TagDoc.Value.Basic

/-!
# Reading JSON

The grammar of RFC 8259, and beyond it the words `NaN`, `Infinity` and `-Infinity`, which a reader may accept
or refuse. A fault is told with its place, which is where the reading could not go on; so of two faults the
first one in the text is told.

## Main definitions

* `Json.read`: reads a whole text
* `Json.readCodes`: reads a text in which halves of surrogate pairs stand alone
-/

namespace TagDoc.Json

open Cause

/-- The fault of a cause at a place that has `t` before it. -/
def faultAt {α : Type} (cause : Cause) (t : Text) : Except Fault α := .error ⟨cause, t.length⟩

/-- The white space of JSON. -/
def isWhite (c : Char) : Bool := c == ' ' || c == '\t' || c == '\n' || c == '\r'

/-- The text after its white space. -/
def skipWhite (t : Text) : Text := t.dropWhile isWhite

/-- Four hexadecimal digits. -/
def readFourHex? (t : Text) : Option Nat :=
  let digits := t.take 4
  if digits.length = 4 ∧ digits.all (Text.hexDigit? · |>.isSome) then some (Text.readHex digits) else none

/-- The character that a letter after a backslash stands for. -/
def unescape? (c : Char) : Option Char :=
  if c = '\x22' ∨ c = '\\' ∨ c = '/' then some c
  else if c = 'b' then some '\x08'
  else if c = 'f' then some '\x0c'
  else if c = 'n' then some '\n'
  else if c = 'r' then some '\r'
  else if c = 't' then some '\t'
  else none

/-- Whether a code point is the first half of a surrogate pair. -/
def isHighHalf (n : Nat) : Bool := 0xD800 ≤ n && n < 0xDC00

/-- Whether a code point is the second half of a surrogate pair. -/
def isLowHalf (n : Nat) : Bool := 0xDC00 ≤ n && n < 0xE000

/-- The code point of a surrogate pair. -/
def joinHalves (high low : Nat) : Nat := 0x10000 + (high - 0xD800) * 0x400 + (low - 0xDC00)

/-- Reads an escape of four hexadecimal digits after its letter u, and the second half of a pair after it;
a half that finds no other half stands alone. An escape must not end the text. -/
def readUnicode (t : Text) : Except Fault (Nat × Text) :=
  if t.length ≤ 4 then faultAt badUnicodeEscape ('u' :: t)
  else
    match readFourHex? t with
    | none => faultAt badUnicodeEscape ('u' :: t)
    | some high =>
      let rest := t.drop 4
      match rest with
      | '\\' :: 'u' :: next =>
        -- A second half that is cut off by the end of the text is no fault of this escape.
        if isHighHalf high ∧ 4 < next.length then
          match readFourHex? next with
          | none => faultAt badUnicodeEscape ('u' :: next)
          | some low => .ok (if isLowHalf low then (joinHalves high low, next.drop 4) else (high, rest))
        else .ok (high, rest)
      | _ => .ok (high, rest)

/-- Reads a string after its opening quote, as code points; `seen` holds those read so far, the last first. -/
def readString (opening : Text) (seen : List Nat) : (fuel : Nat) → Text → Except Fault (List Nat × Text)
  | 0, _ => faultAt unterminatedString opening
  | fuel + 1, t =>
    match t with
    | [] => faultAt unterminatedString opening
    | '\x22' :: rest => .ok (seen.reverse, rest)
    | ['\\'] => faultAt unterminatedString opening
    | '\\' :: 'u' :: rest =>
      match readUnicode rest with
      | .error f => .error f
      | .ok (n, rest) => readString opening (n :: seen) fuel rest
    | '\\' :: c :: rest =>
      match unescape? c with
      | none => faultAt badEscape t
      | some d => readString opening (d.toNat :: seen) fuel rest
    | c :: rest =>
      if c.toNat < 0x20 then faultAt controlCharacter t else readString opening (c.toNat :: seen) fuel rest

/-- The digits at the start of a text, and what follows them. -/
def cutDigits (t : Text) : Text × Text := (t.takeWhile Char.isDigit, t.dropWhile Char.isDigit)

/-- A point and the digits after it, if there are any. -/
def cutFraction (t : Text) : Text × Text :=
  match t with
  | '.' :: rest =>
    let (digits, after) := cutDigits rest
    if digits.isEmpty then ([], t) else (digits, after)
  | _ => ([], t)

/-- An exponent: its letter, a sign if there is one, and digits. -/
def cutExponent? (t : Text) : Option (Int × Text) :=
  match t with
  | c :: rest =>
    if c = 'e' ∨ c = 'E' then
      let (negative, rest) := match rest with
        | '-' :: rest => (true, rest)
        | '+' :: rest => (false, rest)
        | _ => (false, rest)
      let (digits, after) := cutDigits rest
      if digits.isEmpty then none
      else some ((if negative then -Text.readNat digits else Text.readNat digits : Int), after)
    else none
  | [] => none

/-- The whole part of a number: a zero, or digits that begin with none. -/
def cutWhole? (t : Text) : Option (Text × Text) :=
  match t with
  | '0' :: rest => some (['0'], rest)
  | c :: _ => if c.isDigit then some (cutDigits t) else none
  | [] => none

/-- Reads a number: a whole number if it has neither fraction nor exponent, else a double. -/
def readNumber (t : Text) : Except Fault (Value × Text) :=
  let (negative, unsigned) := match t with
    | '-' :: rest => (true, rest)
    | _ => (false, t)
  match cutWhole? unsigned with
  | none => faultAt expectedValue t
  | some (whole, rest) =>
    let (fraction, rest) := cutFraction rest
    let exponent := cutExponent? rest
    -- A point or an exponent makes a double, even of a whole number.
    if fraction.isEmpty ∧ exponent.isNone then
      if maxDigits < whole.length then faultAt (tooManyDigits whole.length) t
      else .ok (.int (if negative then -Text.readNat whole else Text.readNat whole), rest)
    else
      let (power, rest) := exponent.getD (0, rest)
      let x := Decimal.toFloat ⟨Text.readNat (whole ++ fraction), power - fraction.length⟩
      .ok (.float (if negative then -x else x), rest)

/-- The words beside numbers, and what they stand for. -/
def constants : List (Text × Float) :=
  [("NaN".toList, 0.0 / 0.0), ("Infinity".toList, 1.0 / 0.0), ("-Infinity".toList, -1.0 / 0.0)]

/-- The words of JSON itself. -/
def words : List (Text × Value) :=
  [("null".toList, .null), ("true".toList, .bool true), ("false".toList, .bool false)]

/-- Reads a word or a number. -/
def readScalar (acceptConstants : Bool) (t : Text) : Except Fault (Value × Text) :=
  match words.find? fun (w, _) => w.isPrefixOf t with
  | some (w, v) => .ok (v, t.drop w.length)
  | none =>
    match constants.find? fun (w, _) => w.isPrefixOf t with
    | some (w, x) =>
      if acceptConstants then .ok (.float x, t.drop w.length) else faultAt (refusedConstant w) t
    | none => readNumber t

mutual

/-- Reads a value, of which arrays and objects may be `depth` deep. -/
def readValue (acceptConstants : Bool) : (fuel depth : Nat) → Text → Except Fault (Value × Text)
  | 0, _, t => faultAt expectedValue t
  | fuel + 1, depth, t =>
    match t with
    | '\x22' :: rest => do
      let (points, rest) ← readString t [] (rest.length + 1) rest
      pure (Value.ofCodes points, rest)
    | '[' :: rest =>
      match depth with
      | 0 => faultAt arrayTooDeep t
      | depth + 1 =>
        match skipWhite rest with
        | ']' :: rest => .ok (.list [], rest)
        | rest => do
          let (vs, rest) ← readItems acceptConstants fuel depth rest
          pure (.list vs, rest)
    | '\x7b' :: rest =>
      match depth with
      | 0 => faultAt objectTooDeep t
      | depth + 1 =>
        match skipWhite rest with
        | '\x7d' :: rest => .ok (.map [], rest)
        | rest => do
          let (es, rest) ← readMembers acceptConstants fuel depth rest
          pure (.map (Entries.ofList es), rest)
    | _ => readScalar acceptConstants t

/-- Reads the items of an array up to its closing bracket. -/
def readItems (acceptConstants : Bool) : (fuel depth : Nat) → Text → Except Fault (List Value × Text)
  | 0, _, t => faultAt expectedValue t
  | fuel + 1, depth, t => do
    let (v, rest) ← readValue acceptConstants fuel depth t
    match skipWhite rest with
    | ']' :: rest => pure ([v], rest)
    | ',' :: rest =>
      let (vs, rest) ← readItems acceptConstants fuel depth (skipWhite rest)
      pure (v :: vs, rest)
    | rest => faultAt expectedComma rest

/-- Reads the members of an object up to its closing brace. -/
def readMembers (acceptConstants : Bool) : (fuel depth : Nat) → Text → Except Fault (Entries × Text)
  | 0, _, t => faultAt expectedName t
  | fuel + 1, depth, t =>
    match t with
    | '\x22' :: rest => do
      let (points, rest) ← readString t [] (rest.length + 1) rest
      match skipWhite rest with
      | ':' :: rest =>
        let (v, rest) ← readValue acceptConstants fuel depth (skipWhite rest)
        match skipWhite rest with
        | '\x7d' :: rest => pure ([(Value.ofCodes points, v)], rest)
        | ',' :: rest =>
          let (es, rest) ← readMembers acceptConstants fuel depth (skipWhite rest)
          pure ((Value.ofCodes points, v) :: es, rest)
        | rest => faultAt expectedComma rest
      | rest => faultAt expectedColon rest
    | _ => faultAt expectedName t

end

/-- Reads a whole text, with white space around the value. How deep arrays and objects may be nested depends on how many
calls are left where it is read. Each step of the reading takes a character, so twice the length of the text is fuel
enough. -/
def read (maxDepth : Nat) (acceptConstants : Bool) (t : Text) : Except Fault Value :=
  if t.head? = some '\uFEFF' then faultAt byteOrderMark t
  else do
    let (v, rest) ← readValue acceptConstants (2 * t.length + 2) maxDepth (skipWhite t)
    let rest := skipWhite rest
    if rest.isEmpty then pure v else faultAt extraData rest

/-! ### Halves of surrogate pairs -/

/-- A code point as a character; for half of a surrogate pair there is an escape. -/
def escaped (point : Nat) : Text :=
  if point.isValidChar then [Char.ofNat point] else '\\' :: 'u' :: Text.writeHex 4 point

/-- Reads a text given by its code points. The places of faults are those in the text with replacement characters, which no
rule of the grammar tells from halves of pairs; in a text without faults all halves are in strings, where they may be
written as escapes. -/
def readCodes (maxDepth : Nat) (acceptConstants : Bool) (points : List Nat) : Except Fault Value := do
  let _ ← read maxDepth acceptConstants (Text.ofPoints points)
  read maxDepth acceptConstants (points.flatMap escaped)

end TagDoc.Json

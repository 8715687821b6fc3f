import TagDoc.Decimal.Binary
import TagDoc.Text.Digit
import TagDoc.Text.Lower
import TagDoc.Yaml.Fault

/-!
# Numbers and octets in scalars

A scalar of a number type is read as a number whatever its form is, and refused if it is none. Underscores
between digits do not count, and the digits can be those of any script. Parts of sixty stand between colons, the greatest
first.

What is not a number is an object of its own for each scalar that is one, but the word for it stands for a single object.

## Main definitions

* `Yaml.readInteger`, `Yaml.readFraction`
* `Yaml.readOctets?`: octets in base 64
-/

namespace TagDoc.Yaml

/-- The most digits that a number in base ten may have. -/
def maxDigits : Nat := 4300

/-- What a digit or letter stands for. -/
def digitValue? (c : Char) : Option Nat :=
  if c.isDigit then some (c.toNat - '0'.toNat)
  else if c.isAlpha then some (c.toLower.toNat - 'a'.toNat + 10)
  else none

/-- The number that digits in a base stand for. -/
def digitsIn? (base : Nat) (t : Text) : Option Nat :=
  if t.isEmpty then none
  else t.foldl (fun n? c => do
    let n ← n?
    let d ← digitValue? c
    if d < base then some (n * base + d) else none) (some 0)

/-- A text of digits without the white space around it, the digits written in ASCII. -/
def plainNumber (t : Text) : Text := Text.plainDigits (Text.trim Text.isUnicodeSpace t)

/-- The text without the letter that marks its base. -/
def dropBaseMark (base : Nat) : Text → Text
  | '0' :: c :: t =>
    let mark := if base = 2 then 'b' else if base = 8 then 'o' else if base = 16 then 'x' else '0'
    if mark ≠ '0' ∧ c.toLower = mark then t else '0' :: c :: t
  | t => t

/-- Reads a whole number in a base; white space around it, a sign and the mark of the base may be there. In base ten,
whether there are too many digits is seen before anything behind them. -/
def readIn (base : Nat) (content : Text) : Except Fault Int :=
  let t := plainNumber content
  let (negative, t) := match t with
    | '-' :: t => (true, t)
    | '+' :: t => (false, t)
    | t => (false, t)
  let t := dropBaseMark base t
  let digits := (t.takeWhile Char.isDigit).length
  if base = 10 ∧ maxDigits < digits then .error (.tooManyDigits digits)
  else
    match digitsIn? base t with
    | none => .error (.badInteger base content)
    | some n => .ok (if negative then -n else n)

/-- Whether there is a minus sign, and the text after the sign. An empty text has nothing that could be one. -/
def cutSign : Text → Except Fault (Bool × Text)
  | [] => .error .emptyNumber
  | '-' :: t => .ok (true, t)
  | '+' :: t => .ok (false, t)
  | t => .ok (false, t)

/-- Reads a whole number. Two letters tell base 2 and base 16, and a zero in front base 8. -/
def readInteger (content : Text) : Except Fault Int := do
  let (negative, t) ← cutSign (content.filter (· != '_'))
  let n ← match t with
    | [] => throw .emptyNumber
    | ['0'] => pure 0
    | '0' :: 'b' :: t => readIn 2 t
    | '0' :: 'x' :: t => readIn 16 t
    | '0' :: _ => readIn 8 t
    | _ =>
      if t.contains ':' then do
        let parts ← (Text.splitOn ':' t).mapM (readIn 10)
        pure (parts.foldl (fun n part => n * 60 + part) 0)
      else readIn 10 t
  return if negative then -n else n

/-- Reads digits with a point and an exponent, or one of the words for infinity and for what is not a number;
white space around them and a sign may be there. -/
def readDecimal (content : Text) : Except Fault Float :=
  let t := Text.toLower (plainNumber content)
  let (negative, t) := match t with
    | '-' :: t => (true, t)
    | '+' :: t => (false, t)
    | t => (false, t)
  let signed (x : Float) : Float := if negative then -x else x
  if t = "inf".toList ∨ t = "infinity".toList then .ok (signed (1.0 / 0.0))
  else if t = "nan".toList then .ok (0.0 / 0.0)
  else
    let whole := t.takeWhile Char.isDigit
    let t := t.dropWhile Char.isDigit
    let (fraction, t) := match t with
      | '.' :: t => (t.takeWhile Char.isDigit, t.dropWhile Char.isDigit)
      | t => ([], t)
    let exponent? : Option Int := match t with
      | [] => some 0
      | 'e' :: t =>
        let (sign, digits) : Int × Text := match t with
          | '-' :: t => (-1, t)
          | '+' :: t => (1, t)
          | t => (1, t)
        if digits.isEmpty || !digits.all Char.isDigit then none else some (sign * Text.readNat digits)
      | _ => none
    match exponent? with
    | some e =>
      if whole.isEmpty && fraction.isEmpty then .error (.badNumber content)
      else .ok (signed (Decimal.toFloat ⟨Text.readNat (whole ++ fraction), e - fraction.length⟩))
    | none => .error (.badNumber content)

/-- Parts of sixty put together, the last of them first. There may be more of them than a double has room for. -/
def sumSixtieths : (unit : Nat) → List Float → Float → Except Fault Float
  | _, [], sum => .ok sum
  | unit, x :: xs, sum =>
    if unit.toFloat.isInf then .error .tooManyParts else sumSixtieths (unit * 60) xs (sum + x * unit.toFloat)

/-- Reads a number that may have a fraction; `object` is the number of what is not a number, unless the word for that is
written. -/
def readFraction (object : Nat) (content : Text) : Except Fault Value := do
  let (negative, t) ← cutSign (Text.lower (content.filter (· != '_')))
  let x ←
    if t = ".inf".toList then pure (1.0 / 0.0)
    else if t = ".nan".toList then return .nan 0
    else if t.contains ':' then do
      let parts ← (Text.splitOn ':' t).mapM readDecimal
      sumSixtieths 1 parts.reverse 0.0
    else readDecimal t
  return .ofFloat object (if negative then -1.0 * x else x)

/-- What a character of base 64 stands for. -/
def sextet? (c : Char) : Option Nat :=
  if 'A' ≤ c ∧ c ≤ 'Z' then some (c.toNat - 'A'.toNat)
  else if 'a' ≤ c ∧ c ≤ 'z' then some (c.toNat - 'a'.toNat + 26)
  else if c.isDigit then some (c.toNat - '0'.toNat + 52)
  else if c = '+' then some 62
  else if c = '/' then some 63
  else none

/-- Reads characters of base 64 given how many came before in the group of four, the bits left over from the
last of them, and the signs that fill the group. Characters that do not belong are passed over; a group that
is filled up ends the text. -/
def readSextets? (place left pads : Nat) : Text → Option (List UInt8)
  | [] => if place = 0 then some [] else none
  | '=' :: t =>
    if 2 ≤ place ∧ 4 ≤ place + pads + 1 then some []
    else readSextets? place left (if 2 ≤ place then pads + 1 else pads) t
  | c :: t =>
    match sextet? c with
    | none => readSextets? place left pads t
    | some n =>
      match place with
      | 0 => readSextets? 1 n 0 t
      | 1 => (readSextets? 2 (n % 16) 0 t).map ((left * 4 + n / 16).toUInt8 :: ·)
      | 2 => (readSextets? 3 (n % 4) 0 t).map ((left * 16 + n / 4).toUInt8 :: ·)
      | _ => (readSextets? 0 0 0 t).map ((left * 64 + n).toUInt8 :: ·)

/-- The octets that a text in base 64 stands for. -/
def readOctets? (t : Text) : Option (List UInt8) := readSextets? 0 0 0 t

end TagDoc.Yaml

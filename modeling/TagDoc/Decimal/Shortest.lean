import TagDoc.Decimal.Binary
import TagDoc.Text.Basic

/-!
# The shortest decimal text of a double

Among the decimal fractions that read back as a given double, the text of the double shows one with the
fewest digits, and among those the nearest. The search tries one digit, two digits and so on; at each step
only the two neighbours of the value on that decimal grid can be closest to it, so only they are tried.

How the digits are laid out, with or without an exponent, is a matter of the format: see `NumberStyle`.

## Main definitions

* `Binary.shortest`: the shortest decimal fraction that reads back as a double
* `NumberStyle.write`: its text
-/

namespace TagDoc

/-- The numbers that round to a double, as quotients over one denominator: the value itself and the two
ends. The ends belong to the interval if the mantissa is even. -/
structure RoundingInterval where
  low : Nat
  value : Nat
  high : Nat
  den : Nat
  closed : Bool

/-- Below a power of two the doubles are twice as dense, so the interval reaches half as far down there. -/
def Binary.interval (b : Binary) : RoundingInterval :=
  let down := if b.mantissa = Binary.hiddenBit ∧ Binary.leastExponent < b.exponent then 1 else 2
  let (scale, den) :=
    if 2 ≤ b.exponent then (1 <<< (b.exponent - 2).toNat, 1) else (1, 1 <<< (2 - b.exponent).toNat)
  { low := (4 * b.mantissa - down) * scale
    value := 4 * b.mantissa * scale
    high := (4 * b.mantissa + 2) * scale
    den
    closed := b.mantissa % 2 = 0 }

/-- Whether a decimal fraction lies in the interval. -/
def RoundingInterval.holds (i : RoundingInterval) (d : Decimal) : Bool :=
  let (num, den) := d.quotient
  let x := num * i.den
  if i.closed then i.low * den ≤ x ∧ x ≤ i.high * den else i.low * den < x ∧ x < i.high * den

/-- The exponent of the first decimal digit of `num / den`, found by counting up from `at`. -/
def leadingExponent (num den : Nat) : (fuel : Nat) → Int → Int
  | 0, e => e
  | fuel + 1, e =>
    let (n, d) := Decimal.quotient ⟨1, e + 1⟩
    if n * den ≤ num * d then leadingExponent num den fuel (e + 1) else e

/-- The nearer of the value's two neighbours on the grid of step `10 ^ exponent`, of those that read back. -/
def RoundingInterval.onGrid? (i : RoundingInterval) (exponent : Int) : Option Decimal :=
  let (n, d) := Decimal.quotient ⟨1, exponent⟩
  let num := i.value * d
  let den := i.den * n
  -- The neighbours are the whole numbers of steps below and above the value.
  let below := num / den
  let near : Decimal := ⟨roundHalfEven num den, exponent⟩
  let far : Decimal := ⟨if near.digits = below then below + 1 else below, exponent⟩
  if i.holds near then some near else if i.holds far then some far else none

/-- The shortest decimal fraction that reads back as a positive double. Seventeen digits always do. -/
def Binary.shortest (b : Binary) : Decimal :=
  let i := b.interval
  let first := leadingExponent i.value i.den 700 (-330)
  -- Each round of the search has one digit more.
  match (List.range 17).findSome? fun (n : Nat) => i.onGrid? (first - n) with
  | some d => d
  | none => ⟨0, 0⟩

/-- How a format lays out the digits of a double: between which exponents of the first digit it writes no
exponent, and how many digits an exponent has at least. -/
structure NumberStyle where
  least : Int
  greatest : Int
  exponentWidth : Nat

/-- A fraction without an exponent. It always shows a point. -/
def writePositional (digits : Text) (first : Int) : Text :=
  if first < 0 then '0' :: '.' :: List.replicate (-first - 1).toNat '0' ++ digits
  else
    let whole := digits.take (first.toNat + 1)
    let fraction := digits.drop (first.toNat + 1)
    whole ++ List.replicate (first.toNat + 1 - whole.length) '0' ++
      '.' :: (if fraction.isEmpty then ['0'] else fraction)

/-- A fraction with an exponent; a single digit stands without a point. -/
def writeScientific (width : Nat) (digits : Text) (first : Int) : Text :=
  let exponent := Text.ofNat first.natAbs
  let fraction := digits.drop 1
  digits.take 1 ++ (if fraction.isEmpty then [] else '.' :: fraction) ++
    'e' :: (if first < 0 then '-' else '+') ::
      (List.replicate (width - exponent.length) '0' ++ exponent)

/-- The text of a finite double. -/
def NumberStyle.writeFinite (style : NumberStyle) (x : Float) : Text :=
  let b := Binary.ofFloat x
  let sign : Text := if signBit x then ['-'] else []
  if b.mantissa = 0 then sign ++ "0.0".toList
  else
    let d := b.shortest
    let digits := Text.ofNat d.digits
    let first := d.exponent + (digits.length - 1 : Nat)
    let digits := Text.stripEnd (· == '0') digits
    sign ++
      if style.least ≤ first ∧ first ≤ style.greatest then writePositional digits first
      else writeScientific style.exponentWidth digits first

/-- The text of a double, in digits or as one of the words `inf`, `-inf` and `nan`. -/
def NumberStyle.write (style : NumberStyle) (x : Float) : Text :=
  if x.isNaN then "nan".toList
  else if x.isInf then (if signBit x then "-inf" else "inf").toList
  else style.writeFinite x

end TagDoc

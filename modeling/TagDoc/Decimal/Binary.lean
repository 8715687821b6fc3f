/-!
# Binary fractions and decimal fractions

A finite double stands for the number `mantissa * 2 ^ exponent`. This module takes a double apart into
these two, and finds the double nearest to a decimal fraction. Both work on whole numbers only, so nothing
is rounded on the way.

## Main definitions

* `Binary.ofFloat`: the number that a finite double stands for, without its sign
* `Decimal.toFloat`: the double nearest to `digits * 10 ^ exponent`
-/

namespace TagDoc

/-- The number `mantissa * 2 ^ exponent`. -/
structure Binary where
  mantissa : Nat
  exponent : Int
  deriving DecidableEq, Repr

namespace Binary

/-- The least exponent of a double. -/
def leastExponent : Int := -1074

/-- The bit of the mantissa that a double does not store, unless it has the least exponent: two to the power of 52. -/
def hiddenBit : Nat := 0x10000000000000

/-- What a finite double stands for, without its sign. -/
def ofFloat (x : Float) : Binary :=
  let bits := x.toBits.toNat
  let field := bits / hiddenBit % 0x800
  let fraction := bits % hiddenBit
  if field = 0 then ⟨fraction, leastExponent⟩ else ⟨hiddenBit + fraction, leastExponent + (field - 1 : Nat)⟩

/-- The number as a quotient of two whole numbers, the second of them positive. -/
def quotient (b : Binary) : Nat × Nat :=
  if 0 ≤ b.exponent then (b.mantissa <<< b.exponent.toNat, 1) else (b.mantissa, 1 <<< (-b.exponent).toNat)

end Binary

/-- Whether a double has its sign bit set; the zero with a minus sign has. -/
def signBit (x : Float) : Bool := 0x8000000000000000 ≤ x.toBits.toNat

/-- The whole number nearest to `num / den`; a tie goes to the even one. -/
def roundHalfEven (num den : Nat) : Nat :=
  let floor := num / den
  let twice := 2 * (num % den)
  if den < twice ∨ (twice = den ∧ floor % 2 = 1) then floor + 1 else floor

/-- The number `digits * 10 ^ exponent`. -/
structure Decimal where
  digits : Nat
  exponent : Int
  deriving DecidableEq, Repr

namespace Decimal

/-- The number as a quotient of two whole numbers, the second of them positive. -/
def quotient (d : Decimal) : Nat × Nat :=
  if 0 ≤ d.exponent then (d.digits * Nat.pow 10 d.exponent.toNat, 1) else (d.digits, Nat.pow 10 (-d.exponent).toNat)

/-- The bit pattern of infinity, the first that stands for no finite number. -/
def infinityBits : Nat := 0x7FF0000000000000

/-- The bit pattern of the nearest double to `num / den`: the mantissa has 53 bits, or fewer at the least
exponent, and a mantissa that rounds up to 54 bits moves on to the next exponent by itself. -/
def nearestBits (num den : Nat) : Nat :=
  -- The estimate leaves 53 or 54 bits before the point; one bit too many moves the exponent up.
  let estimate : Int := (num.log2 : Int) - den.log2 - 53
  let scaled (q : Int) : Nat × Nat :=
    if 0 ≤ q then (num, den <<< q.toNat) else (num <<< (-q).toNat, den)
  let (n, d) := scaled estimate
  let q := max Binary.leastExponent (if 2 * Binary.hiddenBit ≤ n / d then estimate + 1 else estimate)
  let (n, d) := scaled q
  min infinityBits ((q - Binary.leastExponent).toNat * Binary.hiddenBit + roundHalfEven n d)

/-- The double nearest to a decimal fraction. A fraction beyond every double is infinite, and one too small
for any is zero; neither is spelled out in digits first. -/
def toFloat (d : Decimal) : Float :=
  if d.digits = 0 then 0.0
  else
    let size : Int := d.digits.log2 * 3 / 10 + d.exponent
    if 400 < size then Float.ofBits infinityBits.toUInt64
    else if size < -(500 + d.digits.log2 : Int) then 0.0
    else
      let (num, den) := d.quotient
      Float.ofBits (nearestBits num den).toUInt64

end Decimal

end TagDoc

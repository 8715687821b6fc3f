import Mathlib
import TagDoc.Value.Basic

/-!
# What doubles are worth

A finite double stands for a rational number, and for each number there is at most one mantissa and one exponent that a
double can have. So to compare doubles is to compare what they are worth: the two zeros are the same number, and so is a
double and a whole number that it is worth.

## Main definitions

* `Binary.toRat`, `Binary.Canonical`: the number that a mantissa and an exponent stand for, and those that a double has
* `Worth`, `Worth.ofFloat`: what a double is worth

## Main results

* `Binary.Canonical.ext`: a number has one mantissa and one exponent
* `unpacks`: what a double is unpacked to, told by its bits
* `sameFloat_iff`, `floatIsInt_iff`: doubles, and doubles and whole numbers, are compared by what they are worth
-/

namespace TagDoc

open Float.Model Float.Model.UnpackedFloat

/-! ### One way to write a number -/

namespace Binary

variable {b c : Binary}

/-- The number that a mantissa and an exponent stand for. -/
def toRat (b : Binary) : ℚ := b.mantissa * 2 ^ b.exponent

/-- The mantissa fits, and the exponent is the least with which it does. -/
structure Canonical (b : Binary) : Prop where
  mantissa_lt : b.mantissa < 2 * hiddenBit
  least_le : leastExponent ≤ b.exponent
  normal : b.exponent = leastExponent ∨ hiddenBit ≤ b.mantissa

theorem canonical_ofFloat (x : Float) : (ofFloat x).Canonical := by
  have hfraction : x.toBits.toNat % hiddenBit < hiddenBit := Nat.mod_lt _ (by decide)
  rw [ofFloat]
  split
  · exact ⟨by dsimp only; omega, le_rfl, .inl rfl⟩
  · exact ⟨by dsimp only; omega, by dsimp only; omega, .inr (by dsimp only; omega)⟩

theorem toRat_pos {mantissa : Nat} (h : 0 < mantissa) (exponent : Int) : 0 < toRat ⟨mantissa, exponent⟩ :=
  mul_pos (Nat.cast_pos.2 h) (zpow_pos two_pos exponent)

theorem toRat_eq_zero (h : b.mantissa = 0) : b.toRat = 0 := by
  rw [toRat, h, Nat.cast_zero, zero_mul]

/-- The quotient is the number. -/
theorem cast_quotient (b : Binary) : (b.quotient.1 : ℚ) = b.toRat * b.quotient.2 := by
  rw [quotient, toRat]
  split
  · rename_i hexponent
    have hpow : (2 : ℚ) ^ b.exponent = 2 ^ b.exponent.toNat := by
      rw [← zpow_natCast, Int.toNat_of_nonneg hexponent]
    simp [Nat.shiftLeft_eq, hpow]
  · rename_i hexponent
    have hpow : (2 : ℚ) ^ b.exponent * 2 ^ (-b.exponent).toNat = 1 := by
      rw [← zpow_natCast, ← zpow_add₀ two_ne_zero, Int.toNat_of_nonneg (by omega), add_neg_cancel, zpow_zero]
    simp [Nat.shiftLeft_eq, mul_assoc, hpow]

theorem quotient_ne_zero (b : Binary) : b.quotient.2 ≠ 0 := by
  rw [quotient]
  split
  · exact one_ne_zero
  · simp [Nat.shiftLeft_eq]

/-- Of two ways to write a number the one with the larger exponent has the smaller mantissa. -/
theorem mantissa_eq_of_toRat_eq (h : b.toRat = c.toRat) (hle : b.exponent ≤ c.exponent) :
    b.mantissa = c.mantissa * 2 ^ (c.exponent - b.exponent).toNat := by
  have hpow : (2 : ℚ) ^ c.exponent = 2 ^ (c.exponent - b.exponent).toNat * 2 ^ b.exponent := by
    rw [← zpow_natCast, ← zpow_add₀ two_ne_zero, Int.toNat_of_nonneg (by omega), sub_add_cancel]
  rw [toRat, toRat, hpow, ← mul_assoc] at h
  have hcancel := mul_right_cancel₀ (zpow_ne_zero _ two_ne_zero) h
  exact_mod_cast hcancel

namespace Canonical

/-- With a larger exponent the other mantissa would be too large. -/
theorem exponent_le (hb : b.Canonical) (hc : c.Canonical) (h : b.toRat = c.toRat) : c.exponent ≤ b.exponent := by
  by_contra hlt
  have hmantissa := mantissa_eq_of_toRat_eq h (Int.le_of_lt (Int.not_le.1 hlt))
  have htwo : 2 ^ 1 ≤ 2 ^ (c.exponent - b.exponent).toNat := Nat.pow_le_pow_right (by decide) (by omega)
  have hlarge : hiddenBit ≤ c.mantissa := hc.normal.resolve_left fun hleast => hlt (hleast ▸ hb.least_le)
  have hproduct := Nat.mul_le_mul hlarge htwo
  have hsmall := hb.mantissa_lt
  omega

/-- There is one way to write a number. -/
theorem ext (hb : b.Canonical) (hc : c.Canonical) (h : b.toRat = c.toRat) : b = c := by
  have hexponent : b.exponent = c.exponent := le_antisymm (hc.exponent_le hb h.symm) (hb.exponent_le hc h)
  have hmantissa := mantissa_eq_of_toRat_eq h hexponent.le
  rw [hexponent, sub_self, Int.toNat_zero, pow_zero, mul_one] at hmantissa
  cases b
  cases c
  exact congrArg₂ Binary.mk hmantissa hexponent

end Canonical

end Binary

/-! ### The parts of a double -/

variable {x y : Float} {u v : UnpackedFloat} {s s' : Sign}

/-- The sign of a double. -/
def signOf (x : Float) : Sign := if signBit x then .negative else .positive

/-- The bits of a double that are for its mantissa. -/
def fractionBits (x : Float) : BitVec 52 := @unpackMantissa .binary64 x.toModel.toBits.toBitVec

/-- The bits of a double that are for its exponent. -/
def exponentBits (x : Float) : BitVec 11 := @unpackExponent .binary64 x.toModel.toBits.toBitVec

theorem toNat_fractionBits (x : Float) : (fractionBits x).toNat = x.toBits.toNat % Binary.hiddenBit := by
  simp [fractionBits, unpackMantissa, BitVec.extractLsb_toNat, Binary.hiddenBit, Float.toBits]

theorem toNat_exponentBits (x : Float) : (exponentBits x).toNat = x.toBits.toNat / Binary.hiddenBit % 0x800 := by
  simp [exponentBits, unpackExponent, BitVec.extractLsb_toNat, Binary.hiddenBit, Nat.shiftRight_eq_div_pow, Float.toBits]

theorem ofBitVec_unpackSign (x : Float) :
    Sign.ofBitVec (@unpackSign .binary64 x.toModel.toBits.toBitVec) = signOf x := by
  have hbits : x.toBits.toNat < 2 ^ 64 := x.toModel.toBits.toBitVec.isLt
  have hsign : (@unpackSign .binary64 x.toModel.toBits.toBitVec).toNat = x.toBits.toNat / 0x8000000000000000 := by
    simp [unpackSign, BitVec.extractLsb_toNat, Nat.shiftRight_eq_div_pow, Float.toBits] at hbits ⊢
    omega
  have hzero : @unpackSign .binary64 x.toModel.toBits.toBitVec = 0#1 ↔ ¬ 0x8000000000000000 ≤ x.toBits.toNat := by
    rw [← BitVec.toNat_inj, hsign]
    exact (Nat.div_eq_zero_iff_lt (by decide)).trans Nat.not_le.symm
  by_cases h : 0x8000000000000000 ≤ x.toBits.toNat
  · rw [Sign.ofBitVec, if_neg (mt hzero.1 (not_not.2 h)), signOf, signBit, decide_eq_true h, if_pos rfl]
  · rw [Sign.ofBitVec, if_pos (hzero.2 h), signOf, signBit, decide_eq_false h, if_neg Bool.false_ne_true]

theorem ofFloat_of_eq_zero (h : exponentBits x = 0#11) : Binary.ofFloat x = ⟨(fractionBits x).toNat, -1074⟩ := by
  have hfield : x.toBits.toNat / Binary.hiddenBit % 0x800 = 0 := by
    rw [← toNat_exponentBits, h]
    rfl
  rw [Binary.ofFloat, if_pos hfield, toNat_fractionBits]
  rfl

theorem ofFloat_of_ne_zero (h : exponentBits x ≠ 0#11) :
    Binary.ofFloat x = ⟨(1#1 ++ fractionBits x).toNat, (exponentBits x).toNat - 1075⟩ := by
  have hfield : x.toBits.toNat / Binary.hiddenBit % 0x800 ≠ 0 := by
    rw [← toNat_exponentBits]
    exact fun hzero => h (BitVec.eq_of_toNat_eq hzero)
  have hmantissa : (1#1 ++ fractionBits x).toNat = Binary.hiddenBit + (fractionBits x).toNat := by
    rw [BitVec.toNat_append, ← Nat.shiftLeft_add_eq_or_of_lt (fractionBits x).isLt]
    rfl
  rw [Binary.ofFloat, if_neg hfield, hmantissa, toNat_fractionBits, toNat_exponentBits]
  simp only [Binary.leastExponent, Binary.mk.injEq, true_and]
  omega

/-- What a double can be unpacked to. -/
inductive Unpacks (x : Float) : UnpackedFloat → Prop
  | notANumber : Unpacks x .notANumber
  | infinity : Unpacks x (.infinity (signOf x))
  | zero (h : (Binary.ofFloat x).mantissa = 0) : Unpacks x (.zero (signOf x))
  | finite {mantissa : Nat} {exponent : Int} (hpos : 0 < mantissa) (h : Binary.ofFloat x = ⟨mantissa, exponent⟩) :
      Unpacks x (.finite (signOf x) mantissa exponent hpos)

theorem unpacks (x : Float) : Unpacks x x.toModel.unpack := by
  rw [Float.Model.unpack, UnpackedFloat.unpack, ofBitVec_unpackSign]
  split
  · split
    · exact .infinity
    · exact .notANumber
  · split
    · rename_i hzero
      have hfloat := ofFloat_of_eq_zero (x := x) hzero
      split
      · rename_i hfraction
        refine .zero ?_
        rw [hfloat]
        exact congrArg BitVec.toNat hfraction
      · refine .finite _ (hfloat.trans ?_)
        rw [hzero]
        rfl
    · rename_i hone
      exact .finite _ (ofFloat_of_ne_zero (x := x) hone)

/-! ### What a double is worth -/

/-- What a double is worth: a number, an infinity, or nothing that is a number. -/
inductive Worth where
  | number (q : ℚ)
  | infinite (sign : Sign)
  | notNumber

namespace Worth

/-- A number with a sign before it. -/
def signed : Sign → ℚ → ℚ
  | .negative, q => -q
  | .positive, q => q

/-- What the unpacked form of a double is worth. -/
def ofUnpacked : UnpackedFloat → Worth
  | .notANumber => notNumber
  | .infinity sign => infinite sign
  | .zero _ => number 0
  | .finite sign mantissa exponent _ => number (signed sign (Binary.toRat ⟨mantissa, exponent⟩))

/-- What a double is worth. -/
def ofFloat (x : Float) : Worth := ofUnpacked x.toModel.unpack

variable {q q' : ℚ}

theorem signed_zero (s : Sign) : signed s 0 = 0 := by
  cases s with
  | negative => exact neg_zero
  | positive => rfl

theorem signed_ne_zero (hq : 0 < q) : signed s q ≠ 0 := by
  cases s with
  | negative => exact neg_ne_zero.2 hq.ne'
  | positive => exact hq.ne'

theorem signed_inj (hq : 0 < q) (hq' : 0 < q') : signed s q = signed s' q' ↔ s = s' ∧ q = q' := by
  cases s <;> cases s' <;> simp only [signed, neg_inj, reduceCtorEq, false_and, true_and, iff_false]
  · exact ((neg_lt_zero.2 hq).trans hq').ne
  · exact ((neg_lt_zero.2 hq').trans hq).ne'

end Worth

/-! ### Comparing doubles -/

theorem beq_infinity_iff : (UnpackedFloat.infinity s).beq (.infinity s') = true ↔ s = s' := by
  cases s <;> cases s' <;> simp [UnpackedFloat.beq, UnpackedFloat.compare] <;> rfl

theorem beq_finite_iff {mantissa mantissa' : Nat} {exponent exponent' : Int} {h : 0 < mantissa} {h' : 0 < mantissa'} :
    (UnpackedFloat.finite s mantissa exponent h).beq (.finite s' mantissa' exponent' h') = true ↔
      s = s' ∧ mantissa = mantissa' ∧ exponent = exponent' := by
  cases s <;> cases s' <;> simp [UnpackedFloat.beq, UnpackedFloat.compare, and_comm]

/-- Unpacked doubles are compared by what they are worth. -/
theorem beq_iff_worth (hu : Unpacks x u) (hv : Unpacks y v) :
    (u.beq v || (u.isNaN && v.isNaN)) = true ↔ Worth.ofUnpacked u = Worth.ofUnpacked v := by
  cases hu <;> cases hv
  case infinity.infinity => simp [Worth.ofUnpacked, beq_infinity_iff, UnpackedFloat.isNaN]
  case finite.finite hpos h _ _ hpos' h' =>
    -- There is one mantissa and one exponent for the number that both are worth.
    have hx := Binary.canonical_ofFloat x
    have hy := Binary.canonical_ofFloat y
    rw [h] at hx
    rw [h'] at hy
    simp only [Worth.ofUnpacked, UnpackedFloat.isNaN, Bool.and_false, Bool.or_false, beq_finite_iff,
      Worth.number.injEq, Worth.signed_inj (Binary.toRat_pos hpos _) (Binary.toRat_pos hpos' _)]
    refine and_congr_right fun _ => ⟨?_, fun hworth => Binary.mk.inj (hx.ext hy hworth)⟩
    rintro ⟨rfl, rfl⟩
    rfl
  case zero.finite hpos _ =>
    cases signOf y <;>
      simp [Worth.ofUnpacked, UnpackedFloat.beq, UnpackedFloat.compare, UnpackedFloat.isNaN,
        (Worth.signed_ne_zero (Binary.toRat_pos hpos _)).symm]
  case finite.zero hpos _ _ =>
    cases signOf x <;>
      simp [Worth.ofUnpacked, UnpackedFloat.beq, UnpackedFloat.compare, UnpackedFloat.isNaN,
        Worth.signed_ne_zero (Binary.toRat_pos hpos _)]
  -- What is left are two zeros, two that are not numbers, and two of different kinds.
  all_goals
    cases signOf x <;> cases signOf y <;>
      simp [Worth.ofUnpacked, UnpackedFloat.beq, UnpackedFloat.compare, UnpackedFloat.isNaN]

/-- Doubles are the same key if they are worth the same. -/
theorem sameFloat_iff : (x == y || (x.isNaN && y.isNaN)) = true ↔ Worth.ofFloat x = Worth.ofFloat y :=
  beq_iff_worth (unpacks x) (unpacks y)

/-- A double is a whole number if it is worth that number. -/
theorem floatIsInt_iff {n : Int} : Value.floatIsInt x n = true ↔ Worth.ofFloat x = .number n := by
  have hden : ((Binary.ofFloat x).quotient.2 : ℚ) ≠ 0 := Nat.cast_ne_zero.2 (Binary.quotient_ne_zero _)
  have hcross : Worth.signed (signOf x) (Binary.ofFloat x).toRat = (n : ℚ) ↔
      (if signBit x then -((Binary.ofFloat x).quotient.1 : Int) else (Binary.ofFloat x).quotient.1) =
        n * ((Binary.ofFloat x).quotient.2 : Int) := by
    rw [← mul_left_inj' hden, ← Int.cast_inj (α := ℚ), signOf]
    push_cast
    cases signBit x <;> simp [Worth.signed, Binary.cast_quotient]
  have hx := unpacks x
  have hnan : x.isNaN = x.toModel.unpack.isNaN := rfl
  have hinf : x.isInf = x.toModel.unpack.isInf := rfl
  rw [Value.floatIsInt, hnan, hinf, Worth.ofFloat]
  simp only [Bool.and_eq_true, beq_iff_eq, ← hcross]
  generalize x.toModel.unpack = u at hx ⊢
  cases hx with
  | notANumber => simp [UnpackedFloat.isNaN, Worth.ofUnpacked]
  | infinity => simp [UnpackedFloat.isInf, Worth.ofUnpacked]
  | zero h => simp [UnpackedFloat.isNaN, UnpackedFloat.isInf, Worth.ofUnpacked, Binary.toRat_eq_zero h, Worth.signed_zero]
  | finite hpos h => simp [UnpackedFloat.isNaN, UnpackedFloat.isInf, Worth.ofUnpacked, h]

end TagDoc

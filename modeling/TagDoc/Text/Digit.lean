import TagDoc.Text.Basic

/-!
# Digits of all scripts

The decimal digits of every script stand one after the other, from zero to nine, as Unicode 14 has them.

## Main definitions

* `Text.decimal?`: what a decimal digit stands for
* `Text.plainDigits`: a text with its decimal digits written in ASCII
-/

namespace TagDoc.Text

/-- The zeros of all scripts, by their code points. -/
def zeros : List Nat :=
  (["30 660 6F0 7C0 966 9E6 A66 AE6 B66 BE6 C66 CE6 D66 DE6 E50 ED0 F20 1040 1090 17E0 1810 1946 19D0",
    "1A80 1A90 1B50 1BB0 1C40 1C50 A620 A8D0 A900 A9D0 A9F0 AA50 ABF0 FF10 104A0 10D30 11066 110F0",
    "11136 111D0 112F0 11450 114D0 11650 116C0 11730 118E0 11950 11C50 11D50 11DA0 16A60 16AC0 16B50",
    "1D7CE 1D7D8 1D7E2 1D7EC 1D7F6 1E140 1E2F0 1E950 1FBF0"]).flatMap fun row => (splitOn ' ' row.toList).map readHex

/-- What a decimal digit stands for. -/
def decimal? (c : Char) : Option Nat :=
  if c.toNat < 128 then if c.isDigit then some (c.toNat - 0x30) else none
  else (zeros.find? fun first => first ≤ c.toNat && c.toNat < first + 10).map (c.toNat - ·)

/-- Whether a character is a decimal digit of some script. -/
def isDecimal (c : Char) : Bool := (decimal? c).isSome

/-- A text with its decimal digits written in ASCII. -/
def plainDigits (t : Text) : Text := t.map fun c => ((decimal? c).map fun n => Char.ofNat (0x30 + n)).getD c

end TagDoc.Text

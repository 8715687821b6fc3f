import TagDoc.Text.Basic

/-!
# Punycode

A label of a host name in ASCII letters, digits and hyphens that stands for one in any characters (RFC 3492).
The ASCII characters come first; then follow, in rising order of the characters left out, the distances
between their insertions, as numbers with digits of changing weight.

## Main definitions

* `Text.toPunycode`: the letters for a label
* `Text.ofPunycode?`: the label that letters stand for
-/

namespace TagDoc.Text.Punycode

/-- The letter for a digit below 36. -/
def digitChar (d : Nat) : Char := if d < 26 then Char.ofNat (97 + d) else Char.ofNat (22 + d)

/-- The digit that a letter stands for. -/
def digitValue? (c : Char) : Option Nat :=
  if c.isAlpha then some (c.toLower.toNat - 97) else if c.isDigit then some (c.toNat - 22) else none

/-- The digit from which on a number goes on, for the digit at weight `k`. -/
def threshold (k bias : Nat) : Nat := if k ≤ bias then 1 else if bias + 26 ≤ k then 26 else k - bias

/-- Divides by 35 until at most 455 is left; the bias grows by 36 each time. -/
def damp (delta k : Nat) : Nat :=
  if 455 < delta then damp (delta / 35) (k + 36) else k + 36 * delta / (delta + 38)
termination_by delta

/-- The bias after a distance, when `count` characters are in place. -/
def adapt (delta count : Nat) (first : Bool) : Nat :=
  let delta := if first then delta / 700 else delta / 2
  damp (delta + delta / count) 0

/-- The letters for a number. -/
def writeNumber (bias : Nat) : (fuel k q : Nat) → Text
  | 0, _, _ => []
  | fuel + 1, k, q =>
    let t := threshold k bias
    if q < t then [digitChar q]
    else digitChar (t + (q - t) % (36 - t)) :: writeNumber bias fuel (k + 36) ((q - t) / (36 - t))

/-- What is kept while a label is written: the distance since the last letter, the bias, and how many characters
are in place. -/
structure Progress where
  delta : Nat
  bias : Nat
  count : Nat

/-- Writes the insertions of `c`, which are found in passing through the label. -/
def writeInsertions (c : Char) (basics : Nat) : Text → Progress → Text × Progress
  | [], p => ([], p)
  | d :: label, p =>
    if d < c then writeInsertions c basics label { p with delta := p.delta + 1 }
    else if d = c then
      let written := writeNumber p.bias (p.delta + 1) 36 p.delta
      let (more, p) := writeInsertions c basics label
        ⟨0, adapt p.delta (p.count + 1) (p.count == basics), p.count + 1⟩
      (written ++ more, p)
    else writeInsertions c basics label p

/-- Writes the insertions of characters in rising order; those below `next` are in place. -/
def writeAll (label : Text) (basics : Nat) : (next : Nat) → List Char → Progress → Text
  | _, [], _ => []
  | next, c :: cs, p =>
    -- Every character that is skipped counts once for each place where it could stand.
    let p := { p with delta := p.delta + (c.toNat - next) * (p.count + 1) }
    let (written, p) := writeInsertions c basics label p
    written ++ writeAll label basics (c.toNat + 1) cs { p with delta := p.delta + 1 }

/-- The number that letters stand for, its weight so far being `w`, and the letters after it. -/
def readNumber? (bias : Nat) : (k w value : Nat) → Text → Option (Nat × Text)
  | _, _, _, [] => none
  | k, w, value, c :: letters => do
    let d ← digitValue? c
    let value := value + d * w
    let t := threshold k bias
    if d < t then some (value, letters) else readNumber? bias (k + 36) (w * (36 - t)) value letters

/-- Inserts the characters that letters tell into a label. `next` is the character to be inserted, and
`place` where the count of places goes on. -/
def readAll? (first : Bool) : (fuel bias next place : Nat) → (label letters : Text) → Option Text
  | 0, _, _, _, label, _ => some label
  | _, _, _, _, label, [] => some label
  | fuel + 1, bias, next, place, label, letters => do
    let (delta, letters) ← readNumber? bias 36 1 0 letters
    let count := label.length + 1
    -- The distance runs through all places for one character before it comes to the next.
    let next := next + (place + delta) / count
    let place := (place + delta) % count
    if next.isValidChar then
      readAll? false fuel (adapt delta count first) next (place + 1)
        (label.take place ++ Char.ofNat next :: label.drop place) letters
    else none

end Punycode

open Punycode

/-- Whether a character is of ASCII. -/
def isAscii (c : Char) : Bool := c.toNat < 128

/-- The letters for a label. -/
def toPunycode (label : Text) : Text :=
  let basics := label.filter isAscii
  let others := ((label.filter fun c => !isAscii c).mergeSort (fun a b => a ≤ b)).eraseDups
  (if basics.isEmpty then [] else basics ++ ['-']) ++
    writeAll label basics.length 128 others ⟨0, 72, basics.length⟩

/-- The label that letters stand for. -/
def ofPunycode? (letters : Text) : Option Text :=
  if letters.all isAscii then
    let tail := letters.reverse.takeWhile (· != '-')
    let basics := letters.take (letters.length - tail.length - 1)
    readAll? true letters.length 72 128 0 basics tail.reverse
  else none

end TagDoc.Text

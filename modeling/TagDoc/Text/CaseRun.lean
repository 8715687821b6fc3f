import TagDoc.Text.Basic

/-!
# Runs of case mappings

Most letters lie as far away from their small or capital form as their neighbours do, or as every second one of these
does, so that a table of runs tells a case mapping.

## Main definitions

* `Text.CaseRun`
* `Text.CaseRun.ofRows`: the runs that rows of text tell
-/

namespace TagDoc.Text

/-- A run of characters at equal steps whose mappings lie equally far away. -/
structure CaseRun where
  first : Nat
  count : Nat
  step : Nat
  offset : Int

/-- Whether a code point belongs to the run. -/
def CaseRun.covers (r : CaseRun) (n : Nat) : Bool :=
  r.first ≤ n && (n - r.first) % r.step == 0 && (n - r.first) / r.step < r.count

/-- What a code point of the run is mapped to. -/
def CaseRun.map (r : CaseRun) (n : Nat) : Char := Char.ofNat (n + r.offset).toNat

/-- The runs in rows, each as its first code point in hexadecimal, its length, its step and its offset. -/
def CaseRun.ofRows (rows : List String) : List CaseRun :=
  rows.flatMap fun row => (splitOn ' ' row.toList).map fun run =>
    match splitOn ':' run with
    | [first, count, step, '-' :: offset] => ⟨readHex first, readNat count, readNat step, -readNat offset⟩
    | [first, count, step, offset] => ⟨readHex first, readNat count, readNat step, readNat offset⟩
    | _ => ⟨0, 0, 1, 0⟩

end TagDoc.Text

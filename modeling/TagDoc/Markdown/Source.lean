import TagDoc.Markdown.Escape

/-!
# Sources

A text in which positions are looked up: positions count characters from the start, and one at the end or
past it holds no character.

## Main definitions

* `Source.slice`: the text between two positions
* `Source.skip`: the position after a run of characters
* `Source.holds`: whether a text stands at a position
-/

namespace TagDoc.Markdown

/-- A text in which positions are looked up. -/
abbrev Source := Array Char

namespace Source

/-- The text between two positions. -/
def slice (s : Source) (start stop : Nat) : Text := (s.extract start stop).toList

/-- Whether the character at a position is in `p`. -/
def has (p : Char → Bool) (s : Source) (pos : Nat) : Bool := s[pos]?.any p

/-- The position after a run of characters of `p`; the run ends at `stop` at the latest. -/
def skip (p : Char → Bool) (s : Source) (stop pos : Nat) : Nat :=
  if pos < stop then
    match s[pos]? with
    | some c => if p c then skip p s stop (pos + 1) else pos
    | none => pos
  else pos
termination_by stop - pos

/-- Whether a text stands at a position. -/
def holds (s : Source) (pos : Nat) : Text → Bool
  | [] => true
  | c :: t => s[pos]? == some c && holds s (pos + 1) t

/-- The position after the first occurrence of a text from `pos` on. -/
def find? (s : Source) (t : Text) (pos : Nat) : Option Nat :=
  if pos < s.size then
    if holds s pos t then some (pos + t.length) else find? s t (pos + 1)
  else none
termination_by s.size - pos

end Source

end TagDoc.Markdown

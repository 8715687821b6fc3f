import TagDoc.Markdown.Inline

/-!
# Delimiters

A run of asterisks, underscores or tildes can open an extent of emphasis, close one, or both, by what stands around it.
Every closing delimiter is paired with the nearest one before it that opens and goes with it; what stands between
the two is then out of reach for others.

## Main definitions

* `Delimiter`
* `flanking`: whether a run can open and close
* `pairDelimiters`: the pairs of delimiters
* `resolve`: pieces in which pairs of delimiters have become extents
-/

namespace TagDoc.Markdown

/-- A delimiter: its character, the length of the run it stands in if that matters, which piece it is, and whether
it can open and close. -/
structure Delimiter where
  mark : Char
  run : Nat
  place : Nat
  opens : Bool
  closes : Bool
  deriving Repr, Inhabited

/-- Whether a run between two characters can open and close an extent. An underscore cannot do so within a word. -/
def flanking (before after : Char) (splitsWords : Bool) : Bool × Bool :=
  -- A mark after the run counts as part of a word only if the run itself does not follow a word.
  let left := !(isGap after || (isMark after && !(isGap before || isMark before)))
  let right := !(isGap before || (isMark before && !(isGap after || isMark after)))
  (left && (splitsWords || !right || isMark before), right && (splitsWords || !left || isMark after))

/-- Whether two delimiters go together. Tildes stand in runs of the same length. If one of two others can both open and
close, the lengths of their runs are not to add up to a multiple of three, unless both are one. -/
def Delimiter.pairsWith (opener closer : Delimiter) : Bool :=
  opener.mark == closer.mark && opener.opens && (opener.mark != '~' || opener.run == closer.run) &&
    !((opener.closes || closer.opens) && (opener.run + closer.run) % 3 == 0 &&
      (opener.run % 3 != 0 || closer.run % 3 != 0))

/-- Pairing in progress: the delimiters that can still open, the last first, each with its number; the number at which
the current run starts; the delimiter before, if a run can go on after it; and the pairs so far. -/
structure Pairing where
  waiting : List (Nat × Delimiter)
  start : Nat
  last : Option Delimiter
  pairs : List (Nat × Nat)

/-- The opener for a closing delimiter among those that wait, and those before it. An opener of the same run is passed
over. -/
def findOpener? (start : Nat) (closer : Delimiter) : List (Nat × Delimiter) → Option (Nat × List (Nat × Delimiter))
  | [] => none
  | (i, d) :: waiting =>
    if i < start && d.pairsWith closer then some (i, waiting) else findOpener? start closer waiting

/-- Pairs the delimiter of number `i` if it can be. -/
def Pairing.add (p : Pairing) (i : Nat) (d : Delimiter) : Pairing :=
  -- Neighbours with the same mark make a run, unless the one before has just been paired.
  let start := if p.last.any fun e => e.mark == d.mark && e.place + 1 == d.place then p.start else i
  match if d.closes then findOpener? start d p.waiting else none with
  | some (opener, waiting) => ⟨waiting, start, none, (opener, i) :: p.pairs⟩
  | none => ⟨if d.opens then (i, d) :: p.waiting else p.waiting, start, some d, p.pairs⟩

/-- The pairs of delimiters, by their numbers. -/
def pairDelimiters (ds : List Delimiter) : List (Nat × Nat) :=
  (ds.zipIdx.foldl (fun (p : Pairing) (d, i) => p.add i d) ⟨[], 0, none, []⟩).pairs

/-- A piece takes the place of another. -/
def putPiece (pieces : Array Piece) (place : Nat) (piece : Piece) : Array Piece := pieces.setIfInBounds place piece

/-- Puts an extent from one place to another. -/
def putExtent (pieces : Array Piece) (first last : Nat) (e : Extent) : Array Piece :=
  putPiece (putPiece pieces first (.opens e)) last (.closes e)

/-- The place before the first from `place` on where no strikethrough ends. -/
def lastStruck (pieces : Array Piece) (place : Nat) : Nat :=
  if h : place + 1 < pieces.size then
    match pieces[place + 1] with
    | .closes .strikethrough => lastStruck pieces (place + 1)
    | _ => place
  else place
termination_by pieces.size - place

/-- Moves a single tilde behind the ends of strikethrough after it. -/
def moveTilde (pieces : Array Piece) (place : Nat) : Array Piece :=
  let last := lastStruck pieces place
  match pieces[last]? with
  | some p => putPiece (putPiece pieces place p) last (.text ['~'])
  | none => pieces

/-- Pairs of tildes become strikethrough. A tilde that is left over before a closing pair goes behind it. -/
def putStrikes (ds : Array Delimiter) (pairs : List (Nat × Nat)) (pieces : Array Piece) : Array Piece :=
  let places := pairs.filterMap fun (i, j) => do
    let opener ← ds[i]?
    let closer ← ds[j]?
    if opener.mark == '~' then some (opener.place, closer.place) else none
  let struck := places.foldl (fun ps (i, j) => putExtent ps i j .strikethrough) pieces
  -- Only now is it known which tildes stand before the end of strikethrough.
  let lone := places.filterMap fun (_, j) => match struck[j - 1]? with
    | some (.text ['~']) => some (j - 1)
    | _ => none
  lone.foldl moveTilde struck

/-- Pairs of asterisks and underscores become emphasis, from the last opener to the first. Two neighbouring pairs with
the same mark make one strong extent. -/
def putEmphasis (ds : Array Delimiter) (ends : Nat → Option Nat) (i : Nat) (pieces : Array Piece) : Array Piece :=
  match i with
  | 0 => pieces
  | i + 1 =>
    match ends i, ds[i]? with
    | some j, some opener =>
      match ds[j]? with
      | some closer =>
        if opener.mark == '~' then putEmphasis ds ends i pieces
        else
          -- The pair around this one, if both of its ends could touch the ends of this one.
          let outer := if 0 < i && ends (i - 1) == some (j + 1) then (ds[i - 1]?, ds[j + 1]?) else (none, none)
          match outer with
          | (some before, some after) =>
            if before.mark == opener.mark && before.place + 1 == opener.place && after.place == closer.place + 1 then
              let pieces := putExtent pieces opener.place closer.place .strong
              putEmphasis ds ends (i - 1) (putPiece (putPiece pieces before.place (.text [])) after.place (.text []))
            else putEmphasis ds ends i (putExtent pieces opener.place closer.place .emphasis)
          | _ => putEmphasis ds ends i (putExtent pieces opener.place closer.place .emphasis)
      | none => putEmphasis ds ends i pieces
    | _, _ => putEmphasis ds ends i pieces
termination_by i

/-- Pieces in which pairs of delimiters have become extents. -/
def resolve (ds : Array Delimiter) (pieces : Array Piece) : Array Piece :=
  let pairs := pairDelimiters ds.toList
  let ends := pairs.foldl (fun (a : Array (Option Nat)) (i, j) => a.setIfInBounds i (some j)) (Array.replicate ds.size none)
  putEmphasis ds (fun i => (ends[i]?).join) ds.size (putStrikes ds pairs pieces)

end TagDoc.Markdown

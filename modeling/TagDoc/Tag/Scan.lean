import TagDoc.Tag.Reading

/-!
# Scanning a document

A document is cut into spans: its tags, and the plain text between them. A tag opens at the start of a line,
and what follows it on the line on which it ends is plain text. Each line is looked at once, and a line that
opens no tag is plain.

The spans are contiguous, and no two plain ones meet: `scan` joins them.

## Main definitions

* `readSpans`: the spans of a document, plain text in single lines
* `joinPlain`: neighbouring plain spans become one
* `scan`: the chunks of a document, which are spans with their positions

## Main results

* `readSpans_sources`: the sources of the spans make up the document
-/

namespace TagDoc

open Text

/-- A span of a document: plain text, or a tag with the source it was read from. -/
inductive Span where
  | plain (text : Text)
  | tag (tag : Tag) (source : Text)
  deriving DecidableEq, Repr, Inhabited

/-- The text of a span in the document. -/
def Span.source : Span → Text
  | plain t => t
  | tag _ s => s

/-- The first line of a text with its line break. -/
def firstLine (t : Text) : Text := takeLine t ++ (dropLine t).take 1

/-- The lines of a text after the first. -/
def laterLines (t : Text) : Text := (dropLine t).drop 1

theorem firstLine_append_laterLines (t : Text) : firstLine t ++ laterLines t = t := by
  simp only [firstLine, laterLines, List.append_assoc, List.take_append_drop, takeLine_append_dropLine]

theorem laterLines_length_le (t : Text) : (laterLines t).length ≤ t.length := by
  have := congrArg List.length (firstLine_append_laterLines t)
  simp at this
  omega

theorem firstLine_ne_nil {t : Text} (h : t ≠ []) : firstLine t ≠ [] := by
  cases t with
  | nil => contradiction
  | cons c t => by_cases hc : c = '\n' <;> simp [firstLine, takeLine, dropLine, hc]

theorem laterLines_length_lt {t : Text} (h : t ≠ []) : (laterLines t).length < t.length := by
  have hlen := congrArg List.length (firstLine_append_laterLines t)
  have hpos := List.length_pos_iff.2 (firstLine_ne_nil h)
  simp at hlen
  omega

/-- Plain text as spans: none if it is empty. -/
def plainSpans (t : Text) : List Span := if t.isEmpty then [] else [.plain t]

/-- The spans of a text that begins at the start of a line. Plain text comes in pieces of one line. -/
def readSpans (t : Text) : List Span :=
  if t = [] then []
  else
    match _h : Tag.read? t with
    | some r => .tag r.value r.source :: (plainSpans (firstLine r.rest) ++ readSpans (laterLines r.rest))
    | none => .plain (firstLine t) :: readSpans (laterLines t)
termination_by t.length
decreasing_by
  · have := Tag.rest_length_lt _h
    have := laterLines_length_le r.rest
    omega
  · exact laterLines_length_lt ‹_›

/-- Neighbouring plain spans become one. -/
def joinPlain : List Span → List Span
  | [] => []
  | .tag g s :: spans => .tag g s :: joinPlain spans
  | .plain t :: spans =>
    match joinPlain spans with
    | .plain u :: rest => .plain (t ++ u) :: rest
    | rest => .plain t :: rest

/-- A span with the position at which it starts, counted in characters. -/
structure Chunk where
  start : Nat
  span : Span
  deriving DecidableEq, Repr, Inhabited

/-- The position after a chunk. -/
def Chunk.stop (c : Chunk) : Nat := c.start + c.span.source.length

/-- Spans with their positions, of which the first starts at `start`. -/
def place (start : Nat) : List Span → List Chunk
  | [] => []
  | s :: spans => ⟨start, s⟩ :: place (start + s.source.length) spans

/-- The chunks of a document in order. -/
def scan (t : Text) : List Chunk := place 0 (joinPlain (readSpans t))

/-- The tag at the position `start` of a document, which is taken for the start of a line. -/
def tagAt? (t : Text) (start : Nat) : Option Chunk :=
  (Tag.read? (t.drop start)).map fun r => ⟨start, .tag r.value r.source⟩

theorem plainSpans_sources (t : Text) : (plainSpans t).flatMap Span.source = t := by
  cases t <;> simp [plainSpans, Span.source]

/-- The sources of the spans make up the document. -/
theorem readSpans_sources (t : Text) : (readSpans t).flatMap Span.source = t := by
  fun_induction readSpans t with
  | case1 => rfl
  | case2 t _ r hr ih =>
    -- The tag takes up `r.source`, and the rest of its last line comes before the later lines.
    have hc : r.source ++ r.rest = t := Tag.read?_covers hr
    have hl := firstLine_append_laterLines r.rest
    simp only [List.flatMap_cons, List.flatMap_append, plainSpans_sources, ih, Span.source]
    rw [hl, hc]
  | case3 t _ _ ih =>
    have hl := firstLine_append_laterLines t
    simpa [Span.source, ih] using hl

/-- Joining plain spans keeps the text. -/
theorem joinPlain_sources (spans : List Span) :
    (joinPlain spans).flatMap Span.source = spans.flatMap Span.source := by
  induction spans with
  | nil => rfl
  | cons s spans ih =>
    cases s with
    | tag g src => simp [joinPlain, ih]
    | plain t =>
      simp only [joinPlain]
      -- Whether or not the next span is plain, the two texts are only put together.
      split <;> rename_i h <;> simp_all [Span.source, List.flatMap_cons]

theorem place_spans (start : Nat) (spans : List Span) : (place start spans).map Chunk.span = spans := by
  induction spans generalizing start with
  | nil => rfl
  | cons s spans ih => simp [place, ih]

end TagDoc

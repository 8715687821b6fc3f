import Mathlib.Data.List.Chain
import TagDoc.Proofs.Tag.Grammar

/-!
# The spans of a document

The scanner visits the starts of lines. Between two tags it leaves at least the line break at the end of the first,
and each tag opens where a line begins: what has been scanned ends with a line break whenever a line is visited.

## Main definitions

* `Span.isTag`, `Chunk.isTag`
* `tagChunks`: the chunks of a document that are tags
* `Chunk.shift`: a chunk in a text before which something is put

## Main results

* `readSpans_written`: the tags among the spans are written there
* `readSpans_isChain`: no two tags are neighbours
* `readSpans_atLineStart`: a tag opens at the start of a line
* `exists_split_of_mem_tagChunks`: a tag among the chunks stands where its start says
-/

namespace TagDoc

open Text

/-- Whether a span is a tag. -/
def Span.isTag : Span → Bool
  | plain _ => false
  | tag _ _ => true

/-- Whether a chunk is a tag. -/
def Chunk.isTag (c : Chunk) : Bool := c.span.isTag

/-- The chunks of a document that are tags. -/
def tagChunks (t : Text) : List Chunk := (scan t).filter Chunk.isTag

/-- A chunk found `k` characters further on. -/
def Chunk.shift (k : Nat) (c : Chunk) : Chunk := ⟨k + c.start, c.span⟩

/-! ### Lines -/

theorem firstLine_append_newline {line : Text} (h : '\n' ∉ line) (after : Text) :
    firstLine (line ++ '\n' :: after) = line ++ ['\n'] := by
  rw [firstLine, takeLine_append h atLineEnd_cons, dropLine_append h atLineEnd_cons]
  rfl

theorem laterLines_append_newline {line : Text} (h : '\n' ∉ line) (after : Text) :
    laterLines (line ++ '\n' :: after) = after := by
  rw [laterLines, dropLine_append h atLineEnd_cons]
  rfl

theorem laterLines_eq_nil {line : Text} (h : '\n' ∉ line) : laterLines line = [] := by
  rw [laterLines, dropLine_of_not_mem h, List.drop_nil]

/-- Where later lines come, the first one ends with its break. -/
theorem atLineStart_append_firstLine {t : Text} (before : Text) (h : laterLines t ≠ []) :
    AtLineStart (before ++ firstLine t) := by
  rcases exists_line t with hline | ⟨line, after, hline, rfl⟩
  · exact absurd (laterLines_eq_nil hline) h
  · rw [firstLine_append_newline hline]
    intro c hc
    simpa using hc.symm

/-! ### Spans -/

@[simp] theorem readSpans_nil : readSpans [] = [] := by
  rw [readSpans, if_pos rfl]

theorem readSpans_of_tag {t : Text} {r : Reading Tag} (h : Tag.read? t = some r) :
    readSpans t = .tag r.value r.source :: (plainSpans (firstLine r.rest) ++ readSpans (laterLines r.rest)) := by
  have hne : t ≠ [] := by
    rintro rfl
    cases h
  rw [readSpans, if_neg hne]
  split
  · simp_all
  · simp_all

theorem readSpans_of_plain {t : Text} (hne : t ≠ []) (h : Tag.read? t = none) :
    readSpans t = .plain (firstLine t) :: readSpans (laterLines t) := by
  rw [readSpans, if_neg hne]
  split
  · simp_all
  · rfl

/-- After a tag comes the rest of its last line, as plain text. -/
theorem readSpans_of_written {g : Tag} {source rest : Text} (h : g.Written source rest) (hrest : rest ≠ []) :
    readSpans (source ++ rest) = .tag g source :: .plain (firstLine rest) :: readSpans (laterLines rest) := by
  have hline : (firstLine rest).isEmpty = false := by simpa using firstLine_ne_nil hrest
  rw [readSpans_of_tag h.read?]
  simp [plainSpans, hline]

theorem readSpans_of_written_nil {g : Tag} {source : Text} (h : g.Written source []) :
    readSpans source = [.tag g source] := by
  have hread := h.read?
  rw [List.append_nil] at hread
  rw [readSpans_of_tag hread]
  simp [plainSpans, firstLine, laterLines, takeLine, dropLine]

/-- Induction on the lines at which the scanner stops. The tag that ends the document is a case of its own, as no
plain text follows it. -/
@[elab_as_elim]
theorem readSpans_induction {motive : Text → Prop} (t : Text) (nil : motive [])
    (last : ∀ g source, Tag.Written g source [] → readSpans source = [.tag g source] → motive source)
    (tag : ∀ g source rest, Tag.Written g source rest → rest ≠ [] →
      readSpans (source ++ rest) =
        .tag g source :: .plain (firstLine rest) :: readSpans (laterLines rest) →
      motive (laterLines rest) → motive (source ++ rest))
    (plain : ∀ t, t ≠ [] → Tag.read? t = none →
      readSpans t = .plain (firstLine t) :: readSpans (laterLines t) → motive (laterLines t) → motive t) :
    motive t := by
  fun_induction readSpans t with
  | case1 => exact nil
  | case2 t hne r hr ih =>
    obtain ⟨g, source, rest⟩ := r
    obtain ⟨rfl, hwritten⟩ := Tag.read?_eq_some_iff.1 hr
    by_cases hrest : rest = []
    · subst hrest
      rw [List.append_nil]
      exact last g source hwritten (readSpans_of_written_nil hwritten)
    · exact tag g source rest hwritten hrest (readSpans_of_written hwritten hrest) ih
  | case3 t hne hr ih => exact plain t hne hr (readSpans_of_plain hne hr) ih

/-- Each tag among the spans is written in its source, before some rest of the text. -/
theorem readSpans_written {t : Text} {g : Tag} {source : Text} (h : Span.tag g source ∈ readSpans t) :
    ∃ rest, g.Written source rest := by
  induction t using readSpans_induction with
  | nil => simp at h
  | last g' source' hwritten hspans =>
    obtain ⟨rfl, rfl⟩ : g = g' ∧ source = source' := by simpa [hspans] using h
    exact ⟨[], hwritten⟩
  | tag g' source' rest hwritten hrest hspans ih =>
    rw [hspans] at h
    rcases List.mem_cons.1 h with heq | hmem
    · cases heq
      exact ⟨rest, hwritten⟩
    · exact ih (by simpa using hmem)
  | plain t hne hread hspans ih => exact ih (by simpa [hspans] using h)

theorem readSpans_source_ne_nil {t : Text} {s : Span} (h : s ∈ readSpans t) : s.source ≠ [] := by
  induction t using readSpans_induction with
  | nil => simp at h
  | last g source hwritten hspans =>
    obtain rfl : s = .tag g source := by simpa [hspans] using h
    exact hwritten.source_ne_nil
  | tag g source rest hwritten hrest hspans ih =>
    rw [hspans] at h
    rcases List.mem_cons.1 h with rfl | hmem
    · exact hwritten.source_ne_nil
    · rcases List.mem_cons.1 hmem with rfl | hmem
      · exact firstLine_ne_nil hrest
      · exact ih hmem
  | plain t hne hread hspans ih =>
    rw [hspans] at h
    rcases List.mem_cons.1 h with rfl | hmem
    · exact firstLine_ne_nil hne
    · exact ih hmem

/-- No two tags are neighbours. -/
theorem readSpans_isChain (t : Text) :
    (readSpans t).IsChain fun s s' => ¬ (s.isTag = true ∧ s'.isTag = true) := by
  induction t using readSpans_induction with
  | nil =>
    rw [readSpans_nil]
    exact List.isChain_nil
  | last g source hwritten hspans =>
    rw [hspans]
    exact List.isChain_singleton _
  | tag g source rest hwritten hrest hspans ih =>
    rw [hspans]
    refine List.isChain_cons_cons.2 ⟨by simp [Span.isTag], ?_⟩
    exact List.isChain_cons.2 ⟨by simp [Span.isTag], ih⟩
  | plain t hne hread hspans ih =>
    rw [hspans]
    exact List.isChain_cons.2 ⟨by simp [Span.isTag], ih⟩

theorem ne_nil_of_readSpans_eq {t : Text} {before after : List Span} {s : Span}
    (h : readSpans t = before ++ s :: after) : t ≠ [] := by
  rintro rfl
  simp at h

/-- If what comes before a text ends a line, so does what comes before each tag in it. -/
theorem readSpans_atLineStart_after {t pre : Text} {before after : List Span} {g : Tag} {source : Text}
    (hpre : AtLineStart pre) (h : readSpans t = before ++ .tag g source :: after) :
    AtLineStart (pre ++ before.flatMap Span.source) := by
  -- What comes before grows by a line at each step, and by a tag and a line where a tag is read.
  induction t using readSpans_induction generalizing pre before with
  | nil => simp at h
  | last g' source' hwritten hspans =>
    rw [hspans] at h
    rcases before with _ | ⟨s, before⟩
    · simpa using hpre
    · simp at h
  | tag g' source' rest hwritten hrest hspans ih =>
    rw [hspans] at h
    rcases before with _ | ⟨s, _ | ⟨s', before⟩⟩
    · simpa using hpre
    · simp at h
    · simp only [List.cons_append, List.cons.injEq] at h
      obtain ⟨rfl, rfl, hlater⟩ := h
      have hnext := atLineStart_append_firstLine (pre ++ source') (ne_nil_of_readSpans_eq hlater)
      simpa [Span.source] using ih hnext hlater
  | plain t hne hread hspans ih =>
    rw [hspans] at h
    rcases before with _ | ⟨s, before⟩
    · simp at h
    · simp only [List.cons_append, List.cons.injEq] at h
      obtain ⟨rfl, hlater⟩ := h
      have hnext := atLineStart_append_firstLine pre (ne_nil_of_readSpans_eq hlater)
      simpa [Span.source] using ih hnext hlater

/-- A tag opens where a line begins. -/
theorem readSpans_atLineStart {t : Text} {before after : List Span} {g : Tag} {source : Text}
    (h : readSpans t = before ++ .tag g source :: after) : AtLineStart (before.flatMap Span.source) :=
  readSpans_atLineStart_after atLineStart_nil h

/-! ### Positions -/

theorem place_append (start : Nat) (spans later : List Span) :
    place start (spans ++ later) =
      place start spans ++ place (start + (spans.flatMap Span.source).length) later := by
  induction spans generalizing start with
  | nil => rfl
  | cons s spans ih =>
    rw [List.cons_append, place, ih, List.flatMap_cons, List.length_append, Nat.add_assoc]
    rfl

theorem place_add (k start : Nat) (spans : List Span) :
    place (k + start) spans = (place start spans).map (Chunk.shift k) := by
  induction spans generalizing start with
  | nil => rfl
  | cons s spans ih =>
    rw [place, Nat.add_assoc, ih]
    rfl

/-- A chunk comes after sources that make up its start. -/
theorem exists_split_of_mem_place {start : Nat} {c : Chunk} {spans : List Span} (h : c ∈ place start spans) :
    ∃ earlier later, spans = earlier ++ c.span :: later ∧
      c.start = start + (earlier.flatMap Span.source).length := by
  induction spans generalizing start with
  | nil => cases h
  | cons s spans ih =>
    rcases List.mem_cons.1 h with rfl | hmem
    · exact ⟨[], spans, rfl, rfl⟩
    · obtain ⟨earlier, later, rfl, hstart⟩ := ih hmem
      exact ⟨s :: earlier, later, rfl, by simp [hstart, Nat.add_assoc]⟩

theorem filter_isTag_place_cons (start : Nat) (s : Span) (spans : List Span) :
    (place start (s :: spans)).filter Chunk.isTag =
      (if s.isTag then [⟨start, s⟩] else []) ++ (place (start + s.source.length) spans).filter Chunk.isTag := by
  cases s <;> rfl

/-- Joining plain text moves no tag. -/
theorem filter_isTag_place_joinPlain (start : Nat) (spans : List Span) :
    (place start (joinPlain spans)).filter Chunk.isTag = (place start spans).filter Chunk.isTag := by
  induction spans generalizing start with
  | nil => rfl
  | cons s spans ih =>
    rw [filter_isTag_place_cons, ← ih]
    cases s with
    | tag g source =>
      rw [joinPlain, filter_isTag_place_cons]
    | plain t =>
      rw [joinPlain]
      split
      · rename_i u rest heq
        simp [heq, filter_isTag_place_cons, Span.isTag, Span.source, Nat.add_assoc]
      · rw [filter_isTag_place_cons]

theorem tagChunks_eq (t : Text) : tagChunks t = (place 0 (readSpans t)).filter Chunk.isTag :=
  filter_isTag_place_joinPlain 0 (readSpans t)

/-- A tag among the chunks of a document is one among its spans, after sources that make up its start. -/
theorem exists_split_of_mem_tagChunks {c : Chunk} {t : Text} (h : c ∈ tagChunks t) :
    ∃ earlier later, readSpans t = earlier ++ c.span :: later ∧
      c.start = (earlier.flatMap Span.source).length := by
  rw [tagChunks_eq] at h
  simpa using exists_split_of_mem_place (List.mem_filter.1 h).1

end TagDoc

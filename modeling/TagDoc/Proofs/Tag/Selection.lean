import Mathlib.Data.List.Sort
import TagDoc.Proofs.Node.Splitting

/-!
# The tags that the scanner selects

Where a line begins a tag may open. Of the tags that the line starts of a text offer, the scanner takes the first,
passes over the lines on which it stands, and goes on behind them. So each line start is accounted for: it opens a tag
that is taken, or it belongs to the lines of one, or it opens none. No other choice of tags has this property.

## Main definitions

* `lineEnd`: where the line around a position ends
* `Chunk.Before`: a chunk whose last line is over before another starts
* `Selects`: tags that account for all line starts
* `Tiles`: chunks that follow one another from the start of a text to its end

## Main results

* `Selects.passLine`, `Selects.takeTag`: a selection made behind a line, or behind a tag, is one of the whole text
* `Selects.unique`: a text has one selection
* `tiles_scan`: the chunks of a text make it up in order
* `tagChunks_selects`: the tags of a text are its selection
-/

namespace TagDoc

open Text

variable {t u head : Text} {tags tags' : List Chunk} {c d : Chunk} {p : Nat}

/-- The position at which the line around a position ends: that of its line break, or the end of the text. -/
def lineEnd (t : Text) (p : Nat) : Nat := p + (takeLine (t.drop p)).length

/-- The line on which `c` ends is over before `d` starts. -/
def Chunk.Before (t : Text) (c d : Chunk) : Prop := lineEnd t c.stop < d.start

/-- `tags` are taken from the line starts of `t` one after the other: of each the lines on which it stands are passed
over, and no other line start opens a tag. -/
structure Selects (t : Text) (tags : List Chunk) : Prop where
  /-- Each of them is the tag at its start, where a line begins. -/
  found : ∀ c ∈ tags, IsLineStart t c.start ∧ tagAt? t c.start = some c
  /-- Each starts behind the line on which the one before it ends. -/
  separate : tags.IsChain (Chunk.Before t)
  /-- A line start on none of their lines opens no tag. -/
  complete : ∀ p < t.length, IsLineStart t p → (∀ c ∈ tags, ¬ (c.start ≤ p ∧ p ≤ lineEnd t c.stop)) →
    tagAt? t p = none

/-- `chunks` follow one another without a gap from the start of `t` to its end, and each holds the text between its
start and its end. -/
structure Tiles (t : Text) (chunks : List Chunk) : Prop where
  /-- The first starts where the text does. -/
  first : ∀ c ∈ chunks.head?, c.start = 0
  /-- Each starts where the one before it ends. -/
  next : chunks.IsChain fun c d => c.stop = d.start
  /-- The last ends where the text does. -/
  last : ∀ c ∈ chunks.getLast?, c.stop = t.length
  /-- There are chunks unless there is no text. -/
  exhaust : chunks = [] → t = []
  /-- A chunk is the text from its start to its end, of which there is some. -/
  text : ∀ c ∈ chunks, c.start < c.stop ∧ (t.take c.stop).drop c.start = c.span.source

/-! ### Positions behind the start of a text -/

theorem Chunk.start_le_stop (c : Chunk) : c.start ≤ c.stop := Nat.le_add_right _ _

theorem le_lineEnd (t : Text) (p : Nat) : p ≤ lineEnd t p := Nat.le_add_right _ _

theorem Chunk.stop_shift (k : Nat) (c : Chunk) : (c.shift k).stop = k + c.stop := by
  simp [Chunk.stop, Chunk.shift, Nat.add_assoc]

theorem lineEnd_append (head u : Text) (p : Nat) :
    lineEnd (head ++ u) (head.length + p) = head.length + lineEnd u p := by
  rw [lineEnd, List.drop_length_add_append, lineEnd, Nat.add_assoc]

theorem tagAt?_append (head u : Text) (p : Nat) :
    tagAt? (head ++ u) (head.length + p) = (tagAt? u p).map (Chunk.shift head.length) := by
  rw [tagAt?, List.drop_length_add_append, tagAt?, Option.map_map]
  rfl

/-- Behind a line break the same lines begin as in the text that follows alone. -/
theorem isLineStart_append (hhead : AtLineStart head) :
    IsLineStart (head ++ u) (head.length + p) ↔ IsLineStart u p := by
  rcases Nat.eq_zero_or_pos p with rfl | hp
  · refine iff_of_true ?_ (.inl rfl)
    rcases eq_or_ne head [] with rfl | hne
    · exact .inl rfl
    · have hpos := List.length_pos_iff.2 hne
      have hlast := hhead.getLast? hne
      rw [List.getLast?_eq_getElem?] at hlast
      refine .inr ?_
      rw [Nat.add_zero, List.getElem?_append_left (by omega), hlast]
  · have hindex : head.length + p - 1 = head.length + (p - 1) := by omega
    simp only [IsLineStart, hindex, List.getElem?_append_right (Nat.le_add_right _ _), Nat.add_sub_cancel_left]
    constructor
    · rintro (hzero | hbreak)
      · omega
      · exact .inr hbreak
    · rintro (hzero | hbreak)
      · omega
      · exact .inr hbreak

theorem Chunk.Before.start_lt (h : c.Before t d) : c.start < d.start :=
  (c.start_le_stop.trans (le_lineEnd t c.stop)).trans_lt h

theorem Chunk.Before.trans {e : Chunk} (h : c.Before t d) (h' : d.Before t e) : c.Before t e :=
  Nat.lt_trans h h'.start_lt

theorem Chunk.Before.shift (h : c.Before u d) (head : Text) :
    (c.shift head.length).Before (head ++ u) (d.shift head.length) := by
  rw [Chunk.Before, Chunk.stop_shift, lineEnd_append]
  exact Nat.add_lt_add_left h _

/-! ### Passing over lines -/

theorem firstLine_length_le (t : Text) : (firstLine t).length ≤ (takeLine t).length + 1 := by
  have := List.length_take_le 1 (dropLine t)
  rw [firstLine, List.length_append]
  omega

/-- A line that others follow ends with its break. -/
theorem firstLine_length_eq (h : laterLines t ≠ []) : (firstLine t).length = (takeLine t).length + 1 := by
  rcases exists_line t with hline | ⟨line, after, hline, rfl⟩
  · exact absurd (laterLines_eq_nil hline) h
  · rw [firstLine_append_newline hline, takeLine_append hline atLineEnd_cons]
    simp

/-- On the first line of a text no other line begins. -/
theorem eq_zero_of_isLineStart (hp : p < (firstLine t).length) (hline : IsLineStart t p) : p = 0 := by
  rcases hline with rfl | hbreak
  · rfl
  · by_contra hzero
    have hlen := firstLine_length_le t
    rw [← takeLine_append_dropLine t, List.getElem?_append_left (by omega)] at hbreak
    exact not_mem_takeLine t (List.mem_of_getElem? hbreak)

theorem ne_nil_of_tagAt? (h : tagAt? u p = some c) : u ≠ [] := by
  rintro rfl
  rw [tagAt?, List.drop_nil] at h
  cases h

namespace Selects

theorem nil : Selects [] [] where
  found := nofun
  separate := List.isChain_nil
  complete p hp := absurd hp (Nat.not_lt_zero p)

section Shift

/-! `t` is `head`, which is passed over, and `u`, in which `tags` are selected. -/

variable (h : Selects u tags) (ht : head ++ u = t) (hhead : u ≠ [] → AtLineStart head)
include h ht

theorem separate_shift : (tags.map (Chunk.shift head.length)).IsChain (Chunk.Before t) := by
  subst ht
  exact (List.isChain_map _).2 (h.separate.imp fun _ _ hbefore => hbefore.shift head)

include hhead

theorem found_shift :
    ∀ c ∈ tags.map (Chunk.shift head.length), IsLineStart t c.start ∧ tagAt? t c.start = some c := by
  subst ht
  intro c hc
  obtain ⟨d, hd, rfl⟩ := List.mem_map.1 hc
  obtain ⟨hline, htag⟩ := h.found d hd
  refine ⟨(isLineStart_append (hhead (ne_nil_of_tagAt? htag))).2 hline, ?_⟩
  change tagAt? (head ++ u) (head.length + d.start) = _
  rw [tagAt?_append, htag]
  rfl

/-- A line start behind what is passed over opens no tag, unless it belongs to the lines of one there. -/
theorem complete_shift (hp : p < t.length) (hpassed : head.length ≤ p) (hline : IsLineStart t p)
    (hfree : ∀ c ∈ tags.map (Chunk.shift head.length), ¬ (c.start ≤ p ∧ p ≤ lineEnd t c.stop)) :
    tagAt? t p = none := by
  subst ht
  obtain ⟨k, rfl⟩ := Nat.exists_eq_add_of_le hpassed
  have hk : k < u.length := by simpa using hp
  have hne : u ≠ [] := List.length_pos_iff.1 (Nat.zero_lt_of_lt hk)
  have hnone : tagAt? u k = none := by
    refine h.complete k hk ((isLineStart_append (hhead hne)).1 hline) fun c hc hin => ?_
    apply hfree _ (List.mem_map_of_mem hc)
    rw [Chunk.stop_shift, lineEnd_append]
    exact ⟨Nat.add_le_add_left hin.1 _, Nat.add_le_add_left hin.2 _⟩
  rw [tagAt?_append, hnone]
  rfl

end Shift

/-- What is selected behind a line that opens no tag is selected. -/
theorem passLine (hread : Tag.read? t = none) (h : Selects (laterLines t) tags) :
    Selects t (tags.map (Chunk.shift (firstLine t).length)) := by
  have ht : firstLine t ++ laterLines t = t := firstLine_append_laterLines t
  have hhead : laterLines t ≠ [] → AtLineStart (firstLine t) := atLineStart_append_firstLine []
  refine ⟨h.found_shift ht hhead, h.separate_shift ht, fun p hp hline hfree => ?_⟩
  rcases Nat.lt_or_ge p (firstLine t).length with hfirst | hpassed
  · obtain rfl := eq_zero_of_isLineStart hfirst hline
    rw [tagAt?, List.drop_zero, hread]
    rfl
  · exact h.complete_shift ht hhead hp hpassed hline hfree

/-- What is selected behind the last line of a tag is selected with that tag. -/
theorem takeTag {g : Tag} {source rest : Text} (hwritten : g.Written source rest)
    (h : Selects (laterLines rest) tags) :
    Selects (source ++ rest)
      (⟨0, .tag g source⟩ :: tags.map (Chunk.shift (source ++ firstLine rest).length)) := by
  have ht : source ++ firstLine rest ++ laterLines rest = source ++ rest := by
    rw [List.append_assoc, firstLine_append_laterLines]
  have hhead : laterLines rest ≠ [] → AtLineStart (source ++ firstLine rest) := atLineStart_append_firstLine source
  have hend : lineEnd (source ++ rest) (Chunk.stop ⟨0, .tag g source⟩) = source.length + (takeLine rest).length := by
    simp [lineEnd, Chunk.stop, Span.source]
  have hlen : (source ++ firstLine rest).length = source.length + (firstLine rest).length := List.length_append
  constructor
  · refine List.forall_mem_cons.2 ⟨⟨.inl rfl, ?_⟩, h.found_shift ht hhead⟩
    rw [tagAt?, List.drop_zero, hwritten.read?]
    rfl
  · refine List.isChain_cons.2 ⟨fun d hd => ?_, h.separate_shift ht⟩
    -- A tag that follows stands on a later line, so the line on which this one ends has a break.
    obtain ⟨d, hmem, rfl⟩ := List.mem_map.1 (List.mem_of_mem_head? hd)
    have hbreak := firstLine_length_eq (ne_nil_of_tagAt? (h.found d hmem).2)
    rw [Chunk.Before, hend]
    change source.length + (takeLine rest).length < (source ++ firstLine rest).length + d.start
    omega
  · intro p hp hline hfree
    obtain ⟨hnot, hlater⟩ := List.forall_mem_cons.1 hfree
    have hpassed : (source ++ firstLine rest).length ≤ p := by
      have hfirst := firstLine_length_le rest
      have hbehind : ¬ p ≤ source.length + (takeLine rest).length := fun hle => hnot ⟨Nat.zero_le p, hend ▸ hle⟩
      omega
    exact h.complete_shift ht hhead hp hpassed hline hlater

/-! ### One selection -/

/-- Any two tags of a selection stand on lines of their own. -/
theorem pairwise (h : Selects t tags) : tags.Pairwise (Chunk.Before t) := by
  have htrans : IsTrans Chunk (Chunk.Before t) := ⟨fun _ _ _ hcd hde => hcd.trans hde⟩
  exact List.isChain_iff_pairwise.1 h.separate

theorem before_of_lt (h : Selects t tags) (hc : c ∈ tags) (hd : d ∈ tags) (hlt : d.start < c.start) :
    d.Before t c := by
  obtain ⟨earlier, later, rfl⟩ := List.append_of_mem hc
  obtain ⟨-, hlater, hearlier⟩ := List.pairwise_append.1 h.pairwise
  rcases List.mem_append.1 hd with hd | hd
  · exact hearlier d hd c List.mem_cons_self
  · rcases List.mem_cons.1 hd with rfl | hd
    · exact absurd hlt (lt_irrefl _)
    · have hafter := ((List.pairwise_cons.1 hlater).1 d hd).start_lt
      omega

/-- A tag of one selection is in every other. -/
theorem mem_of_mem (h : Selects t tags) (h' : Selects t tags') (hc : c ∈ tags) : c ∈ tags' := by
  -- The induction is on where the tag starts, so that tags which start before it are in both selections.
  generalize hn : c.start = n
  induction n using Nat.strong_induction_on generalizing c tags tags' with
  | _ n ih =>
    subst hn
    obtain ⟨hline, htag⟩ := h.found c hc
    have hlt : c.start < t.length := by
      by_contra hge
      rw [tagAt?, List.drop_of_length_le (by omega)] at htag
      cases htag
    by_contra hnot
    refine absurd (h'.complete c.start hlt hline fun d hd hin => ?_) (by simp [htag])
    rcases Nat.lt_or_eq_of_le hin.1 with hbefore | hsame
    · -- An earlier tag cannot have the start of this one on its lines, as both are in one selection.
      have hmem : d ∈ tags := ih d.start hbefore h' h hd rfl
      exact absurd hin.2 (Nat.not_le_of_lt (h.before_of_lt hc hmem hbefore))
    · have hdtag := (h'.found d hd).2
      rw [hsame, htag] at hdtag
      exact hnot (Option.some.inj hdtag ▸ hd)

/-- A text has one selection. -/
theorem unique (h : Selects t tags) (h' : Selects t tags') : tags = tags' := by
  have hirrefl : Std.Irrefl (Chunk.Before t) := ⟨fun c hc => lt_irrefl _ hc.start_lt⟩
  have hantisymm : Std.Antisymm (Chunk.Before t) := ⟨fun c d hcd hdc => absurd hcd.start_lt hdc.start_lt.asymm⟩
  exact h.pairwise.eq_of_mem_iff h'.pairwise fun c => ⟨h.mem_of_mem h', h'.mem_of_mem h⟩

end Selects

/-! ### Chunks in order -/

theorem head?_place (start : Nat) (spans : List Span) : ∀ c ∈ (place start spans).head?, c.start = start := by
  intro c hc
  cases spans with
  | nil => cases hc
  | cons s spans =>
    cases hc
    rfl

theorem isChain_place (start : Nat) (spans : List Span) :
    (place start spans).IsChain fun c d => c.stop = d.start := by
  induction spans generalizing start with
  | nil => exact List.isChain_nil
  | cons s spans ih =>
    exact List.isChain_cons.2 ⟨fun d hd => (head?_place _ spans d hd).symm, ih _⟩

theorem getLast?_place (start : Nat) (spans : List Span) :
    ∀ c ∈ (place start spans).getLast?, c.stop = start + (spans.flatMap Span.source).length := by
  induction spans generalizing start with
  | nil => nofun
  | cons s spans ih =>
    intro c hc
    rw [List.flatMap_cons, List.length_append, ← Nat.add_assoc]
    cases spans with
    | nil =>
      cases hc
      rfl
    | cons s' spans =>
      rw [place, place, List.getLast?_cons_cons, ← place] at hc
      exact ih _ c hc

/-- A chunk is what the sources hold between its start and its end. -/
theorem text_of_mem_place {spans : List Span} (hc : c ∈ place 0 spans) :
    ((spans.flatMap Span.source).take c.stop).drop c.start = c.span.source := by
  obtain ⟨earlier, later, hspans, hstart⟩ := exists_split_of_mem_place hc
  rw [Nat.zero_add] at hstart
  rw [Chunk.stop, hspans, hstart, List.flatMap_append, List.take_length_add_append, List.flatMap_cons,
    List.take_left, List.drop_left]

theorem source_ne_nil_of_mem_joinPlain {spans : List Span} (h : ∀ s ∈ spans, s.source ≠ []) :
    ∀ s ∈ joinPlain spans, s.source ≠ [] := by
  induction spans with
  | nil => nofun
  | cons s spans ih =>
    obtain ⟨hs, hspans⟩ := List.forall_mem_cons.1 h
    have hjoined := ih hspans
    cases s with
    | tag g source =>
      rw [joinPlain]
      exact List.forall_mem_cons.2 ⟨hs, hjoined⟩
    | plain t =>
      rw [joinPlain]
      split
      · rename_i u rest heq
        rw [heq] at hjoined
        refine List.forall_mem_cons.2 ⟨?_, (List.forall_mem_cons.1 hjoined).2⟩
        exact List.append_ne_nil_of_left_ne_nil hs u
      · exact List.forall_mem_cons.2 ⟨hs, hjoined⟩

/-- The chunks of a text make it up in order. -/
theorem tiles_scan (t : Text) : Tiles t (scan t) := by
  have hsources : (joinPlain (readSpans t)).flatMap Span.source = t := by
    rw [joinPlain_sources, readSpans_sources]
  have hspans : (scan t).map Chunk.span = joinPlain (readSpans t) := place_spans 0 _
  refine ⟨head?_place 0 _, isChain_place 0 _, ?_, fun hnil => ?_, fun c hc => ⟨?_, ?_⟩⟩
  · intro c hc
    rw [getLast?_place 0 _ c hc, hsources, Nat.zero_add]
  · rw [hnil] at hspans
    rw [← hsources, ← hspans]
    rfl
  · have hmem : c.span ∈ joinPlain (readSpans t) := hspans ▸ List.mem_map_of_mem hc
    have hne := source_ne_nil_of_mem_joinPlain (fun s hs => readSpans_source_ne_nil hs) _ hmem
    exact Nat.lt_add_of_pos_right (List.length_pos_iff.2 hne)
  · rw [← text_of_mem_place hc, hsources]

/-! ### The tags of a text -/

theorem filter_isTag_place (k : Nat) (spans : List Span) :
    (place k spans).filter Chunk.isTag = ((place 0 spans).filter Chunk.isTag).map (Chunk.shift k) := by
  rw [← Nat.add_zero k, place_add, List.filter_map]
  rfl

theorem selects_tagChunks (t : Text) : Selects t (tagChunks t) := by
  induction t using readSpans_induction with
  | nil =>
    rw [tagChunks_eq, readSpans_nil]
    exact .nil
  | last g source hwritten hspans =>
    have hsource := Selects.takeTag hwritten .nil
    rw [List.append_nil] at hsource
    rw [tagChunks_eq, hspans]
    exact hsource
  | tag g source rest hwritten hrest hspans ih =>
    have htags : tagChunks (source ++ rest) =
        ⟨0, .tag g source⟩ :: (tagChunks (laterLines rest)).map (Chunk.shift (source ++ firstLine rest).length) := by
      rw [tagChunks_eq, hspans, filter_isTag_place_cons, filter_isTag_place_cons, filter_isTag_place, tagChunks_eq,
        List.length_append, Nat.zero_add]
      rfl
    rw [htags]
    exact Selects.takeTag hwritten ih
  | plain t hne hread hspans ih =>
    have htags : tagChunks t = (tagChunks (laterLines t)).map (Chunk.shift (firstLine t).length) := by
      rw [tagChunks_eq, hspans, filter_isTag_place_cons, filter_isTag_place, tagChunks_eq, Nat.zero_add]
      rfl
    rw [htags]
    exact Selects.passLine hread ih

/-- The tags of a text are the one selection of tags that accounts for its line starts, and the chunks of which they
are some follow one another from its start to its end. -/
theorem tagChunks_selects (t : Text) :
    Selects t (tagChunks t) ∧ (∀ tags, Selects t tags → tags = tagChunks t) ∧ Tiles t (scan t) :=
  ⟨selects_tagChunks t, fun _ h => h.unique (selects_tagChunks t), tiles_scan t⟩

/-- What follows a closing fence on its line is passed over, and so is a tag inside the fence. -/
example : (tagChunks "@a ...\n@b y\n...\n@c z".toList).map Chunk.start = [0, 16] ∧
    (tagChunks "@a ...\n@b y\n... @c z\n@d w".toList).map Chunk.start = [0, 21] := by
  decide +kernel

end TagDoc

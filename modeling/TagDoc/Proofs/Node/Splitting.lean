import TagDoc.Proofs.Node.JoinText
import TagDoc.Proofs.Tag.Context
import TagDoc.Proofs.Tag.Spans

/-!
# Splitting a document

A document may be split at the start of any line that lies in no tag, and its parts read on their own. What comes
before such a line has been read without regard to what follows: a tag that ends before it looks no further, and a
text that opens no tag there opens none when the document ends early.

## Main definitions

* `IsLineStart`: the positions at which a line begins

## Main results

* `readSpans_append`: the spans of two parts are put together
* `tagChunks_split`: so are the tags, the later ones at their place, and the nodes, text being joined again
-/

namespace TagDoc

open Text

/-- A line begins at the position `p` of a text. -/
def IsLineStart (t : Text) (p : Nat) : Prop := p = 0 ∨ t[p - 1]? = some '\n'

/-- No tag among the chunks goes over the position `p`. -/
def Outside (p : Nat) (chunks : List Chunk) : Prop :=
  ∀ c ∈ chunks, c.isTag = true → ¬ (c.start < p ∧ p < c.stop)

theorem IsLineStart.le_length {t : Text} {p : Nat} (h : IsLineStart t p) : p ≤ t.length := by
  rcases h with rfl | h
  · exact Nat.zero_le _
  · obtain ⟨hlt, -⟩ := List.getElem?_eq_some_iff.1 h
    omega

theorem IsLineStart.take {t : Text} {p : Nat} (h : IsLineStart t p) : AtLineStart (t.take p) := by
  rcases h with rfl | h
  · exact atLineStart_nil
  · intro c hc
    rw [Option.mem_def, List.getLast?_take, h] at hc
    split at hc
    · cases hc
    · exact (Option.some_inj.1 hc).symm

/-- The start of a text that ends with a line break has the same first line, unless it is empty. -/
theorem firstLine_append {a : Text} (h : AtLineStart a) (hne : a ≠ []) (b : Text) :
    firstLine (a ++ b) = firstLine a ∧ laterLines (a ++ b) = laterLines a ++ b ∧ AtLineStart (laterLines a) := by
  rcases exists_line a with hline | ⟨line, after, hline, rfl⟩
  · exact absurd (List.mem_of_getLast? (h.getLast? hne)) hline
  · have hsuffix : after <:+ line ++ '\n' :: after := ⟨line ++ ['\n'], by simp⟩
    rw [List.append_assoc, List.cons_append, firstLine_append_newline hline, firstLine_append_newline hline,
      laterLines_append_newline hline, laterLines_append_newline hline]
    exact ⟨rfl, rfl, h.of_suffix hsuffix⟩

theorem Outside.of_place_cons {p start : Nat} {s : Span} {spans : List Span}
    (h : Outside p (place start (s :: spans))) : Outside p (place (start + s.source.length) spans) :=
  fun c hc => h c (List.mem_cons_of_mem _ hc)

/-- A position at the end of a text stays there when its first line is passed. -/
theorem Outside.of_place_firstLine {a : Text} {start : Nat} {spans : List Span}
    (h : Outside (start + a.length) (place start (.plain (firstLine a) :: spans))) :
    Outside (start + (firstLine a).length + (laterLines a).length)
      (place (start + (firstLine a).length) spans) := by
  rw [Nat.add_assoc, ← List.length_append, firstLine_append_laterLines]
  exact h.of_place_cons

/-- A tag at the start of a text ends before a line start that it does not go over, and more of the line on which
it ends comes before that line start. -/
theorem exists_rest_before {a b source rest : Text} {g : Tag} {start : Nat} {spans : List Span}
    (ha : AtLineStart a) (hne : a ≠ []) (hwritten : g.Written source rest) (ht : a ++ b = source ++ rest)
    (houtside : Outside (start + a.length) (place start (.tag g source :: spans))) :
    ∃ rest', rest' ≠ [] ∧ AtLineStart rest' ∧ a = source ++ rest' ∧ rest = rest' ++ b := by
  have hcut := houtside _ List.mem_cons_self rfl
  have hpos := List.length_pos_iff.2 hne
  simp only [Chunk.stop, Span.source, not_and] at hcut
  have hlen : source.length ≤ a.length := by
    have := hcut (by omega)
    omega
  obtain ⟨rest', rfl⟩ : source <+: a :=
    List.prefix_of_prefix_length_le (List.prefix_append source rest) (ht ▸ List.prefix_append a b) hlen
  refine ⟨rest', ?_, ha.of_suffix (List.suffix_append _ _), rfl, ?_⟩
  · rintro rfl
    rw [List.append_nil] at ha hne
    exact hwritten.getLast?_source (ha.getLast? hne)
  · rw [List.append_assoc] at ht
    exact (List.append_cancel_left ht).symm

/-- The part of a text before a line start is read in the same way when it stands alone. -/
theorem readSpans_append {a b : Text} {start : Nat} (ha : AtLineStart a)
    (houtside : Outside (start + a.length) (place start (readSpans (a ++ b)))) :
    readSpans (a ++ b) = readSpans a ++ readSpans b := by
  -- The induction is on the lines of the whole text, and the first part is cut off line by line.
  generalize ht : a ++ b = t at houtside
  induction t using readSpans_induction generalizing a start with
  | nil =>
    obtain ⟨rfl, rfl⟩ := List.append_eq_nil_iff.1 ht
    simp
  | last g source hwritten hspans =>
    rcases eq_or_ne a [] with rfl | hne
    · simp [← ht]
    · -- The last tag would have to end before the first part does.
      rw [hspans] at houtside
      obtain ⟨rest', hrest', -, -, hnil⟩ := exists_rest_before ha hne hwritten (by simpa using ht) houtside
      exact absurd (List.append_eq_nil_iff.1 hnil.symm).1 hrest'
  | tag g source rest hwritten hrest hspans ih =>
    rcases eq_or_ne a [] with rfl | hne
    · simp [← ht]
    · rw [hspans] at houtside
      obtain ⟨rest', hrest', hline, rfl, rfl⟩ := exists_rest_before ha hne hwritten ht houtside
      -- The tag is read from the first part alone, and the rest of its last line lies there, too.
      obtain ⟨hfirst, hlater, hnext⟩ := firstLine_append hline hrest' b
      have hafter := houtside.of_place_cons
      rw [List.length_append, ← Nat.add_assoc, hfirst] at hafter
      rw [hspans, readSpans_of_written hwritten.of_append hrest', hfirst,
        ih hnext hlater.symm hafter.of_place_firstLine]
      rfl
  | plain t hne hread hspans ih =>
    rcases eq_or_ne a [] with rfl | hne'
    · simp [← ht]
    · -- No tag is read from the first part alone, though it has fewer lines to close one on.
      subst ht
      obtain ⟨hfirst, hlater, hnext⟩ := firstLine_append ha hne' b
      have hnone := Tag.read?_eq_none_of_append hread ha
      rw [hspans, hfirst] at houtside
      rw [hspans, hfirst, readSpans_of_plain hne' hnone, ih hnext hlater.symm houtside.of_place_firstLine]
      rfl

/-- A document may be split where a line begins outside its tags. Its tags are those of the two parts, the later
ones at their place, and its nodes are those of the two parts with the text joined where they meet. -/
theorem tagChunks_split (decode : Decoder) (reserved : List Text) (t : Text) (p : Nat) (hline : IsLineStart t p)
    (houtside : ∀ c ∈ tagChunks t, ¬ (c.start < p ∧ p < c.stop)) :
    tagChunks t = tagChunks (t.take p) ++ (tagChunks (t.drop p)).map (Chunk.shift p) ∧
      parseNodes decode reserved t =
        joinText (parseNodes decode reserved (t.take p) ++ parseNodes decode reserved (t.drop p)) := by
  have hlen : (t.take p).length = p := List.length_take_of_le hline.le_length
  have hspans : readSpans t = readSpans (t.take p) ++ readSpans (t.drop p) := by
    have happend := @readSpans_append (t.take p) (t.drop p) 0 hline.take
    rw [List.take_append_drop, hlen, Nat.zero_add] at happend
    refine happend fun c hc htag => houtside c ?_
    rw [tagChunks_eq]
    exact List.mem_filter.2 ⟨hc, htag⟩
  constructor
  · simp only [tagChunks_eq]
    rw [hspans, place_append, readSpans_sources, hlen, List.filter_append, Nat.zero_add,
      ← Nat.add_zero p, place_add, List.filter_map]
    rfl
  · rw [parseNodes_eq_joinText, parseNodes_eq_joinText, parseNodes_eq_joinText, joinText_append_joinText, hspans,
      List.map_append]

/-- The options opened on the first line are closed by no brace of the whole text, and by none of its first line. -/
theorem tagChunks_split_after_open_options :
    IsLineStart "@a \x7b\n@b y\n\x7d!\n@c z".toList 5 ∧
      (∀ c ∈ tagChunks "@a \x7b\n@b y\n\x7d!\n@c z".toList, ¬ (c.start < 5 ∧ 5 < c.stop)) ∧
      (tagChunks "@a \x7b\n@b y\n\x7d!\n@c z".toList).map Chunk.start = [5, 13] ∧
      tagChunks "@a \x7b\n@b y\n\x7d!\n@c z".toList =
        tagChunks "@a \x7b\n".toList ++ (tagChunks "@b y\n\x7d!\n@c z".toList).map (Chunk.shift 5) ∧
      parseNodes (strictJson 100) [] "@a \x7b\n@b y\n\x7d!\n@c z".toList =
        joinText (parseNodes (strictJson 100) [] "@a \x7b\n".toList ++
          parseNodes (strictJson 100) [] "@b y\n\x7d!\n@c z".toList) := by
  have hline : IsLineStart "@a \x7b\n@b y\n\x7d!\n@c z".toList 5 := .inr (by decide)
  have houtside : ∀ c ∈ tagChunks "@a \x7b\n@b y\n\x7d!\n@c z".toList, ¬ (c.start < 5 ∧ 5 < c.stop) := by
    decide +kernel
  exact ⟨hline, houtside, by decide +kernel, tagChunks_split (strictJson 100) [] _ 5 hline houtside⟩

end TagDoc

import TagDoc.Proofs.Tag.Grammar

/-!
# Tags and the text around them

What is written as a tag stays one when the text behind it changes, as long as that text begins alike and opens no
way to close the options earlier. Two changes matter: the text may be cut off behind the tag, and a text that ends with
a line break may go on. To go on can make a tag of what was none, as an open fence may be closed later, but not the
other way round.

## Main results

* `Body.Written.of_head?`: a body sees the first character after it only
* `OpensBody.append`, `ClosesOptions.append`: what opens a body or closes options does so when more follows
* `Tag.Accepted.append`: what is accepted at the end of a line is accepted when lines follow
* `Tag.Written.of_append`: a tag stays one when the text behind it is cut off
-/

namespace TagDoc

open Text

variable {source rest later : Text}

/-! ### The character that follows -/

theorem FencedLines.of_head? {lines : List Text} {rest' : Text} (h : FencedLines lines source rest)
    (hrest : ∀ c ∈ rest'.head?, c ∈ rest.head?) : FencedLines lines source rest' := by
  induction h with
  | close fence stops => exact .close fence fun c hc => stops c (hrest c hc)
  | line oneLine inside later ih => exact .line oneLine inside (ih hrest)

theorem Body.Written.of_head? {body : Body} {rest' : Text} (h : body.Written source rest)
    (hrest : ∀ c ∈ rest'.head?, c ∈ rest.head?) : body.Written source rest' := by
  cases h with
  | line blank word oneLine ends => exact .line blank word oneLine fun c hc => ends c (hrest c hc)
  | fenced blank fence later => exact .fenced blank fence (later.of_head? hrest)
  | absent blank ends => exact .absent blank fun c hc => ends c (hrest c hc)

theorem Tag.Lead.of_head? {name blanks v v' : Text} (h : Tag.Lead name blanks v)
    (hv : ∀ c ∈ v'.head?, c ∈ v.head?) : Tag.Lead name blanks v' where
  name_ne_nil := h.name_ne_nil
  named := h.named.of_head? (head?_append_imp hv blanks)
  spaced := h.spaced.of_head? hv

/-! ### Texts that follow -/

/-- Fenced lines are closed whatever follows. Further dots belong to the closing fence, and nothing else does. -/
theorem FencedLines.exists_append {lines : List Text} (h : FencedLines lines source rest) (later : Text) :
    ∃ source' rest', source ++ (rest ++ later) = source' ++ rest' ∧ FencedLines lines source' rest' := by
  induction h with
  | @close dots rest fence stops =>
    have hrun := run_takeWhile (· == '.') (rest ++ later)
    refine ⟨dots ++ (rest ++ later).takeWhile (· == '.'), (rest ++ later).dropWhile (· == '.'),
      by simp only [List.append_assoc, List.takeWhile_append_dropWhile], .close ⟨?_, fun c hc => ?_⟩ ?_⟩
    · have := fence.1
      rw [List.length_append]
      omega
    · rcases List.mem_append.1 hc with hmem | hmem
      · exact fence.2 c hmem
      · simpa using hrun.all c hmem
    · exact fun c hc => by simpa using hrun.stops c hc
  | @line line lines source rest oneLine inside later' ih =>
    obtain ⟨source', rest', heq, hlines⟩ := ih
    exact ⟨line ++ '\n' :: source', rest', by simp [heq], .line oneLine inside hlines⟩

/-- A body at the start of a text is there whatever follows. A line goes on into what follows. -/
theorem OpensBody.append {t : Text} (h : OpensBody t) (later : Text) : OpensBody (t ++ later) := by
  obtain ⟨body, source, rest, rfl, hwritten, hpresent⟩ := h
  cases hwritten with
  | @line blanks line rest blank word oneLine ends =>
    have hline : '\n' ∉ line ++ takeLine (rest ++ later) := by
      simpa [oneLine] using not_mem_takeLine (rest ++ later)
    have hword : ∃ c ∈ (line ++ takeLine (rest ++ later)).head?, isWord c = true := by
      obtain ⟨c, hc, hc'⟩ := word
      exact ⟨c, by simp [Option.mem_def.1 hc], hc'⟩
    exact ⟨_, _, dropLine (rest ++ later), by simp [takeLine_append_dropLine],
      .line blank hword hline (atLineEnd_dropLine _), by simp⟩
  | @fenced blanks opening lines source rest blank fence later' =>
    obtain ⟨source', rest', heq, hlines⟩ := later'.exists_append later
    exact ⟨_, blanks ++ opening ++ '\n' :: source', rest', by simp [heq], .fenced blank fence hlines, by simp⟩
  | absent => contradiction

/-- What closes options does so whatever follows, unless it is nothing but blanks: these may be followed by more on
their line. -/
theorem ClosesOptions.append {t : Text} (h : ClosesOptions t) (hchar : ∃ c ∈ t, isBlank c = false) (later : Text) :
    ClosesOptions (t ++ later) := by
  rcases h with hbody | ⟨blanks, rest, rfl, hblank, hends⟩
  · exact .inl (hbody.append later)
  · have hne : rest ≠ [] := by
      rintro rfl
      obtain ⟨c, hc, hnot⟩ := hchar
      rw [List.append_nil] at hc
      rw [hblank c hc] at hnot
      cases hnot
    have hhead : (rest ++ later).head? = rest.head? := List.head?_append_of_ne_nil rest hne
    exact .inr ⟨blanks, rest ++ later, by simp, hblank, fun c hc => hends c (hhead ▸ hc)⟩

/-! ### Lines that follow -/

/-- A text that ends with a line break has a character that is no blank. -/
theorem exists_not_blank_of_atLineStart {t : Text} (h : AtLineStart t) (hne : t ≠ []) :
    ∃ c ∈ t, isBlank c = false :=
  ⟨'\n', List.mem_of_getLast? (h.getLast? hne), rfl⟩

/-- A text with a tag at its start has one also when further lines follow. -/
theorem Tag.Accepted.append {u : Text} (h : Tag.Accepted u) (hline : AtLineStart u) (later : Text) :
    Tag.Accepted (u ++ later) := by
  obtain ⟨name, blanks, v, rfl, hlead, hv⟩ := h
  have hend := hline.of_suffix (List.suffix_append _ v)
  rcases hv with ⟨hunbraced, hbody⟩ | ⟨inner, after, rfl, hcloses⟩
  · have hne : v ≠ [] := by
      obtain ⟨body, source, rest, rfl, hwritten, hpresent⟩ := hbody
      simp [hwritten.source_ne_nil hpresent]
    have hhead : (v ++ later).head? = v.head? := List.head?_append_of_ne_nil v hne
    exact ⟨name, blanks, v ++ later, by simp, hlead.of_head? fun c hc => hhead ▸ hc,
      .inl ⟨hhead ▸ hunbraced, hbody.append later⟩⟩
  · -- The text ends with a line break, so the closing brace is not its last character.
    have hclosed := hend.of_suffix (List.suffix_append ('{' :: inner) ('}' :: after))
    have hne : after ≠ [] := by
      rintro rfl
      cases hclosed '}' rfl
    have hchar := exists_not_blank_of_atLineStart (hclosed.of_suffix (List.suffix_cons '}' after)) hne
    exact ⟨name, blanks, '{' :: (inner ++ '}' :: (after ++ later)), by simp, hlead.of_head? fun c hc => hc,
      .inr ⟨inner, after ++ later, rfl, hcloses.append hchar later⟩⟩

/-- Where no tag is read, none is read either when the text ends with one of its lines. -/
theorem Tag.read?_eq_none_of_append {t : Text} (h : Tag.read? (t ++ later) = none) (hline : AtLineStart t) :
    Tag.read? t = none := by
  rw [← Option.not_isSome_iff_eq_none, Tag.read?_isSome_iff] at h ⊢
  exact fun haccepted => h (haccepted.append hline later)

/-- A tag is written in the same way when the text behind it is cut off somewhere. No earlier brace closes the options
then, as it would have closed them before, too. -/
theorem Tag.Written.of_append {tag : Tag} (h : tag.Written source (rest ++ later)) : tag.Written source rest := by
  have hhead : ∀ c ∈ rest.head?, c ∈ (rest ++ later).head? := fun c hc => by simp [Option.mem_def.1 hc]
  cases h with
  | @bare name blanks body source _ lead unbraced writes present =>
    have hv := head?_append_imp hhead source
    exact .bare (lead.of_head? hv) (fun hbrace => unbraced (hv '{' hbrace)) (writes.of_head? hhead) present
  | @withOptions name blanks inner body source _ lead writes first =>
    refine .withOptions (lead.of_head? fun c hc => hc) (writes.of_head? hhead) fun i j hij hcloses => ?_
    exact first i j hij (by simpa using hcloses.append ⟨'}', by simp, rfl⟩ later)

end TagDoc

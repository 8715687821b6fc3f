import Mathlib
import TagDoc.Proofs.Text.Words

/-!
# What slugs are

A slug is made of words of small ASCII letters and digits, with single hyphens between them. The slug of a text has the
words that are left of the text when it is folded and written small, and all but the characters of words and gaps are
left out.

## Main definitions

* `Text.IsSlugWord`, `Text.IsSlug`: the words of slugs, and slugs
* `Text.slugSource`: the characters of a text from which its slug is made
* `Text.isSlugBreak`: the characters between the words of a slug

## Main results

* `isSlug_iff`: a text is a slug just if all its pieces between hyphens are words
* `slugWords_eq_join`: the words of a text in its slug
* `isSlug_slug`: the slug of any text is a slug
* `slugWords_eq_self_iff`, `slug_slug`: a slug is its own slug
-/

namespace TagDoc.Text

variable {c : Char} {t word : Text}

/-- A word of a slug has small ASCII letters and digits, and at least one of them. -/
def IsSlugWord (word : Text) : Prop := word ≠ [] ∧ ∀ c ∈ word, c.isLower ∨ c.isDigit

instance : DecidablePred IsSlugWord := fun word =>
  decidable_of_iff (word ≠ [] ∧ word.all fun c => c.isLower || c.isDigit) (by simp [IsSlugWord])

/-- A slug has one word or more, with a single hyphen between every two. -/
def IsSlug (t : Text) : Prop := ∃ ws, ws ≠ [] ∧ (∀ word ∈ ws, IsSlugWord word) ∧ t = join ['-'] ws

theorem IsSlugWord.not_mem_hyphen (h : IsSlugWord word) : '-' ∉ word := by
  intro hmem
  have := h.2 '-' hmem
  revert this
  decide

/-- The pieces of a slug between hyphens are its words, so that it can be told whether a text is a slug. -/
theorem isSlug_iff : IsSlug t ↔ ∀ word ∈ splitOn '-' t, IsSlugWord word := by
  constructor
  · rintro ⟨ws, hne, hwords, rfl⟩
    rwa [splitOn_join hne fun word hmem => (hwords word hmem).not_mem_hyphen]
  · exact fun h => ⟨splitOn '-' t, splitOn_ne_nil '-' t, h, (join_splitOn '-' t).symm⟩

instance : DecidablePred IsSlug := fun _ => decidable_of_iff _ isSlug_iff.symm

theorem IsSlug.ne_nil (h : IsSlug t) : t ≠ [] := by
  obtain ⟨ws, hne, hwords, rfl⟩ := h
  exact fun hnil => hne ((join_eq_nil_iff fun word hmem => (hwords word hmem).1).1 hnil)

theorem IsSlug.of_mem (h : IsSlug t) (hc : c ∈ t) : c.isLower ∨ c.isDigit ∨ c = '-' := by
  obtain ⟨ws, -, hwords, rfl⟩ := h
  rcases mem_of_mem_join hc with hsep | ⟨word, hword, hc⟩
  · exact .inr (.inr (List.mem_singleton.1 hsep))
  · exact ((hwords word hword).2 c hc).imp id .inl

/-- A slug with one more word is a slug. -/
theorem IsSlug.append (h : IsSlug t) (hword : IsSlugWord word) : IsSlug (t ++ '-' :: word) := by
  obtain ⟨ws, hne, hwords, rfl⟩ := h
  refine ⟨ws ++ [word], by simp, ?_, ?_⟩
  · intro w hmem
    rcases List.mem_append.1 hmem with hmem | hmem
    · exact hwords w hmem
    · exact List.mem_singleton.1 hmem ▸ hword
  · rw [join_append hne (by simp)]
    simp [join]

/-! ### The slug of a text -/

/-- The characters of a text from which its slug is made. -/
def slugSource (t : Text) : Text := (toLower (fold t)).filter isSlugMaterial

/-- What stands between the words of a slug, or is written as what does. -/
def isSlugBreak (c : Char) : Bool := isSlugGap c || c == '-'

/-- To replace gaps, and then hyphens, and to take hyphens off the ends, is to join the words. -/
theorem slugWords_eq_join (t : Text) : slugWords t = join ['-'] (words isSlugBreak (slugSource t)) := by
  rw [slugWords, replaceRuns_replaceRuns rfl]
  exact trim_replaceRuns rfl (slugSource t)

theorem isSlugWord_of_mem_words (h : word ∈ words isSlugBreak (slugSource t)) : IsSlugWord word := by
  refine ⟨ne_nil_of_mem_words h, fun c hc => ?_⟩
  obtain ⟨hsource, hbreak⟩ := of_mem_words h hc
  obtain ⟨hlower, hmaterial⟩ := List.mem_filter.1 hsource
  obtain ⟨d, -, rfl⟩ := List.mem_map.1 hlower
  -- of what a slug is made of, only the letters and digits are no breaks
  have hupper := Char.isUpper_toLower_eq_false d
  simp only [isSlugBreak, isSlugGap, Bool.or_eq_false_iff] at hbreak
  simp only [isSlugMaterial, isWord, hbreak, Bool.or_false, Char.isAlphanum, Char.isAlpha, hupper, Bool.false_or,
    Bool.or_eq_true] at hmaterial
  exact hmaterial

theorem isSlug_slugWords (h : slugWords t ≠ []) : IsSlug (slugWords t) := by
  refine ⟨words isSlugBreak (slugSource t), fun hnone => h ?_, fun word => isSlugWord_of_mem_words, slugWords_eq_join t⟩
  rw [slugWords_eq_join, hnone]
  rfl

theorem isSlug_slug {fallback : Text} (hfallback : IsSlug fallback) (t : Text) : IsSlug (slug t fallback) := by
  by_cases hnone : slugWords t = []
  · rwa [slug_of_slugWords_eq_nil hnone]
  · rw [slug_of_slugWords_ne_nil hnone]
    exact isSlug_slugWords hnone

/-! ### The slug of a slug -/

theorem toNat_of_isLower_or_isDigit (hc : c.isLower ∨ c.isDigit) :
    97 ≤ c.toNat ∧ c.toNat ≤ 122 ∨ 48 ≤ c.toNat ∧ c.toNat ≤ 57 := by
  refine hc.imp (fun hlower => ?_) fun hdigit => ?_
  · simpa [Char.isLower, UInt32.le_iff_toNat_le] using hlower
  · simpa [Char.isDigit, UInt32.le_iff_toNat_le] using hdigit

theorem IsSlugWord.isSlugBreak_eq_false (h : IsSlugWord word) (hc : c ∈ word) : isSlugBreak c = false := by
  have hrange := toNat_of_isLower_or_isDigit (h.2 c hc)
  have hunderscore : c ≠ '_' := by
    rintro rfl
    revert hrange
    decide
  have hhyphen : c ≠ '-' := by
    rintro rfl
    exact h.not_mem_hyphen hc
  have hspace : isSpace c = false := by
    rw [Bool.eq_false_iff]
    simp only [isSpace, ne_eq, Bool.or_eq_true, Bool.and_eq_true, decide_eq_true_eq, beq_iff_eq]
    omega
  simp [isSlugBreak, isSlugGap, hspace, hunderscore, hhyphen]

/-- What a slug is made of stays as it is when it is folded and written small, and is not left out. -/
theorem IsSlug.of_mem_slug (h : IsSlug t) (hc : c ∈ t) : c.toNat < 128 ∧ c.toLower = c ∧ isSlugMaterial c = true := by
  rcases h.of_mem hc with hlower | hdigit | rfl
  · have hrange := toNat_of_isLower_or_isDigit (.inl hlower)
    refine ⟨by omega, Char.toLower_eq_of_not_isUpper (Char.not_isUpper_of_isLower hlower), ?_⟩
    simp [isSlugMaterial, isWord, Char.isAlphanum, Char.isAlpha, hlower]
  · have hrange := toNat_of_isLower_or_isDigit (.inr hdigit)
    refine ⟨by omega, Char.toLower_eq_of_not_isUpper ?_, ?_⟩
    · simp [Char.isUpper, UInt32.le_iff_toNat_le]
      omega
    · simp [isSlugMaterial, isWord, Char.isAlphanum, hdigit]
  · exact ⟨by decide, by decide, by decide⟩

theorem IsSlug.slugSource_eq (h : IsSlug t) : slugSource t = t := by
  have hfold : fold t = t := fold_of_ascii fun c hc => (h.of_mem_slug hc).1
  have hlower : toLower t = t := (List.map_congr_left fun c hc => (h.of_mem_slug hc).2.1).trans (List.map_id t)
  rw [slugSource, hfold, hlower, List.filter_eq_self]
  exact fun c hc => (h.of_mem_slug hc).2.2

/-- Of a text just itself is left if it is a slug or empty. -/
theorem slugWords_eq_self_iff : slugWords t = t ↔ t = [] ∨ IsSlug t := by
  constructor
  · intro h
    by_cases hnone : slugWords t = []
    · exact .inl (h.symm.trans hnone)
    · exact .inr (h ▸ isSlug_slugWords hnone)
  · rintro (rfl | hslug)
    · rfl
    · have hsource := hslug.slugSource_eq
      obtain ⟨ws, -, hwords, rfl⟩ := hslug
      rw [slugWords_eq_join, hsource, words_join rfl]
      exact fun word hword => ⟨(hwords word hword).1, fun c hc => (hwords word hword).isSlugBreak_eq_false hc⟩

/-- The slug of a slug is that slug, if the fallback is one or is empty. -/
theorem slug_slug {fallback : Text} (hfallback : fallback = [] ∨ IsSlug fallback) (t : Text) :
    slug (slug t fallback) fallback = slug t fallback := by
  have hfallback : slugWords fallback = fallback := slugWords_eq_self_iff.2 hfallback
  by_cases hnone : slugWords t = []
  · rw [slug_of_slugWords_eq_nil hnone]
    by_cases hempty : slugWords fallback = []
    · exact slug_of_slugWords_eq_nil hempty fallback
    · rw [slug_of_slugWords_ne_nil hempty, hfallback]
  · have hwords : slugWords (slugWords t) = slugWords t := slugWords_eq_self_iff.2 (.inr (isSlug_slugWords hnone))
    have hagain : slugWords (slugWords t) ≠ [] := by rwa [hwords]
    rw [slug_of_slugWords_ne_nil hnone, slug_of_slugWords_ne_nil hagain, hwords]

end TagDoc.Text

import TagDoc.Proofs.Text.Slug

/-!
# Slugs in terms of ASCII

Folding leaves ASCII characters only: all that stands in its table is ASCII, but for the dots between the entries. So of
the white space and of the letters that a slug looks for in a folded text, there are those of ASCII, and after the
letters are written small there are no others. A slug is made of the words that stand between these gaps.

## Main definitions

* `Text.isAsciiSpace`: the white space of ASCII
* `Text.isKeptInSlug`, `Text.separatesInSlug`: the characters of a folded text that count, and those between words

## Main results

* `toNat_lt_of_mem_fold`: a folded text is ASCII
* `slugSource_eq_filter`: what a slug is made of, in characters of ASCII
* `slug_eq_join_words`: a slug is the words of the folded text with single hyphens between them
-/

namespace TagDoc.Text

variable {c : Char} {t : Text} {p q : Char → Bool}

/-! ### Folded text is ASCII -/

/-- A literal is made of the characters that it is written with, and these are looked at one by one. -/
theorem all_toList_of_eq {s : String} (chars : List Char) (hs : s = String.ofList chars) (hall : chars.all p = true) :
    s.toList.all p = true := by
  rw [hs, String.toList_ofList, hall]

set_option maxRecDepth 4000 in
/-- The table of foldings is written in ASCII, with dots between its entries. -/
theorem foldRuns_ascii : ∀ run ∈ foldRuns, run.toList.all (fun c => c.toNat < 128 || c == '·') = true := by
  rw [foldRuns]
  -- row by row, as a literal is read much faster than it is decoded
  repeat refine List.forall_mem_cons.2 ⟨all_toList_of_eq _ rfl (by decide +kernel), ?_⟩
  exact nofun

/-- What all entries have in common, all that is found in a table of them has, and what stands for a missing entry. -/
theorem forall_getD_insertMany {P : Text → Prop} (table : Std.HashMap Nat Text) (entries : List (Nat × Text))
    (htable : ∀ n, P (table.getD n [])) (hentries : ∀ entry ∈ entries, P entry.2) :
    ∀ n, P ((table.insertMany entries).getD n []) := by
  -- on the entries that are still to be put in
  induction entries generalizing table with
  | nil => simpa using htable
  | cons entry entries ih =>
    obtain ⟨hentry, hlater⟩ := List.forall_mem_cons.1 hentries
    rw [Std.HashMap.insertMany_cons]
    refine ih _ (fun n => ?_) hlater
    rw [Std.HashMap.getD_insert]
    split
    · exact hentry
    · exact htable n

theorem toNat_lt_of_mem_foldTable (n : Nat) : ∀ c ∈ foldTable.getD n [], c.toNat < 128 := by
  rw [foldTable, Std.HashMap.ofList_eq_insertMany_empty]
  refine forall_getD_insertMany (P := fun item => ∀ c ∈ item, c.toNat < 128) ∅ _ (by simp) ?_ n
  intro entry hentry c hc
  obtain ⟨run, hrun, hentry⟩ := List.mem_flatMap.1 hentry
  split at hentry
  · cases hentry
  · rename_i first items hitems
    obtain ⟨⟨item, i⟩, hitem, rfl⟩ := List.mem_map.1 hentry
    have hitem : item ∈ splitOn '·' run.toList :=
      hitems ▸ List.mem_cons_of_mem first (List.fst_mem_of_mem_zipIdx hitem)
    -- the entry is a piece of its row between dots, so its characters are of the row and are no dots
    have hrow : c ∈ run.toList := join_splitOn '·' run.toList ▸ mem_join_of_mem hitem hc
    have hdot : c ≠ '·' := by
      rintro rfl
      exact not_mem_of_mem_splitOn hitem hc
    simpa [hdot] using List.all_eq_true.1 (foldRuns_ascii run hrun) c hrow

/-- A folded text is ASCII. -/
theorem toNat_lt_of_mem_fold (hc : c ∈ fold t) : c.toNat < 128 := by
  obtain ⟨d, -, hc⟩ := List.mem_flatMap.1 hc
  rw [foldChar] at hc
  split at hc
  · rename_i hascii
    exact List.mem_singleton.1 hc ▸ hascii
  · exact toNat_lt_of_mem_foldTable d.toNat c hc

/-! ### The characters that count -/

/-- The white space of ASCII: tab, line breaks, page break, the four controls that separate records, and the space. -/
def isAsciiSpace (c : Char) : Bool := (0x09 ≤ c.toNat && c.toNat ≤ 0x0D) || (0x1C ≤ c.toNat && c.toNat ≤ 0x20)

/-- What is kept of a folded text in small letters: letters and digits, and what can stand between words. -/
def isKeptInSlug (c : Char) : Bool := c.isLower || c.isDigit || c == '_' || c == '-' || isAsciiSpace c

/-- What stands between the words of a folded text. -/
def separatesInSlug (c : Char) : Bool := isAsciiSpace c || c == '_' || c == '-'

theorem isSpace_eq_isAsciiSpace (hc : c.toNat < 128) : isSpace c = isAsciiSpace c := by
  rw [Bool.eq_iff_iff]
  simp only [isSpace, isAsciiSpace, Bool.or_eq_true, Bool.and_eq_true, decide_eq_true_eq, beq_iff_eq]
  -- white space from the next-line control on is not ASCII
  omega

theorem isSlugMaterial_eq_isKeptInSlug (hc : c.toNat < 128) (hupper : c.isUpper = false) :
    isSlugMaterial c = isKeptInSlug c := by
  rw [isSlugMaterial, isKeptInSlug, isWord, Char.isAlphanum, Char.isAlpha, hupper, isSpace_eq_isAsciiSpace hc]
  ac_rfl

theorem isSlugBreak_eq_separatesInSlug (hc : c.toNat < 128) : isSlugBreak c = separatesInSlug c := by
  rw [isSlugBreak, isSlugGap, separatesInSlug, isSpace_eq_isAsciiSpace hc]

theorem toNat_toLower_lt (hc : c.toNat < 128) : c.toLower.toNat < 128 := by
  rw [Char.toLower]
  split
  · rename_i hupper
    -- a capital is Z at most, and its small letter comes thirty-two places after it
    have hlast : c.val.toNat ≤ 90 := UInt32.le_iff_toNat_le.1 hupper.2
    have hsum : (c.val + 32).toNat = c.val.toNat + 32 := by
      rw [UInt32.toNat_add]
      exact Nat.mod_eq_of_lt (by simp; omega)
    have hlower : (c.val + 32).toNat < 128 := by omega
    exact hlower
  · exact hc

/-- A character of a folded text in small letters is ASCII and no capital. -/
theorem of_mem_toLower_fold (hc : c ∈ toLower (fold t)) : c.toNat < 128 ∧ c.isUpper = false := by
  obtain ⟨d, hd, rfl⟩ := List.mem_map.1 hc
  exact ⟨toNat_toLower_lt (toNat_lt_of_mem_fold hd), Char.isUpper_toLower_eq_false d⟩

/-- A slug is made of the small letters and digits, the underscores and hyphens, and the white space of ASCII that are
left when the text is folded. -/
theorem slugSource_eq_filter (t : Text) : slugSource t = ((fold t).map Char.toLower).filter isKeptInSlug := by
  refine List.filter_congr fun c hc => ?_
  obtain ⟨hascii, hupper⟩ := of_mem_toLower_fold hc
  exact isSlugMaterial_eq_isKeptInSlug hascii hupper

/-! ### Words -/

/-- The words of a text depend on which of its characters are gaps. -/
theorem words_congr (hgap : ∀ c ∈ t, p c = q c) : words p t = words q t := by
  have hpieces : t.splitOnP p = t.splitOnP q := by
    induction t with
    | nil => rfl
    | cons c t ih =>
      obtain ⟨hc, ht⟩ := List.forall_mem_cons.1 hgap
      rw [List.splitOnP_cons_eq_if_modifyHead, List.splitOnP_cons_eq_if_modifyHead, hc, ih ht]
  rw [words, words, hpieces]

theorem words_slugSource (t : Text) : words isSlugBreak (slugSource t) = words separatesInSlug (slugSource t) := by
  refine words_congr fun c hc => isSlugBreak_eq_separatesInSlug ?_
  exact (of_mem_toLower_fold (List.mem_filter.1 hc).1).1

/-- The slug of a text: the text is folded to ASCII and written in small letters, of which small letters and digits,
underscores, hyphens and white space are kept. The words between any mix of the last three are joined with single hyphens.
If there are none, the fallback stands in; if there are some, the slug is not empty and made of them. -/
theorem slug_eq_join_words (t fallback : Text) :
    (∀ c ∈ fold t, c.toNat < 128) ∧
      let kept := ((fold t).map Char.toLower).filter isKeptInSlug
      let ws := words separatesInSlug kept
      slug t fallback = (if ws = [] then fallback else join ['-'] ws) ∧
        (ws ≠ [] → slug t fallback ≠ [] ∧ IsSlug (slug t fallback)) := by
  refine ⟨fun c hc => toNat_lt_of_mem_fold hc, ?_⟩
  intro kept ws
  have hwords : words isSlugBreak (slugSource t) = ws := by rw [words_slugSource, slugSource_eq_filter]
  have hjoin : slugWords t = join ['-'] ws := by rw [slugWords_eq_join, hwords]
  have hnone : slugWords t = [] ↔ ws = [] := by
    rw [hjoin, join_eq_nil_iff fun word hword => ne_nil_of_mem_words hword]
  by_cases hws : ws = []
  · rw [slug_of_slugWords_eq_nil (hnone.2 hws), if_pos hws]
    exact ⟨rfl, fun hne => absurd hws hne⟩
  · rw [slug_of_slugWords_ne_nil fun hnil => hws (hnone.1 hnil), if_neg hws, hjoin]
    have hslug : IsSlug (join ['-'] ws) :=
      ⟨ws, hws, fun word hword => isSlugWord_of_mem_words (hwords ▸ hword), rfl⟩
    exact ⟨rfl, fun _ => ⟨hslug.ne_nil, hslug⟩⟩

/-- Gaps of all kinds stand between the words and at both ends; an apostrophe that is left out splits no word and ends no
gap. -/
theorem slug_eq_join_words_of_gaps :
    let t := "-_ It's\x1c-'_ v2\n--\t".toList
    let ws := words separatesInSlug (((fold t).map Char.toLower).filter isKeptInSlug)
    't' ∈ fold t ∧ 't'.toNat < 128 ∧ ws ≠ [] ∧ ws = ["its", "v2"].map (·.toList) ∧ slug t [] = "its-v2".toList ∧
      slug t [] ≠ [] ∧ IsSlug (slug t []) := by
  intro t ws
  have hws : ws = ["its", "v2"].map (·.toList) := by decide +kernel
  have hne : ws ≠ [] := hws ▸ List.cons_ne_nil _ _
  have hmem : 't' ∈ fold t := by decide +kernel
  obtain ⟨hascii, hslug, hshape⟩ := slug_eq_join_words t []
  obtain ⟨hnil, hform⟩ := hshape hne
  refine ⟨hmem, hascii 't' hmem, hne, hws, ?_, hnil, hform⟩
  rw [hslug, if_neg hne]
  exact congrArg (join ['-']) hws

end TagDoc.Text

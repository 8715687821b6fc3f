import TagDoc.Proofs.Text.Run
import TagDoc.Text.Slug

/-!
# Words

The words of a text are its pieces between runs of certain characters. To make a separator of every run, and take the
separators at the two ends off, is to join the words. In the same terms a text with a separator between every two pieces
is split into those pieces again.

## Main definitions

* `Text.words`: the words of a text

## Main results

* `splitOn_join`, `join_splitOn`: joining pieces and splitting at the separator undo each other
* `replaceRuns_replaceRuns`: replacing the runs of two classes one after the other
* `replaceRuns_eq_join`: a text whose runs are replaced is made of its words
* `trim_replaceRuns`: its words are what is left between its ends
-/

namespace TagDoc.Text

variable {p q gap : Char → Bool} {c d : Char} {t sep : Text}

/-! ### Joining -/

theorem join_cons_cons (sep piece next : Text) (pieces : List Text) :
    join sep (piece :: next :: pieces) = piece ++ sep ++ join sep (next :: pieces) := rfl

/-- A piece joined to others stands behind one separator, unless there are none. -/
theorem join_cons (sep piece : Text) (pieces : List Text) :
    join sep (piece :: pieces) = piece ++ if pieces = [] then [] else sep ++ join sep pieces := by
  cases pieces with
  | nil => exact (List.append_nil piece).symm
  | cons next pieces => rw [join_cons_cons, if_neg (List.cons_ne_nil _ _), List.append_assoc]

theorem join_append {pieces more : List Text} (hpieces : pieces ≠ []) (hmore : more ≠ []) (sep : Text) :
    join sep (pieces ++ more) = join sep pieces ++ sep ++ join sep more := by
  induction pieces with
  | nil => exact absurd rfl hpieces
  | cons piece pieces ih =>
    rw [List.cons_append, join_cons, join_cons, if_neg (by simp [hmore])]
    split
    · subst pieces
      simp
    · rename_i hne
      rw [ih hne]
      simp only [List.append_assoc]

theorem join_append_singleton (sep last : Text) (pieces : List Text) :
    join sep (pieces ++ [last]) = pieces.flatMap (· ++ sep) ++ last := by
  induction pieces with
  | nil => rfl
  | cons piece pieces ih =>
    rw [List.cons_append, join_cons, if_neg (by simp), ih, List.flatMap_cons]
    simp only [List.append_assoc]

theorem join_eq_nil_iff {pieces : List Text} (h : ∀ piece ∈ pieces, piece ≠ []) :
    join sep pieces = [] ↔ pieces = [] := by
  cases pieces with
  | nil => simp [join]
  | cons piece pieces => simp [join_cons, h piece (by simp)]

/-- What stands in a text that was joined stands in a piece or a separator. -/
theorem mem_of_mem_join {pieces : List Text} (hc : c ∈ join sep pieces) : c ∈ sep ∨ ∃ piece ∈ pieces, c ∈ piece := by
  induction pieces with
  | nil => cases hc
  | cons piece pieces ih =>
    rw [join_cons, List.mem_append] at hc
    rcases hc with hc | hc
    · exact .inr ⟨piece, by simp, hc⟩
    · split at hc
      · cases hc
      · rcases List.mem_append.1 hc with hc | hc
        · exact .inl hc
        · exact (ih hc).imp id fun ⟨piece, hmem, hc⟩ => ⟨piece, List.mem_cons_of_mem _ hmem, hc⟩

/-- What stands in a piece stands in the text that is joined. -/
theorem mem_join_of_mem {piece : Text} {pieces : List Text} (hpiece : piece ∈ pieces) (hc : c ∈ piece) :
    c ∈ join sep pieces := by
  induction pieces with
  | nil => cases hpiece
  | cons first pieces ih =>
    rw [join_cons, List.mem_append]
    rcases List.mem_cons.1 hpiece with rfl | hlater
    · exact .inl hc
    · rw [if_neg (List.ne_nil_of_mem hlater), List.mem_append]
      exact .inr (.inr (ih hlater))

/-- A text that was joined begins as its first piece does. -/
theorem head?_join {piece : Text} (hpiece : piece ≠ []) (pieces : List Text) :
    (join sep (piece :: pieces)).head? = piece.head? := by
  rw [join_cons, List.head?_append_of_ne_nil _ hpiece]

/-- A text that was joined ends as its last piece does. -/
theorem getLast?_join {last : Text} (hlast : last ≠ []) (pieces : List Text) :
    (join sep (pieces ++ [last])).getLast? = last.getLast? := by
  rw [join_append_singleton, List.getLast?_append_of_ne_nil _ hlast]

theorem join_splitOn (sep : Char) (t : Text) : join [sep] (splitOn sep t) = t := by
  induction t with
  | nil => rfl
  | cons c t ih =>
    rw [splitOn]
    split
    · subst c
      rw [join_cons, if_neg (splitOn_ne_nil sep t), ih]
      rfl
    · cases hpieces : splitOn sep t with
      | nil => exact absurd hpieces (splitOn_ne_nil sep t)
      | cons piece pieces =>
        rw [hpieces, join_cons] at ih
        dsimp only
        rw [join_cons, List.cons_append, ih]

theorem splitOn_join {sep : Char} {pieces : List Text} (hne : pieces ≠ []) (h : ∀ piece ∈ pieces, sep ∉ piece) :
    splitOn sep (join [sep] pieces) = pieces := by
  induction pieces with
  | nil => exact absurd rfl hne
  | cons piece pieces ih =>
    obtain ⟨hpiece, hpieces⟩ := List.forall_mem_cons.1 h
    cases pieces with
    | nil => exact splitOn_of_not_mem hpiece
    | cons next pieces =>
      rw [join_cons_cons, List.append_assoc, List.singleton_append, splitOn_append_cons hpiece,
        ih (List.cons_ne_nil _ _) hpieces]

/-! ### Words -/

/-- The words of a text: its pieces between the runs of characters of `gap`. -/
def words (gap : Char → Bool) (t : Text) : List Text := (t.splitOnP gap).filter (!·.isEmpty)

@[simp] theorem words_nil : words gap [] = [] := by simp [words]

theorem words_cons_of_gap (hc : gap c = true) (t : Text) : words gap (c :: t) = words gap t := by
  simp [words, List.splitOnP_cons_eq_if_modifyHead, hc]

/-- A word is over at the next gap. -/
theorem words_cons_of_stops (hc : gap c = false) (ht : ∀ e ∈ t.head?, gap e = true) :
    words gap (c :: t) = [c] :: words gap t := by
  cases t with
  | nil => simp [words, List.splitOnP_cons_eq_if_modifyHead, hc]
  | cons e t => simp [words, List.splitOnP_cons_eq_if_modifyHead, hc, ht e rfl]

/-- A word goes on up to the next gap. -/
theorem exists_words_cons_cons {e : Char} (hc : gap c = false) (he : gap e = false) (t : Text) :
    ∃ word rest, words gap (e :: t) = word :: rest ∧ words gap (c :: e :: t) = (c :: word) :: rest := by
  obtain ⟨piece, pieces, hpieces⟩ := List.exists_cons_of_ne_nil (List.splitOnP_ne_nil gap t)
  refine ⟨e :: piece, pieces.filter (!·.isEmpty), ?_, ?_⟩
  · simp [words, List.splitOnP_cons_eq_if_modifyHead, he, hpieces]
  · simp [words, List.splitOnP_cons_eq_if_modifyHead, hc, he, hpieces]

/-- Induction on a text along its words: it goes on with a gap, with the end of a word, or within a word. -/
@[elab_as_elim]
theorem words_induction {motive : Text → Prop} (gap : Char → Bool) (t : Text) (nil : motive [])
    (blank : ∀ c t, gap c = true → motive t → motive (c :: t))
    (ends : ∀ c t, gap c = false → (∀ e ∈ t.head?, gap e = true) → motive t → motive (c :: t))
    (within : ∀ c e t, gap c = false → gap e = false → motive (e :: t) → motive (c :: e :: t)) : motive t := by
  induction t with
  | nil => exact nil
  | cons c t ih =>
    cases hc : gap c with
    | true => exact blank c t hc ih
    | false =>
      cases t with
      | nil => exact ends c [] hc (by simp) ih
      | cons e t =>
        cases he : gap e with
        | true => exact ends c (e :: t) hc (by simpa using he) ih
        | false => exact within c e t hc he ih

theorem ne_nil_of_mem_words {word : Text} (h : word ∈ words gap t) : word ≠ [] := by
  simpa using (List.mem_filter.1 h).2

/-- A word has characters of the text only, and no gap. -/
theorem of_mem_words {word : Text} (hword : word ∈ words gap t) (hc : c ∈ word) : c ∈ t ∧ gap c = false := by
  induction t using words_induction gap generalizing word with
  | nil => simp at hword
  | blank e t he ih =>
    rw [words_cons_of_gap he] at hword
    exact (ih hword hc).imp (List.mem_cons_of_mem e) id
  | ends e t he ht ih =>
    rw [words_cons_of_stops he ht] at hword
    rcases List.mem_cons.1 hword with rfl | hword
    · obtain rfl := List.mem_singleton.1 hc
      exact ⟨List.mem_cons_self, he⟩
    · exact (ih hword hc).imp (List.mem_cons_of_mem e) id
  | within e f t he hf ih =>
    obtain ⟨first, rest, hwords, hmore⟩ := exists_words_cons_cons he hf t
    rw [hmore] at hword
    rcases List.mem_cons.1 hword with rfl | hword
    · rcases List.mem_cons.1 hc with rfl | hc
      · exact ⟨List.mem_cons_self, he⟩
      · exact (ih (hwords ▸ List.mem_cons_self) hc).imp (List.mem_cons_of_mem e) id
    · exact (ih (hwords ▸ List.mem_cons_of_mem first hword) hc).imp (List.mem_cons_of_mem e) id

/-- Words are the words of the text that they are joined to with a gap between every two. -/
theorem words_join {ws : List Text} (hd : gap d = true) (hwords : ∀ word ∈ ws, word ≠ [] ∧ ∀ c ∈ word, gap c = false) :
    words gap (join [d] ws) = ws := by
  induction ws with
  | nil => exact words_nil
  | cons word ws ih =>
    obtain ⟨⟨hne, hword⟩, hlater⟩ := List.forall_mem_cons.1 hwords
    cases ws with
    | nil => simp [join, words, List.splitOnP_eq_singleton hword, hne]
    | cons next ws =>
      have hfirst : words gap (word ++ d :: join [d] (next :: ws)) = word :: words gap (join [d] (next :: ws)) := by
        simp [words, List.splitOnP_append_cons_of_forall_mem hword d hd, hne]
      rw [join_cons_cons, List.append_assoc, List.singleton_append, hfirst, ih hlater]

/-! ### Runs replaced -/

theorem replaceRuns_cons_of_not (hc : p c = false) (d : Char) (t : Text) :
    replaceRuns p d (c :: t) = c :: replaceRuns p d t := by
  rw [replaceRuns, if_pos (by simp [hc])]

/-- A character is replaced if it is the last of its run, and left out if it is not. -/
theorem replaceRuns_cons_of_mem (hc : p c = true) (d : Char) (t : Text) :
    replaceRuns p d (c :: t) = if t.head?.any p then replaceRuns p d t else d :: replaceRuns p d t := by
  rw [replaceRuns, if_neg (by simp [hc])]

/-- A text with runs replaced begins with a character of a class that has the replacement, if the text begins with one
of that class or with a run. -/
theorem any_head?_replaceRuns (hd : q d = true) (t : Text) :
    (replaceRuns p d t).head?.any q = t.head?.any fun c => p c || q c := by
  induction t with
  | nil => rfl
  | cons c t ih =>
    cases hc : p c with
    | false => simp [replaceRuns_cons_of_not hc, hc]
    | true =>
      rw [replaceRuns_cons_of_mem hc]
      split
      · -- the run goes on, so that the rest of the text begins with it as well
        rename_i hrun
        rw [ih]
        cases t <;> simp_all
      · simp [hc, hd]

/-- To replace the runs of one class and then those of another that has the replacement is to replace the runs of
both. -/
theorem replaceRuns_replaceRuns (hd : q d = true) (t : Text) :
    replaceRuns q d (replaceRuns p d t) = replaceRuns (fun c => p c || q c) d t := by
  induction t with
  | nil => rfl
  | cons c t ih =>
    have hhead := any_head?_replaceRuns (p := p) hd t
    cases hc : p c with
    | false =>
      rw [replaceRuns_cons_of_not hc]
      cases hq : q c with
      | false => rw [replaceRuns_cons_of_not hq, replaceRuns_cons_of_not (by simp [hc, hq]), ih]
      | true => rw [replaceRuns_cons_of_mem hq, replaceRuns_cons_of_mem (by simp [hq]), hhead, ih]
    | true =>
      rw [replaceRuns_cons_of_mem hc, replaceRuns_cons_of_mem (by simp [hc]), ← hhead, ← ih]
      split
      · rename_i hrun
        have hboth : (replaceRuns p d t).head?.any q = true := by
          rw [hhead]
          cases t <;> simp_all
        rw [if_pos hboth]
      · rw [replaceRuns_cons_of_mem hd]

/-- A text whose runs of gaps are replaced is made of its words, with the replacement between every two. It is also in
front of them if the text begins with a gap, and may be behind them. -/
theorem exists_replaceRuns_eq_join (gap : Char → Bool) (d : Char) (t : Text) :
    ∃ tail, (∀ c ∈ tail, c = d) ∧
      replaceRuns gap d t = (if t.head?.any gap then [d] else []) ++ join [d] (words gap t) ++ tail := by
  induction t using words_induction gap with
  | nil => exact ⟨[], by simp, by simp [replaceRuns, join]⟩
  | blank c t hc ih =>
    obtain ⟨tail, htail, heq⟩ := ih
    refine ⟨tail, htail, ?_⟩
    rw [replaceRuns_cons_of_mem hc, words_cons_of_gap hc, heq]
    split <;> simp_all
  | ends c t hc ht ih =>
    obtain ⟨tail, htail, heq⟩ := ih
    rw [replaceRuns_cons_of_not hc, words_cons_of_stops hc ht, heq]
    cases t with
    | nil => exact ⟨tail, htail, by simp [hc, join]⟩
    | cons e t =>
      have he : gap e = true := ht e rfl
      by_cases hwords : words gap (e :: t) = []
      · -- only gaps are left, and become the tail
        exact ⟨d :: tail, by simpa using htail, by simp [hc, he, hwords, join]⟩
      · exact ⟨tail, htail, by simp [hc, he, hwords, join_cons]⟩
  | within c e t hc he ih =>
    obtain ⟨tail, htail, heq⟩ := ih
    obtain ⟨word, rest, hwords, hmore⟩ := exists_words_cons_cons hc he t
    refine ⟨tail, htail, ?_⟩
    rw [replaceRuns_cons_of_not hc, heq, hwords, hmore]
    simp [hc, he, join_cons]

/-! ### Ends taken off -/

section Ends

variable {α : Type} {p : α → Bool} {t : List α}

theorem trim_of_forall_mem (h : ∀ c ∈ t, p c = true) : trim p t = [] := by
  have hstart : stripStart p t = [] := List.dropWhile_eq_nil_iff.2 h
  rw [trim, hstart]
  rfl

/-- A text that neither begins nor ends with characters of a class is what is left of it when such characters around it
are taken off. -/
theorem trim_append_append {lead tail : List α} (hlead : ∀ c ∈ lead, p c = true) (htail : ∀ c ∈ tail, p c = true)
    (hfirst : ∀ c ∈ t.head?, p c = false) (hlast : ∀ c ∈ t.getLast?, p c = false) :
    trim p (lead ++ t ++ tail) = t := by
  by_cases hne : t = []
  · -- with nothing between them, the two ends are one run
    subst t
    exact trim_of_forall_mem (by simpa [or_imp, forall_and] using ⟨hlead, htail⟩)
  · have hstart : Run p lead (t ++ tail) := ⟨hlead, by rwa [List.head?_append_of_ne_nil _ hne]⟩
    have hend : Run p tail.reverse t.reverse := ⟨by simpa using htail, by rwa [List.head?_reverse]⟩
    rw [trim, stripStart, List.append_assoc, hstart.dropWhile_append, stripEnd, List.reverse_append,
      hend.dropWhile_append, List.reverse_reverse]

/-- What is left of a text between two ends of characters of a class neither begins nor ends with one. -/
theorem exists_ends (p : α → Bool) (t : List α) :
    ∃ lead tail, t = lead ++ trim p t ++ tail ∧ (∀ c ∈ lead, p c = true) ∧ (∀ c ∈ tail, p c = true) ∧
      (∀ c ∈ (trim p t).head?, p c = false) ∧ ∀ c ∈ (trim p t).getLast?, p c = false := by
  have hstart := run_takeWhile p t
  have hend := run_takeWhile p (t.dropWhile p).reverse
  have hcut : trim p t ++ ((t.dropWhile p).reverse.takeWhile p).reverse = t.dropWhile p := by
    rw [trim, stripEnd, stripStart, ← List.reverse_append, List.takeWhile_append_dropWhile, List.reverse_reverse]
  refine ⟨_, _, ?_, hstart.all, fun c hc => hend.all c (List.mem_reverse.1 hc), fun c hc => ?_, fun c hc => ?_⟩
  · rw [List.append_assoc, hcut, List.takeWhile_append_dropWhile]
  · refine hstart.stops c ?_
    rw [← hcut, List.head?_append_of_ne_nil _ (List.ne_nil_of_mem (List.mem_of_mem_head? hc))]
    exact hc
  · rw [trim, stripEnd, List.getLast?_reverse] at hc
    exact hend.stops c hc

end Ends

theorem of_mem_head?_join_words (hc : c ∈ (join sep (words gap t)).head?) : gap c = false := by
  cases hwords : words gap t with
  | nil => simp [hwords, join] at hc
  | cons word rest =>
    have hword : word ∈ words gap t := hwords ▸ List.mem_cons_self
    rw [hwords, head?_join (ne_nil_of_mem_words hword)] at hc
    exact (of_mem_words hword (List.mem_of_mem_head? hc)).2

theorem of_mem_getLast?_join_words (hc : c ∈ (join sep (words gap t)).getLast?) : gap c = false := by
  rcases List.eq_nil_or_concat (words gap t) with hwords | ⟨rest, word, hwords⟩
  · simp [hwords, join] at hc
  · have hword : word ∈ words gap t := by simp [hwords]
    rw [hwords, List.concat_eq_append, getLast?_join (ne_nil_of_mem_words hword)] at hc
    exact (of_mem_words hword (List.mem_of_mem_getLast? hc)).2

/-- A text whose runs of gaps are replaced, without the replacements at its ends, is its words with a replacement
between every two. -/
theorem trim_replaceRuns (hd : gap d = true) (t : Text) :
    trim (· == d) (replaceRuns gap d t) = join [d] (words gap t) := by
  obtain ⟨tail, htail, heq⟩ := exists_replaceRuns_eq_join gap d t
  have hdiff : ∀ c, gap c = false → (c == d) = false := by
    intro c hc
    rw [beq_eq_false_iff_ne]
    rintro rfl
    simp [hc] at hd
  rw [heq]
  refine trim_append_append ?_ (by simpa using htail) (fun c hc => hdiff c (of_mem_head?_join_words hc))
    fun c hc => hdiff c (of_mem_getLast?_join_words hc)
  split <;> simp

end TagDoc.Text

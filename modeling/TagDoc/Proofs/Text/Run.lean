import Mathlib.Data.List.Basic
import Mathlib.Data.List.TakeWhile
import TagDoc.Text.Basic

/-!
# Runs and lines

A reader takes the longest run of a class of characters off the start of a text. A run is pinned down by what it
holds and by where it stops, so two texts put together can be read as a run and its rest without a search. The same holds of
any list, such as one of code points.

The first line of a text is such a run. `AtLineEnd` and `AtLineStart` speak of the two sides of a line break. Lines are
also what is left when a text is split at its line breaks.

## Main definitions

* `Text.Run`: a run of a class of characters, and the text at which it stops
* `Text.AtLineEnd`: a text at the start of which a line is over
* `Text.AtLineStart`: a text after which a line begins

## Main results

* `Run.takeWhile_append`, `Run.dropWhile_append`: a run is what is read, and its rest is what is left
* `takeLine_append`, `dropLine_append`: the same for a line
* `lines_induction`: induction on the lines of a text
* `splitOn_append_cons`: the first piece of a text that is split
-/

namespace TagDoc.Text

section Runs

variable {α : Type} {p : α → Bool} {run rest rest' : List α}

/-- `run` consists of characters of the class `p`, and `rest` does not go on with one. -/
structure Run (p : α → Bool) (run rest : List α) : Prop where
  all : ∀ c ∈ run, p c = true
  stops : ∀ c ∈ rest.head?, p c = false

theorem takeWhile_eq_nil_of_stops (h : ∀ c ∈ rest.head?, p c = false) : rest.takeWhile p = [] := by
  cases rest with
  | nil => rfl
  | cons c rest => simp [h c rfl]

theorem dropWhile_eq_self_of_stops (h : ∀ c ∈ rest.head?, p c = false) : rest.dropWhile p = rest := by
  cases rest with
  | nil => rfl
  | cons c rest => simp [h c rfl]

theorem Run.takeWhile_append (h : Run p run rest) : (run ++ rest).takeWhile p = run := by
  rw [List.takeWhile_append_of_pos h.all, takeWhile_eq_nil_of_stops h.stops, List.append_nil]

theorem Run.dropWhile_append (h : Run p run rest) : (run ++ rest).dropWhile p = rest := by
  rw [List.dropWhile_append_of_pos h.all, dropWhile_eq_self_of_stops h.stops]

theorem run_takeWhile (p : α → Bool) (t : List α) : Run p (t.takeWhile p) (t.dropWhile p) where
  all _ hc := List.mem_takeWhile_imp hc
  stops c hc := by
    have hnot := List.head?_dropWhile_not p t
    rw [Option.mem_def.1 hc] at hnot
    simpa using hnot

/-- Whether a run stops depends on the first character after it only, and it stops where nothing comes after it. -/
theorem Run.of_head? (h : Run p run rest) (hrest : ∀ c ∈ rest'.head?, c ∈ rest.head?) :
    Run p run rest' :=
  ⟨h.all, fun c hc => h.stops c (hrest c hc)⟩

/-- Texts that begin alike, or of which one is empty, do so behind the same text. -/
theorem head?_append_imp (h : ∀ c ∈ rest'.head?, c ∈ rest.head?) (lead : List α) :
    ∀ c ∈ (lead ++ rest').head?, c ∈ (lead ++ rest).head? := by
  cases lead with
  | nil => exact h
  | cons d lead => exact fun c hc => hc

end Runs

variable {rest t : Text}

/-! ### Lines -/

/-- At the start of `rest` a line is over: there is a line break, or nothing more. -/
def AtLineEnd (rest : Text) : Prop := ∀ c ∈ rest.head?, c = '\n'

/-- A line begins after `before`: it ends with a line break, or is empty. -/
def AtLineStart (before : Text) : Prop := ∀ c ∈ before.getLast?, c = '\n'

theorem atLineEnd_nil : AtLineEnd [] := by
  intro c hc
  cases hc

theorem atLineEnd_cons : AtLineEnd ('\n' :: rest) := by
  intro c hc
  exact (Option.mem_some_iff.1 hc).symm

theorem run_line_iff {line : Text} : Run (· != '\n') line rest ↔ '\n' ∉ line ∧ AtLineEnd rest := by
  constructor
  · intro h
    refine ⟨fun hmem => ?_, fun c hc => ?_⟩
    · have := h.all _ hmem
      simp at this
    · simpa using h.stops c hc
  · rintro ⟨hline, hrest⟩
    refine ⟨fun c hc => ?_, fun c hc => ?_⟩
    · have : c ≠ '\n' := fun heq => hline (heq ▸ hc)
      simpa using this
    · simpa using hrest c hc

theorem takeLine_append {line : Text} (hline : '\n' ∉ line) (hrest : AtLineEnd rest) :
    takeLine (line ++ rest) = line :=
  (run_line_iff.2 ⟨hline, hrest⟩).takeWhile_append

theorem dropLine_append {line : Text} (hline : '\n' ∉ line) (hrest : AtLineEnd rest) :
    dropLine (line ++ rest) = rest :=
  (run_line_iff.2 ⟨hline, hrest⟩).dropWhile_append

/-- A text without a line break is its first line. -/
theorem takeLine_of_not_mem {line : Text} (hline : '\n' ∉ line) : takeLine line = line := by
  simpa using takeLine_append hline atLineEnd_nil

theorem dropLine_of_not_mem {line : Text} (hline : '\n' ∉ line) : dropLine line = [] := by
  simpa using dropLine_append hline atLineEnd_nil

theorem not_mem_takeLine (t : Text) : '\n' ∉ takeLine t := (run_line_iff.1 (run_takeWhile _ t)).1

theorem atLineEnd_dropLine (t : Text) : AtLineEnd (dropLine t) := (run_line_iff.1 (run_takeWhile _ t)).2

theorem atLineStart_nil : AtLineStart [] := by
  intro c hc
  cases hc

theorem AtLineStart.of_suffix (h : AtLineStart t) (hrest : rest <:+ t) : AtLineStart rest := by
  obtain ⟨before, rfl⟩ := hrest
  intro c hc
  exact h c (List.mem_getLast?_append_of_mem_getLast? hc)

theorem AtLineStart.getLast? (h : AtLineStart t) (hne : t ≠ []) : t.getLast? = some '\n' := by
  have hlast := List.getLast?_eq_some_getLast hne
  rwa [h _ hlast] at hlast

/-- A text is one line, or a line, its break, and later lines. -/
theorem exists_line (t : Text) : '\n' ∉ t ∨ ∃ line after, '\n' ∉ line ∧ t = line ++ '\n' :: after := by
  by_cases h : '\n' ∈ t
  · obtain ⟨line, after, rfl, hline⟩ := List.eq_append_cons_of_mem h
    exact .inr ⟨line, after, hline, rfl⟩
  · exact .inl h

/-- Induction on the lines of a text, the last of which has no break. -/
@[elab_as_elim]
theorem lines_induction {motive : Text → Prop} (t : Text) (last : ∀ line, '\n' ∉ line → motive line)
    (line : ∀ line after, '\n' ∉ line → motive after → motive (line ++ '\n' :: after)) : motive t := by
  generalize hlen : t.length = n
  induction n using Nat.strong_induction_on generalizing t with
  | _ n ih =>
    rcases exists_line t with hline | ⟨first, after, hfirst, rfl⟩
    · exact last t hline
    · exact line first after hfirst (ih after.length (by simp at hlen; omega) after rfl)

/-! ### Pieces -/

theorem splitOn_ne_nil (sep : Char) (t : Text) : splitOn sep t ≠ [] := by
  cases t with
  | nil => exact List.cons_ne_nil _ _
  | cons c t =>
    rw [splitOn]
    split
    · exact List.cons_ne_nil _ _
    · split <;> exact List.cons_ne_nil _ _

theorem splitOn_of_not_mem {sep : Char} {piece : Text} (h : sep ∉ piece) : splitOn sep piece = [piece] := by
  induction piece with
  | nil => rfl
  | cons c piece ih =>
    obtain ⟨hc, hpiece⟩ := List.ne_and_not_mem_of_not_mem_cons h
    rw [splitOn, if_neg (Ne.symm hc), ih hpiece]

theorem splitOn_append_cons {sep : Char} {piece : Text} (h : sep ∉ piece) (rest : Text) :
    splitOn sep (piece ++ sep :: rest) = piece :: splitOn sep rest := by
  induction piece with
  | nil => rw [List.nil_append, splitOn, if_pos rfl]
  | cons c piece ih =>
    obtain ⟨hc, hpiece⟩ := List.ne_and_not_mem_of_not_mem_cons h
    rw [List.cons_append, splitOn, if_neg (Ne.symm hc), ih hpiece]

/-- The character at which a text is cut is in none of its pieces. -/
theorem not_mem_of_mem_splitOn {sep : Char} {piece : Text} (h : piece ∈ splitOn sep t) : sep ∉ piece := by
  induction t generalizing piece with
  | nil =>
    obtain rfl := List.mem_singleton.1 h
    exact List.not_mem_nil
  | cons c t ih =>
    rw [splitOn] at h
    split at h
    · rcases List.mem_cons.1 h with rfl | h
      · exact List.not_mem_nil
      · exact ih h
    · rename_i hc
      split at h
      · rename_i hnone
        exact absurd hnone (splitOn_ne_nil sep t)
      · rename_i first pieces hsplit
        rcases List.mem_cons.1 h with rfl | h
        · have hfirst : sep ∉ first := ih (by simp [hsplit])
          simp [Ne.symm hc, hfirst]
        · exact ih (by simp [hsplit, h])

end TagDoc.Text

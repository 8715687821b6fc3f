import Mathlib.Data.List.Sort
import TagDoc.Text.Basic

/-!
# The order of texts

Lists are compared item by item, and one that goes on comes after one that ends. If the items are in a linear order, so
are the lists; then there is one way only to put some lists in order, and it does not matter whether the lists that are
not wanted are left out before or after.

## Main results

* `inOrder_trans`, `inOrder_total`, `inOrder_antisymm`: lists are in a linear order if their items are
* `lex_of_inOrder`: the order of different lists is the lexicographic one
* `Text.le_trans`, `Text.le_total`, `Text.le_antisymm`: the order of texts is linear
* `map_filter_mergeSort`: what is left out can be left out before or after
-/

namespace TagDoc

section Lists

variable {α : Type} {le : α → α → Bool} {xs ys zs : List α} {a b : α}

@[simp]
theorem inOrder_nil (le : α → α → Bool) (ys : List α) : inOrder le [] ys = true := rfl

@[simp]
theorem inOrder_cons_nil : inOrder le (a :: xs) [] = false := rfl

theorem inOrder_cons_cons :
    inOrder le (a :: xs) (b :: ys) = true ↔ le a b = true ∧ (le b a = true → inOrder le xs ys = true) := by
  cases hab : le a b <;> cases hba : le b a <;> simp [inOrder, hab, hba]

theorem inOrder_trans (htrans : ∀ a b c, le a b = true → le b c = true → le a c = true)
    (hxy : inOrder le xs ys = true) (hyz : inOrder le ys zs = true) : inOrder le xs zs = true := by
  induction xs generalizing ys zs with
  | nil => rfl
  | cons a xs ih =>
    cases ys with
    | nil => simp at hxy
    | cons b ys =>
      cases zs with
      | nil => simp at hyz
      | cons c zs =>
        obtain ⟨hab, hxy⟩ := inOrder_cons_cons.1 hxy
        obtain ⟨hbc, hyz⟩ := inOrder_cons_cons.1 hyz
        refine inOrder_cons_cons.2 ⟨htrans a b c hab hbc, fun hca => ?_⟩
        exact ih (hxy (htrans b c a hbc hca)) (hyz (htrans c a b hca hab))

theorem inOrder_total (htotal : ∀ a b, (le a b || le b a) = true) (xs ys : List α) :
    (inOrder le xs ys || inOrder le ys xs) = true := by
  induction xs generalizing ys with
  | nil => rfl
  | cons a xs ih =>
    cases ys with
    | nil => rfl
    | cons b ys =>
      have hitems := htotal a b
      have hrest := ih ys
      simp only [Bool.or_eq_true, inOrder_cons_cons] at *
      by_cases hab : le a b = true
      · by_cases hba : le b a = true
        · exact hrest.imp (fun h => ⟨hab, fun _ => h⟩) fun h => ⟨hba, fun _ => h⟩
        · exact .inl ⟨hab, fun h => absurd h hba⟩
      · exact .inr ⟨hitems.resolve_left hab, fun h => absurd h hab⟩

theorem inOrder_antisymm (hantisymm : ∀ a b, le a b = true → le b a = true → a = b)
    (hxy : inOrder le xs ys = true) (hyx : inOrder le ys xs = true) : xs = ys := by
  induction xs generalizing ys with
  | nil =>
    cases ys with
    | nil => rfl
    | cons b ys => simp at hyx
  | cons a xs ih =>
    cases ys with
    | nil => simp at hxy
    | cons b ys =>
      obtain ⟨hab, hxy⟩ := inOrder_cons_cons.1 hxy
      obtain ⟨hba, hyx⟩ := inOrder_cons_cons.1 hyx
      rw [hantisymm a b hab hba, ih (hxy hba) (hyx hab)]

/-- Different lists that are in order are so in the lexicographic order. -/
theorem lex_of_inOrder {lt : α → α → Prop} (hlt : ∀ a b, le a b = true → a ≠ b → lt a b)
    (hxy : inOrder le xs ys = true) (hne : xs ≠ ys) : List.Lex lt xs ys := by
  induction xs generalizing ys with
  | nil =>
    cases ys with
    | nil => exact absurd rfl hne
    | cons b ys => exact .nil
  | cons a xs ih =>
    cases ys with
    | nil => simp at hxy
    | cons b ys =>
      obtain ⟨hab, hrest⟩ := inOrder_cons_cons.1 hxy
      by_cases heq : a = b
      · subst heq
        exact .cons (ih (hrest hab) fun h => hne (h ▸ rfl))
      · exact .rel (hlt a b hab heq)

/-! ### Putting in order -/

/-- When things are put in order by their keys, and some are left out, their keys are in the one order that they have. It
does not matter what is left out when, nor how things with one key come to stand. -/
theorem map_filter_mergeSort {β : Type} {key : β → α} (htrans : ∀ a b c, le a b = true → le b c = true → le a c = true)
    (htotal : ∀ a b, (le a b || le b a) = true) (hantisymm : ∀ a b, le a b = true → le b a = true → a = b)
    (keep : β → Bool) (xs : List β) :
    ((xs.mergeSort fun a b => le (key a) (key b)).filter keep).map key =
      ((xs.filter keep).map key).mergeSort le := by
  have hsame : (((xs.mergeSort fun a b => le (key a) (key b)).filter keep).map key).Perm
      (((xs.filter keep).map key).mergeSort le) :=
    (((List.mergeSort_perm xs _).filter keep).map key).trans (List.mergeSort_perm _ le).symm
  have hsorted : (xs.mergeSort fun a b => le (key a) (key b)).Pairwise fun a b => le (key a) (key b) = true :=
    List.pairwise_mergeSort (fun a b c => htrans (key a) (key b) (key c)) (fun a b => htotal (key a) (key b)) xs
  exact hsame.eq_of_pairwise (fun a b _ _ => hantisymm a b) (List.pairwise_map.2 (hsorted.filter keep))
    (List.pairwise_mergeSort htrans htotal _)

end Lists

/-! ### Texts -/

namespace Text

theorem le_trans (r s t : Text) (hrs : le r s = true) (hst : le s t = true) : le r t = true := by
  refine inOrder_trans (fun c d e hcd hde => ?_) hrs hst
  simp only [decide_eq_true_eq] at *
  exact Nat.le_trans hcd hde

theorem le_total (s t : Text) : (le s t || le t s) = true := by
  refine inOrder_total (fun c d => ?_) s t
  simpa using Nat.le_total c.toNat d.toNat

theorem le_antisymm (s t : Text) (hst : le s t = true) (hts : le t s = true) : s = t := by
  refine inOrder_antisymm (fun c d hcd hdc => ?_) hst hts
  simp only [decide_eq_true_eq] at *
  exact Char.toNat_inj.1 (Nat.le_antisymm hcd hdc)

theorem lt_of_le_of_ne (s t : Text) (hst : le s t = true) (hne : s ≠ t) : s < t := by
  refine lex_of_inOrder (fun c d hcd hne => ?_) hst hne
  simp only [decide_eq_true_eq] at hcd
  exact UInt32.lt_iff_toNat_lt.2 (Nat.lt_of_le_of_ne hcd (mt Char.toNat_inj.1 hne))

end Text

end TagDoc

import Mathlib.Data.List.Forall2
import TagDoc.Proofs.Value.Entries

/-!
# What checks give

A check of something that has parts gives what the checks of the parts give, put together. A mapping from texts is given as
it is.

## Main definitions

* `Checked.Gives`: what is found, whatever number of fields it sets

## Main results

* `Checked.gives_both_iff`, `Check.gives_collect_iff`, `Check.gives_items_iff`: what is found of parts
* `Check.gives_mapping_iff`: a mapping from texts is found as it is
-/

namespace TagDoc

variable {α β γ : Type}

namespace Checked

/-- A check has found `a`. -/
def Gives (c : Checked α) (a : α) : Prop := ∃ n, c = .ok (a, n)

theorem gives_ok_iff {r : α × Nat} {a : α} : Gives (.ok r) a ↔ r.1 = a := by
  constructor
  · rintro ⟨n, h⟩
    exact congrArg Prod.fst (Except.ok.inj h)
  · rintro rfl
    exact ⟨r.2, rfl⟩

theorem not_gives_error {issues : List Issue} {a : α} : ¬ Gives (.error issues) a := by
  rintro ⟨n, h⟩
  cases h

theorem gives_map_iff {f : α → β} {x : Checked α} {b : β} : (x.map f).Gives b ↔ ∃ a, x.Gives a ∧ f a = b := by
  cases x with
  | ok r => simp only [map, gives_ok_iff, exists_eq_left']
  | error issues => simp only [map, not_gives_error, false_and, exists_false]

theorem gives_both_iff {f : α → β → γ} {x : Checked α} {y : Checked β} {c : γ} :
    (both f x y).Gives c ↔ ∃ a b, x.Gives a ∧ y.Gives b ∧ f a b = c := by
  cases x with
  | error issues => cases y <;> simp only [both, not_gives_error, false_and, exists_false]
  | ok r =>
    cases y with
    | error issues => simp only [both, not_gives_error, false_and, and_false, exists_false]
    | ok q => simp only [both, gives_ok_iff, exists_and_left, exists_eq_left']

theorem gives_under_iff {step : Step} {x : Checked α} {a : α} : (x.under step).Gives a ↔ x.Gives a := by
  cases x with
  | ok r => exact Iff.rfl
  | error issues => exact iff_of_false not_gives_error not_gives_error

end Checked

namespace Check

open Settings

variable {check : Check α} {es values : Entries} {e e' : Value × Value}

theorem gives_collect_iff {cs : List (Checked α)} {as : List α} :
    (collect cs).Gives as ↔ List.Forall₂ Checked.Gives cs as := by
  induction cs generalizing as with
  | nil => exact Checked.gives_ok_iff.trans (by rw [List.forall₂_nil_left_iff, eq_comm])
  | cons c cs ih =>
    rw [List.forall₂_cons_left_iff]
    refine Checked.gives_both_iff.trans ?_
    simp only [ih]
    constructor
    · rintro ⟨a, rest, ha, hrest, rfl⟩
      exact ⟨a, rest, ha, hrest, rfl⟩
    · rintro ⟨a, rest, ha, hrest, rfl⟩
      exact ⟨a, rest, ha, hrest, rfl⟩

/-- The items of a list are checked one by one. -/
theorem gives_items_iff {vs : List Value} {as : List α} :
    (items check vs).Gives as ↔ List.Forall₂ (fun v a => (check v).Gives a) vs as := by
  rw [items, gives_collect_iff, List.forall₂_map_left_iff]
  simp only [Checked.gives_under_iff]
  -- the positions tell where issues are, and not what is given
  generalize 0 = start
  induction vs generalizing start as with
  | nil => simp
  | cons v vs ih => simp [List.zipIdx_cons, List.forall₂_cons_left_iff, ih]

theorem gives_rawText_iff {t name : RawText} : (rawText t.toValue).Gives name ↔ t = name := by
  cases t <;> exact Checked.gives_ok_iff

/-- An entry with a text for its key is found as it is. -/
theorem gives_entry_iff (hkey : isText e.1 = true) : (entry e).Gives e' ↔ e = e' := by
  have hname : ∃ t : RawText, e.1 = t.toValue := by
    cases hk : e.1 with
    | str t => exact ⟨.text t, rfl⟩
    | codes points => exact ⟨.codes points, rfl⟩
    | _ =>
      rw [hk] at hkey
      cases hkey
  obtain ⟨t, ht⟩ := hname
  obtain ⟨k, v⟩ := e
  obtain rfl : k = t.toValue := ht
  rw [entry, Checked.gives_under_iff, Checked.gives_under_iff, Checked.gives_map_iff]
  simp only [gives_rawText_iff, exists_eq_left']

/-- A mapping from texts is found as it is. -/
theorem gives_mapping_iff (hes : es.OfTexts) : (mapping (.map es)).Gives values ↔ es = values := by
  have hentries {as : Entries} (htext : ∀ e ∈ as, isText e.1 = true) {found : Entries} :
      (collect (as.map entry)).Gives found ↔ as = found := by
    rw [gives_collect_iff, List.forall₂_map_left_iff]
    induction as generalizing found with
    | nil => rw [List.forall₂_nil_left_iff, eq_comm]
    | cons e as ih =>
      obtain ⟨he, has⟩ := List.forall_mem_cons.1 htext
      simp only [List.forall₂_cons_left_iff, gives_entry_iff he, ih has]
      constructor
      · rintro ⟨e', rest, rfl, rfl, rfl⟩
        rfl
      · rintro rfl
        exact ⟨e, as, rfl, rfl, rfl⟩
  rw [mapping, Checked.gives_map_iff]
  simp only [hentries hes.text, exists_eq_left', hes.ofList_eq_self]

end Check

end TagDoc

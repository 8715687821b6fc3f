import TagDoc.Settings.Basic

/-!
# Room for arrays and objects

How deep arrays and objects may be nested in JSON is a limit that is not given by the text. Only where one of them begins is
it looked at. So a reader to whom more is allowed reads the same, unless the text was nested too deep for the other one.

## Main definitions

* `Json.SameUnlessDeep`: two readings are the same, unless the first one found that something is nested too deep

## Main results

* `Json.read_add`: where more may be nested the same is read, unless it was nested too deep
-/

namespace TagDoc.Json

open Settings

variable {α β : Type} {acceptConstants : Bool} {extra fuel : Nat}

/-- The second reading is the first, unless that found something nested too deep. -/
def SameUnlessDeep (x y : Except Fault α) : Prop := (∃ f, x = .error f ∧ isTooDeep f = true) ∨ y = x

theorem SameUnlessDeep.refl (x : Except Fault α) : SameUnlessDeep x x := .inr rfl

theorem SameUnlessDeep.bind {x y : Except Fault α} {f g : α → Except Fault β} (h : SameUnlessDeep x y)
    (hrest : ∀ a, SameUnlessDeep (f a) (g a)) : SameUnlessDeep (x >>= f) (y >>= g) := by
  rcases h with ⟨fault, rfl, hdeep⟩ | rfl
  · exact .inl ⟨fault, rfl, hdeep⟩
  · cases y with
    | error fault => exact .inr rfl
    | ok a => exact hrest a

/-- The functions that read what is nested give the same with some fuel where more may be nested. -/
structure AllSame (acceptConstants : Bool) (extra fuel : Nat) : Prop where
  value : ∀ depth t, SameUnlessDeep (readValue acceptConstants fuel depth t)
    (readValue acceptConstants fuel (depth + extra) t)
  items : ∀ depth t, SameUnlessDeep (readItems acceptConstants fuel depth t)
    (readItems acceptConstants fuel (depth + extra) t)
  members : ∀ depth t, SameUnlessDeep (readMembers acceptConstants fuel depth t)
    (readMembers acceptConstants fuel (depth + extra) t)

namespace AllSame

theorem zero : AllSame acceptConstants extra 0 where
  value depth t := by
    rw [readValue, readValue]
    exact .refl _
  items depth t := by
    rw [readItems, readItems]
    exact .refl _
  members depth t := by
    rw [readMembers, readMembers]
    exact .refl _

theorem value_succ (h : AllSame acceptConstants extra fuel) (depth : Nat) (t : Text) :
    SameUnlessDeep (readValue acceptConstants (fuel + 1) depth t)
      (readValue acceptConstants (fuel + 1) (depth + extra) t) := by
  unfold readValue
  split
  · exact .refl _
  · -- An array: one level less is left for its items.
    cases depth with
    | zero => exact .inl ⟨_, rfl, rfl⟩
    | succ depth =>
      rw [Nat.add_right_comm]
      dsimp only
      split
      · exact .refl _
      · exact (h.items depth _).bind fun _ => .refl _
  · cases depth with
    | zero => exact .inl ⟨_, rfl, rfl⟩
    | succ depth =>
      rw [Nat.add_right_comm]
      dsimp only
      split
      · exact .refl _
      · exact (h.members depth _).bind fun _ => .refl _
  · exact .refl _

theorem items_succ (h : AllSame acceptConstants extra fuel) (depth : Nat) (t : Text) :
    SameUnlessDeep (readItems acceptConstants (fuel + 1) depth t)
      (readItems acceptConstants (fuel + 1) (depth + extra) t) := by
  unfold readItems
  refine (h.value depth t).bind ?_
  rintro ⟨v, rest⟩
  dsimp only
  split
  · exact .refl _
  · exact (h.items depth _).bind fun _ => .refl _
  · exact .refl _

theorem members_succ (h : AllSame acceptConstants extra fuel) (depth : Nat) (t : Text) :
    SameUnlessDeep (readMembers acceptConstants (fuel + 1) depth t)
      (readMembers acceptConstants (fuel + 1) (depth + extra) t) := by
  unfold readMembers
  split
  · refine (SameUnlessDeep.refl _).bind ?_
    rintro ⟨points, rest⟩
    dsimp only
    split
    · refine (h.value depth _).bind ?_
      rintro ⟨v, rest⟩
      dsimp only
      split
      · exact .refl _
      · exact (h.members depth _).bind fun _ => .refl _
      · exact .refl _
    · exact .refl _
  · exact .refl _

end AllSame

theorem allSame (acceptConstants : Bool) (extra fuel : Nat) : AllSame acceptConstants extra fuel := by
  induction fuel with
  | zero => exact .zero
  | succ fuel h => exact ⟨h.value_succ, h.items_succ, h.members_succ⟩

/-- Where more may be nested the same is read, unless it was nested too deep. -/
theorem read_add (acceptConstants : Bool) (depth extra : Nat) (t : Text) :
    SameUnlessDeep (read depth acceptConstants t) (read (depth + extra) acceptConstants t) := by
  rw [read, read]
  split
  · exact .refl _
  · exact ((allSame acceptConstants extra _).value depth _).bind fun _ => .refl _

end TagDoc.Json

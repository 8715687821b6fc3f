import TagDoc.Proofs.Decimal.Worth

/-!
# Keys

Values of different types can be one key: a number is the key of what it is worth, whether it is a truth value, a whole
number or a double. So each value that can be a key counts as one thing, and two values are one key if they count as the
same. Hence to be one key is an equivalence. What is not a number is worth no other value, not even another one of its kind,
so it counts as the object that it is. All that is none as a `float` is one object.

## Main definitions

* `Key`, `Value.key?`: what a value counts as where it is a key

## Main results

* `Value.sameKey_iff`: values are one key if they count as the same
* `Value.sameKey_self`, `Value.sameKey_comm`, `Value.sameKey_trans`: to be one key is an equivalence
-/

namespace TagDoc

/-- What values count as where they are keys. Of a moment the instant counts, and whether its offset is known. -/
inductive Key where
  | null
  | number (worth : Worth)
  | object (n : Nat)
  | text (t : Text)
  | codes (points : List Nat)
  | bytes (octets : List UInt8)
  | date (d : Date)
  | moment (isKnown : Bool) (instant : Int)
  | tuple (keys : List Key)

namespace Value

mutual

/-- What a value counts as where it is a key, if it can be one. -/
def key? : Value → Option Key
  | null => some .null
  | bool b => some (.number (.number b.toInt))
  | int n => some (.number (.number n))
  | float x => some (.number (.ofFloat x))
  | nan n => some (.object n)
  | str t => some (.text t)
  | codes points => some (.codes points)
  | bytes octets => some (.bytes octets)
  | date d => some (.date d)
  | moment m => some (.moment m.offset.isSome m.instant)
  | tuple vs => (keys? vs).map .tuple
  | list _ | set _ | map _ | again _ => none

/-- What values count as where they are keys, if all of them can be. -/
def keys? : List Value → Option (List Key)
  | [] => some []
  | v :: vs => v.key?.bind fun k => (keys? vs).map (k :: ·)

end

variable {a b c : Value}

mutual

theorem isHashable_eq : (v : Value) → v.isHashable = v.key?.isSome
  | tuple vs => by rw [isHashable, key?, Option.isSome_map, areHashable_eq vs]
  | null | bool _ | int _ | float _ | nan _ | str _ | codes _ | bytes _ | date _ | moment _ => rfl
  | list _ | set _ | map _ | again _ => rfl

theorem areHashable_eq : (vs : List Value) → areHashable vs = (keys? vs).isSome
  | [] => rfl
  | v :: vs => by
    rw [areHashable, keys?, isHashable_eq v, areHashable_eq vs]
    cases v.key? <;> simp

end

mutual

/-- Values are one key if they can be keys and count as the same. -/
theorem sameKey_iff : (a b : Value) → (a.sameKey b = true ↔ a.isHashable = true ∧ a.key? = b.key?)
  | a, b => by
    rw [isHashable_eq]
    cases a with
    | bool x =>
      cases b with
      | bool y => cases x <;> cases y <;> simp [sameKey, key?]
      | int n => simp [sameKey, key?, @eq_comm _ n]
      | float y => simp [sameKey, key?, floatIsInt_iff, @eq_comm _ (Worth.ofFloat y)]
      | _ => simp [sameKey, key?]
    | int n =>
      cases b with
      | float y => simp [sameKey, key?, floatIsInt_iff, @eq_comm _ (Worth.ofFloat y)]
      | _ => simp [sameKey, key?]
    | float x => cases b <;> simp [sameKey, key?, floatIsInt_iff, ← sameFloat_iff]
    | moment m => cases b <;> simp [sameKey, key?, Moment.same]
    | tuple vs =>
      cases b with
      | tuple ws =>
        rw [sameKey, sameKeys_iff vs ws, key?, key?, Option.isSome_map, Option.map_inj_right fun _ _ => Key.tuple.inj]
      | _ => simp [sameKey, key?, Option.isSome_iff_ne_none]
    | _ => cases b <;> simp [sameKey, key?]

theorem sameKeys_iff : (as bs : List Value) → (sameKeys as bs = true ↔ (keys? as).isSome = true ∧ keys? as = keys? bs)
  | [], [] => by simp [sameKeys, keys?]
  | [], b :: bs => by
    simp only [sameKeys, keys?]
    cases b.key? <;> simp
  | a :: as, [] => by
    simp only [sameKeys, keys?]
    cases a.key? <;> simp
  | a :: as, b :: bs => by
    rw [sameKeys, Bool.and_eq_true, sameKey_iff a b, sameKeys_iff as bs, isHashable_eq, keys?, keys?]
    cases a.key? <;> cases b.key? <;> cases keys? as <;> cases keys? bs <;> simp

end

/-! ### An equivalence -/

theorem sameKey_self (h : a.isHashable = true) : a.sameKey a = true := (sameKey_iff a a).2 ⟨h, rfl⟩

theorem sameKey_comm (a b : Value) : a.sameKey b = b.sameKey a := by
  rw [Bool.eq_iff_iff, sameKey_iff, sameKey_iff, isHashable_eq, isHashable_eq]
  constructor
  · rintro ⟨h, heq⟩
    exact ⟨heq ▸ h, heq.symm⟩
  · rintro ⟨h, heq⟩
    exact ⟨heq ▸ h, heq.symm⟩

theorem sameKey_trans (hab : a.sameKey b = true) (hbc : b.sameKey c = true) : a.sameKey c = true := by
  obtain ⟨h, hab⟩ := (sameKey_iff a b).1 hab
  exact (sameKey_iff a c).2 ⟨h, hab.trans ((sameKey_iff b c).1 hbc).2⟩

/-- Values that are one key are the same key as others. -/
theorem sameKey_congr (h : a.sameKey b = true) (c : Value) : a.sameKey c = b.sameKey c := by
  rw [Bool.eq_iff_iff]
  exact ⟨fun hac => sameKey_trans (sameKey_comm a b ▸ h) hac, fun hbc => sameKey_trans h hbc⟩

end Value

end TagDoc

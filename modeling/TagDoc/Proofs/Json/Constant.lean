import Mathlib.Data.List.TakeWhile
import TagDoc.Json.Reader
import TagDoc.Proofs.Step

/-!
# Constants in JSON

A reader of JSON may accept the words for numbers that JSON does not have, or refuse them. The two readers go side by
side. They give the same, and what they took has no such word outside its strings, or the one that refuses has met one
where the other went on. So what is refused for its own sake are the texts with a constant in them, and no others.

## Main definitions

* `Json.Place`: inside and outside of the strings of a text
* `Json.HasConstant`: a text with a constant outside its strings
* `Json.Takes`: what a reader goes past when there are no constants
* `Json.Compared`: the answers of the two readers to one text

## Main results

* `Json.Compared.bind`: readers that are compared step by step
* `Json.compared_read`: the two readers of values, items and members
* `Json.read_false_eq_ok_iff`: what the strict reader accepts
-/

namespace TagDoc.Json

open Cause

variable {α β : Type} {c : Char} {s t u rest taken : Text}

/-! ### Inside and outside of strings -/

/-- Where a character stands: outside all strings, in a string, or in one behind the backslash of an escape. -/
inductive Place where
  | outside
  | inside
  | escaped
  deriving DecidableEq, Repr

namespace Place

/-- Where the next character stands. -/
def next : Place → Char → Place
  | outside, c => if c = '\x22' then inside else outside
  | inside, c => if c = '\x22' then outside else if c = '\\' then escaped else inside
  | escaped, _ => inside

/-- Where what follows a text stands. -/
def after (p : Place) (t : Text) : Place := t.foldl next p

/-- The characters of a text outside its strings, the quotes that open these among them. -/
def bare (p : Place) : Text → Text
  | [] => []
  | c :: t => if p = outside then c :: (p.next c).bare t else (p.next c).bare t

@[simp] theorem after_nil (p : Place) : p.after [] = p := rfl

@[simp] theorem after_cons (p : Place) (c : Char) (t : Text) : p.after (c :: t) = (p.next c).after t := rfl

@[simp] theorem after_append (p : Place) (s t : Text) : p.after (s ++ t) = (p.after s).after t := List.foldl_append

theorem bare_append (p : Place) (s t : Text) : p.bare (s ++ t) = p.bare s ++ (p.after s).bare t := by
  induction s generalizing p with
  | nil => rfl
  | cons c s ih =>
    rw [List.cons_append, bare, bare, ih, after_cons]
    split <;> rfl

end Place

/-- A word that JSON does not have stands in the text outside its strings. -/
def HasConstant (t : Text) : Prop :=
  ∃ before word later, t = before ++ (word ++ later) ∧ Place.outside.after before = .outside ∧
    (word = "NaN".toList ∨ word = "Infinity".toList)

/-- A text whose strings are closed, and that has none of the two letters outside them with which constants begin. -/
structure Plain (t : Text) : Prop where
  /-- The last string is closed. -/
  ends : Place.outside.after t = .outside
  /-- No constant can begin outside the strings. -/
  bare : ∀ c ∈ Place.outside.bare t, c ≠ 'N' ∧ c ≠ 'I'

theorem plain_nil : Plain [] := ⟨rfl, nofun⟩

theorem Plain.append (hs : Plain s) (ht : Plain t) : Plain (s ++ t) := by
  refine ⟨by rw [Place.after_append, hs.ends, ht.ends], ?_⟩
  rw [Place.bare_append, hs.ends]
  intro c hc
  exact (List.mem_append.1 hc).elim (hs.bare c) (ht.bare c)

theorem plain_singleton (hc : c ≠ '\x22' ∧ c ≠ 'N' ∧ c ≠ 'I') : Plain [c] := by
  refine ⟨by simp [Place.next, hc.1], ?_⟩
  simpa [Place.bare] using hc.2

theorem Plain.not_hasConstant (ht : Plain t) : ¬ HasConstant t := by
  rintro ⟨before, word, later, rfl, hbefore, hword⟩
  have hbare := ht.bare
  rw [Place.bare_append, hbefore] at hbare
  -- the first letter of the word stands outside the strings
  rcases hword with rfl | rfl
  · exact (hbare 'N' (List.mem_append_right _ List.mem_cons_self)).1 rfl
  · exact (hbare 'I' (List.mem_append_right _ List.mem_cons_self)).2 rfl

theorem HasConstant.append_right (hs : HasConstant s) (t : Text) : HasConstant (s ++ t) := by
  obtain ⟨before, word, later, rfl, hbefore, hword⟩ := hs
  exact ⟨before, word, later ++ t, by simp only [List.append_assoc], hbefore, hword⟩

theorem HasConstant.append_left (ht : HasConstant t) (hs : Place.outside.after s = .outside) : HasConstant (s ++ t) := by
  obtain ⟨before, word, later, rfl, hbefore, hword⟩ := ht
  refine ⟨s ++ before, word, later, by simp only [List.append_assoc], ?_, hword⟩
  rw [Place.after_append, hs, hbefore]

/-! ### What a reader goes past -/

/-- Between `t` and what is left of it, no string is left open and no constant begins. -/
def Takes (t rest : Text) : Prop := ∃ taken, t = taken ++ rest ∧ Plain taken

theorem Takes.refl (t : Text) : Takes t t := ⟨[], rfl, plain_nil⟩

theorem Takes.trans (ht : Takes t u) (hu : Takes u rest) : Takes t rest := by
  obtain ⟨taken, rfl, htaken⟩ := ht
  obtain ⟨more, rfl, hmore⟩ := hu
  exact ⟨taken ++ more, by rw [List.append_assoc], htaken.append hmore⟩

theorem Takes.cons (ht : Takes t rest) (hc : c ≠ '\x22' ∧ c ≠ 'N' ∧ c ≠ 'I') : Takes (c :: t) rest :=
  .trans ⟨[c], rfl, plain_singleton hc⟩ ht

theorem takes_of_forall (h : ∀ c ∈ taken, c ≠ '\x22' ∧ c ≠ 'N' ∧ c ≠ 'I') (rest : Text) :
    Takes (taken ++ rest) rest := by
  induction taken with
  | nil => exact .refl rest
  | cons c taken ih =>
    obtain ⟨hc, hlater⟩ := List.forall_mem_cons.1 h
    exact .cons (ih hlater) hc

theorem takes_dropWhile {p : Char → Bool} (hp : ∀ c, p c = true → c ≠ '\x22' ∧ c ≠ 'N' ∧ c ≠ 'I') (t : Text) :
    Takes t (t.dropWhile p) := by
  have htaken : ∀ c ∈ t.takeWhile p, c ≠ '\x22' ∧ c ≠ 'N' ∧ c ≠ 'I' := fun c hc => hp c (List.mem_takeWhile_imp hc)
  have htakes := takes_of_forall htaken (t.dropWhile p)
  rwa [List.takeWhile_append_dropWhile] at htakes

theorem takes_skipWhite (t : Text) : Takes t (skipWhite t) := by
  refine takes_dropWhile (fun c hc => ?_) t
  refine ⟨?_, ?_, ?_⟩ <;> (rintro rfl; revert hc; decide)

/-! ### Strings -/

/-- A part of a string: the text goes on inside behind it, and nothing of it stands outside. -/
def Within (taken : Text) : Prop := Place.inside.after taken = .inside ∧ Place.inside.bare taken = []

theorem Within.append (hs : Within s) (ht : Within t) : Within (s ++ t) := by
  refine ⟨by rw [Place.after_append, hs.1, ht.1], ?_⟩
  rw [Place.bare_append, hs.1, hs.2, ht.2]
  rfl

theorem within_escape (c : Char) : Within ['\\', c] := ⟨rfl, rfl⟩

theorem within_singleton (hquote : c ≠ '\x22') (hback : c ≠ '\\') : Within [c] := by
  refine ⟨by simp [Place.next, hquote, hback], ?_⟩
  simp [Place.bare]

theorem within_of_forall (h : ∀ c ∈ taken, c ≠ '\x22' ∧ c ≠ '\\') : Within taken := by
  induction taken with
  | nil => exact ⟨rfl, rfl⟩
  | cons c taken ih =>
    obtain ⟨hc, hlater⟩ := List.forall_mem_cons.1 h
    exact (within_singleton hc.1 hc.2).append (ih hlater)

/-- Four hexadecimal digits are a part of a string. -/
theorem within_of_readFourHex? {n : Nat} (h : readFourHex? t = some n) : Within (t.take 4) := by
  rw [readFourHex?] at h
  split at h
  · rename_i hdigits
    refine within_of_forall fun c hc => ?_
    have hhex := List.all_eq_true.1 hdigits.2 c hc
    refine ⟨?_, ?_⟩ <;> (rintro rfl; revert hhex; decide)
  · cases h

theorem readUnicode_within {n : Nat} (h : readUnicode t = .ok (n, rest)) : ∃ taken, t = taken ++ rest ∧ Within taken := by
  rw [readUnicode] at h
  split at h
  · cases h
  split at h
  · cases h
  rename_i high hhigh
  have hfirst := within_of_readFourHex? hhigh
  have hfour : t = t.take 4 ++ t.drop 4 := (List.take_append_drop 4 t).symm
  dsimp only at h
  split at h
  · rename_i second hsecond
    split at h
    · split at h
      · cases h
      · rename_i low hlow
        have hnext := within_of_readFourHex? hlow
        split at h
        · -- a whole pair: the second half comes with its own backslash
          obtain ⟨-, rfl⟩ := Prod.mk.inj (Except.ok.inj h)
          refine ⟨t.take 4 ++ (['\\', 'u'] ++ second.take 4), ?_, hfirst.append ((within_escape 'u').append hnext)⟩
          rw [List.append_assoc, List.append_assoc, List.take_append_drop, List.cons_append, List.cons_append,
            List.nil_append, ← hsecond, ← hfour]
        · cases h
          exact ⟨t.take 4, hfour, hfirst⟩
    · cases h
      exact ⟨t.take 4, hfour, hfirst⟩
  · cases h
    exact ⟨t.take 4, hfour, hfirst⟩

/-- Between `t`, which stands in a string, and what is left of it the string is closed, and nothing stands outside. -/
def Closes (t rest : Text) : Prop :=
  ∃ taken, t = taken ++ rest ∧ Place.inside.after taken = .outside ∧ Place.inside.bare taken = []

theorem Closes.of_within (hs : Within s) (ht : Closes t rest) : Closes (s ++ t) rest := by
  obtain ⟨taken, rfl, hends, hbare⟩ := ht
  refine ⟨s ++ taken, (List.append_assoc _ _ _).symm, ?_, ?_⟩
  · rw [Place.after_append, hs.1, hends]
  · rw [Place.bare_append, hs.1, hs.2, hbare]
    rfl

theorem closes_of_readString {opening : Text} {seen points : List Nat} {fuel : Nat}
    (h : readString opening seen fuel t = .ok (points, rest)) : Closes t rest := by
  fun_induction readString opening seen fuel t with
  | case1 => cases h
  | case2 => cases h
  | case3 =>
    cases h
    exact ⟨['\x22'], rfl, rfl, rfl⟩
  | case4 => cases h
  | case5 => cases h
  | case6 seen fuel t n later hunicode ih =>
    obtain ⟨taken, rfl, htaken⟩ := readUnicode_within hunicode
    exact .of_within ((within_escape 'u').append htaken) (ih h)
  | case7 => cases h
  | case8 seen fuel c t _ d _ ih => exact .of_within (within_escape c) (ih h)
  | case9 => cases h
  | case10 seen fuel c t hquote hlast _ hmore _ ih =>
    -- a backslash would be the last character, or have one behind it
    have hback : c ≠ '\\' := by
      intro hc
      cases t with
      | nil => exact hlast hc rfl
      | cons d t => exact hmore d t hc rfl
    exact .of_within (within_singleton hquote hback) (ih h)

/-- A whole string stands between two places outside of strings. -/
theorem Closes.takes (h : Closes t rest) : Takes ('\x22' :: t) rest := by
  obtain ⟨taken, rfl, hends, hbare⟩ := h
  refine ⟨'\x22' :: taken, rfl, hends, ?_⟩
  have hquote : Place.outside.bare ('\x22' :: taken) = '\x22' :: Place.inside.bare taken := rfl
  rw [hquote, hbare, List.forall_mem_singleton]
  decide

/-! ### Numbers -/

theorem isDigit_plain (hc : c.isDigit = true) : c ≠ '\x22' ∧ c ≠ 'N' ∧ c ≠ 'I' := by
  refine ⟨?_, ?_, ?_⟩ <;> (rintro rfl; revert hc; decide)

theorem takes_cutDigits (t : Text) : Takes t (cutDigits t).2 := takes_dropWhile (fun _ => isDigit_plain) t

theorem takes_cutFraction (t : Text) : Takes t (cutFraction t).2 := by
  unfold cutFraction
  split
  · rename_i rest
    dsimp only
    split
    · exact .refl _
    · exact .cons (takes_cutDigits rest) (by decide)
  · exact .refl t

theorem takes_cutExponent? {power : Int} (h : cutExponent? t = some (power, rest)) : Takes t rest := by
  -- whatever sign there is, digits come behind it
  have hdigits {unsigned : Text} {p : Int} (hsome :
      (if (cutDigits unsigned).1.isEmpty then none else some (p, (cutDigits unsigned).2)) = some (power, rest)) :
      Takes unsigned rest := by
    split at hsome
    · cases hsome
    · obtain ⟨-, rfl⟩ := Prod.mk.inj (Option.some.inj hsome)
      exact takes_cutDigits unsigned
  unfold cutExponent? at h
  split at h
  · rename_i c t
    split at h
    · rename_i hletter
      have hc : c ≠ '\x22' ∧ c ≠ 'N' ∧ c ≠ 'I' := by rcases hletter with rfl | rfl <;> decide
      dsimp only at h
      split at h
      · exact .cons (.cons (hdigits h) (by decide)) hc
      · exact .cons (.cons (hdigits h) (by decide)) hc
      · exact .cons (hdigits h) hc
    · cases h
  · cases h

theorem takes_cutWhole? {whole : Text} (h : cutWhole? t = some (whole, rest)) : Takes t rest := by
  unfold cutWhole? at h
  split at h
  · cases h
    exact .cons (.refl _) (by decide)
  · split at h
    · cases h
      exact takes_cutDigits _
    · cases h
  · cases h

theorem takes_readNumber {v : Value} (h : readNumber t = .ok (v, rest)) : Takes t rest := by
  unfold readNumber at h
  dsimp only at h
  split at h
  · cases h
  · rename_i whole later hwhole
    have hsigned : Takes t later := by
      split at hwhole
      · exact .cons (takes_cutWhole? hwhole) (by decide)
      · exact takes_cutWhole? hwhole
    have hfraction := hsigned.trans (takes_cutFraction later)
    split at h
    · split at h
      · cases h
      · cases h
        exact hfraction
    · -- the number goes on with its exponent, if it has one
      obtain ⟨-, rfl⟩ := Prod.mk.inj (Except.ok.inj h)
      cases hexponent : cutExponent? (cutFraction later).2 with
      | none => exact hfraction
      | some found => exact hfraction.trans (takes_cutExponent? hexponent)

/-! ### The two readers side by side -/

/-- The answers of two readers to `t`, of which the second refuses constants. Either both refuse the text, or both take
the same, which has no constant in it, or the second refuses it where the first takes a constant. -/
inductive Compared (t : Text) : Except Fault (α × Text) → Except Fault (α × Text) → Prop
  | refused (f g : Fault) : Compared t (.error f) (.error g)
  | agreed (v : α) {rest : Text} (h : Takes t rest) : Compared t (.ok (v, rest)) (.ok (v, rest))
  | differed (v : α) (g : Fault) {taken rest : Text} (ht : t = taken ++ rest)
      (hends : Place.outside.after taken = .outside) (hconstant : HasConstant taken) :
      Compared t (.ok (v, rest)) (.error g)

theorem Compared.of_takes {x y : Except Fault (α × Text)} (ht : Takes t u) (h : Compared u x y) : Compared t x y := by
  cases h with
  | refused f g => exact .refused f g
  | agreed v hrest => exact .agreed v (ht.trans hrest)
  | differed v g hu hends hconstant =>
    obtain ⟨lead, rfl, hlead⟩ := ht
    subst hu
    refine .differed v g (List.append_assoc _ _ _).symm ?_ (hconstant.append_left hlead.ends)
    rw [Place.after_append, hlead.ends, hends]

/-- Where the second reader has stopped at a constant, it does not matter what it would do with the rest. -/
theorem Compared.behind_constant {x y : Except Fault (α × Text)} (h : Compared rest x y)
    (hends : Place.outside.after taken = .outside) (hconstant : HasConstant taken) (g : Fault) :
    Compared (taken ++ rest) x (.error g) := by
  cases h with
  | refused f _ => exact .refused f g
  | agreed v hrest =>
    obtain ⟨more, rfl, hmore⟩ := hrest
    refine .differed v g (List.append_assoc _ _ _).symm ?_ (hconstant.append_right more)
    rw [Place.after_append, hends, hmore.ends]
  | differed v _ hrest hmore _ =>
    subst hrest
    refine .differed v g (List.append_assoc _ _ _).symm ?_ (hconstant.append_right _)
    rw [Place.after_append, hends, hmore]

/-- Two readers are compared step by step. -/
theorem Compared.bind {x y : Except Fault (α × Text)} {f g : α × Text → Except Fault (β × Text)} (h : Compared t x y)
    (hnext : ∀ v rest, Compared rest (f (v, rest)) (g (v, rest))) : Compared t (x >>= f) (y >>= g) := by
  cases h with
  | refused a b => exact .refused a b
  | agreed v hrest => exact (hnext v _).of_takes hrest
  | differed v fault ht hends hconstant =>
    subst ht
    exact (hnext v _).behind_constant hends hconstant fault

/-- A reader that does not know constants is compared with itself. -/
theorem compared_self {x : Except Fault (α × Text)} (h : ∀ v rest, x = .ok (v, rest) → Takes t rest) :
    Compared t x x := by
  cases x with
  | error f => exact .refused f f
  | ok found => exact .agreed found.1 (h _ _ rfl)

theorem compared_pure (v : α) (t : Text) : Compared t (pure (v, t)) (pure (v, t)) := .agreed v (.refl t)

theorem compared_fault (cause : Cause) (t u : Text) : Compared (α := α) t (faultAt cause u) (faultAt cause u) :=
  .refused _ _

theorem Compared.cons {x y : Except Fault (α × Text)} (h : Compared t x y) (hc : c ≠ '\x22' ∧ c ≠ 'N' ∧ c ≠ 'I') :
    Compared (c :: t) x y :=
  h.of_takes (.cons (.refl t) hc)

theorem Compared.of_skipWhite {x y : Except Fault (α × Text)} (h : Compared (skipWhite t) x y) : Compared t x y :=
  h.of_takes (takes_skipWhite t)

theorem compared_readString (opening : Text) (seen : List Nat) (fuel : Nat) (t : Text) :
    Compared ('\x22' :: t) (readString opening seen fuel t) (readString opening seen fuel t) :=
  compared_self fun _ _ h => (closes_of_readString h).takes

/-- A text begins with the word that is found for it in a table. -/
theorem eq_append_of_find? {entries : List (Text × β)} {entry : Text × β}
    (h : (entries.find? fun entry => entry.1.isPrefixOf t) = some entry) : t = entry.1 ++ t.drop entry.1.length := by
  have hprefix := List.find?_some h
  obtain ⟨later, hlater⟩ := List.isPrefixOf_iff_prefix.1 hprefix
  rw [← hlater, List.drop_left]

theorem words_plain : ∀ entry ∈ words, ∀ c ∈ entry.1, c ≠ '\x22' ∧ c ≠ 'N' ∧ c ≠ 'I' := by
  have hall : words.all (fun entry => entry.1.all fun c => c != '\x22' && c != 'N' && c != 'I') = true := by decide
  simpa only [List.all_eq_true, Bool.and_eq_true, bne_iff_ne, and_assoc] using hall

theorem constants_hasConstant :
    ∀ entry ∈ constants, Place.outside.after entry.1 = .outside ∧ HasConstant entry.1 := by
  simp only [constants, List.forall_mem_cons]
  refine ⟨⟨by decide, [], _, [], rfl, rfl, .inl rfl⟩, ⟨by decide, [], _, [], rfl, rfl, .inr rfl⟩, ⟨by decide, ?_⟩, nofun⟩
  -- the word for what is infinite stands behind a minus sign
  exact ⟨['-'], _, [], by decide, rfl, .inr rfl⟩

theorem compared_readScalar (t : Text) : Compared t (readScalar true t) (readScalar false t) := by
  unfold readScalar
  split
  · rename_i word v hword
    have htakes := takes_of_forall (words_plain _ (List.mem_of_find?_eq_some hword)) (t.drop word.length)
    rw [← eq_append_of_find? hword] at htakes
    exact .agreed v htakes
  · dsimp only
    split
    · rename_i word x hword
      obtain ⟨hends, hconstant⟩ := constants_hasConstant _ (List.mem_of_find?_eq_some hword)
      rw [if_pos rfl, if_neg (by decide)]
      exact .differed _ _ (eq_append_of_find? hword) hends hconstant
    · exact compared_self fun v rest h => takes_readNumber h

/-- The two readers of values, of the items of an array, and of the members of an object. -/
theorem compared_read (fuel : Nat) :
    (∀ depth t, Compared t (readValue true fuel depth t) (readValue false fuel depth t)) ∧
      (∀ depth t, Compared t (readItems true fuel depth t) (readItems false fuel depth t)) ∧
      ∀ depth t, Compared t (readMembers true fuel depth t) (readMembers false fuel depth t) := by
  -- each reader calls the others with less fuel, so that all three go together
  induction fuel with
  | zero => exact ⟨fun _ t => compared_fault _ t t, fun _ t => compared_fault _ t t, fun _ t => compared_fault _ t t⟩
  | succ fuel ih =>
    obtain ⟨ihvalue, ihitems, ihmembers⟩ := ih
    refine ⟨fun depth t => ?_, fun depth t => ?_, fun depth t => ?_⟩
    · unfold readValue
      split
      · -- a string
        exact (compared_readString _ _ _ _).bind fun points rest => compared_pure _ rest
      · -- an array
        refine .cons ?_ (by decide)
        split
        · exact compared_fault _ _ _
        · refine .of_skipWhite ?_
          split
          · rename_i hwhite
            rw [hwhite]
            exact (compared_pure _ _).cons (by decide)
          · exact (ihitems _ _).bind fun vs rest => compared_pure _ rest
      · -- an object
        refine .cons ?_ (by decide)
        split
        · exact compared_fault _ _ _
        · refine .of_skipWhite ?_
          split
          · rename_i hwhite
            rw [hwhite]
            exact (compared_pure _ _).cons (by decide)
          · exact (ihmembers _ _).bind fun es rest => compared_pure _ rest
      · exact compared_readScalar _
    · -- an item, and behind a comma the next ones
      unfold readItems
      refine (ihvalue depth t).bind fun v rest => .of_skipWhite ?_
      dsimp only
      split
      · rename_i hwhite
        rw [hwhite]
        exact (compared_pure _ _).cons (by decide)
      · rename_i hwhite
        rw [hwhite]
        refine .cons (.of_skipWhite ?_) (by decide)
        exact (ihitems _ _).bind fun vs rest => compared_pure _ rest
      · exact compared_fault _ _ _
    · -- a name, a colon and a value, and behind a comma the next members
      unfold readMembers
      split
      · refine (compared_readString _ _ _ _).bind fun points rest => .of_skipWhite ?_
        dsimp only
        split
        · rename_i hwhite
          rw [hwhite]
          refine .cons (.of_skipWhite ?_) (by decide)
          refine (ihvalue _ _).bind fun v rest => .of_skipWhite ?_
          dsimp only
          split
          · rename_i hwhite
            rw [hwhite]
            exact (compared_pure _ _).cons (by decide)
          · rename_i hwhite
            rw [hwhite]
            refine .cons (.of_skipWhite ?_) (by decide)
            exact (ihmembers _ _).bind fun es rest => compared_pure _ rest
          · exact compared_fault _ _ _
        · exact compared_fault _ _ _
      · exact compared_fault _ _ _

/-- The reader that refuses constants accepts the texts that the other one accepts, with the same values, but for those
with a constant in them. -/
theorem read_false_eq_ok_iff {depth : Nat} {v : Value} :
    read depth false t = .ok v ↔ read depth true t = .ok v ∧ ¬ HasConstant t := by
  unfold read
  split
  · exact ⟨nofun, fun h => nomatch h.1⟩
  · have hcompared := (compared_read (2 * t.length + 2)).1 depth (skipWhite t)
    generalize readValue true (2 * t.length + 2) depth (skipWhite t) = x at hcompared
    generalize readValue false (2 * t.length + 2) depth (skipWhite t) = y at hcompared
    cases hcompared.of_skipWhite with
    | refused f g => exact ⟨nofun, fun h => nomatch h.1⟩
    | @agreed w rest htakes =>
      refine ⟨fun hread => ⟨hread, ?_⟩, And.left⟩
      change (if (skipWhite rest).isEmpty then .ok w else faultAt extraData (skipWhite rest)) = .ok v at hread
      split at hread
      · -- the whole text was taken, with the white space at its end
        rename_i hend
        have hwhole := htakes.trans (takes_skipWhite rest)
        rw [List.isEmpty_iff.1 hend] at hwhole
        obtain ⟨taken, rfl, hplain⟩ := hwhole
        rw [List.append_nil]
        exact hplain.not_hasConstant
      · cases hread
    | @differed w g taken rest ht hends hconstant =>
      subst ht
      exact ⟨nofun, fun h => absurd (hconstant.append_right rest) h.2⟩

end TagDoc.Json

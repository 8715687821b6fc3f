import TagDoc.Proofs.Settings.Field
import TagDoc.Proofs.Text.Words

/-!
# Clean names

Names of tags may be set with signs before them and with white space around that. Both are taken off, the white space
first. So white space behind the signs stays, and of a name that is nothing but signs nothing is left. All other names
come out clean, and clean names are left as they are.

A name can have halves of surrogate pairs in it, and then it is a list of code points and no text. What is cut off is cut
off in the same way, so it is told for lists of anything.

## Main definitions

* `IsClean`: a list with neither white space nor signs to be taken off
* `NameParts`: the parts of a name as it is set
* `SignsAlone`: signs with no name right behind them
* `Settings.IsCleanName`, `Settings.HasSignsAlone`: the same of the code points of a name

## Main results

* `NameParts.isClean_iff`: a name comes out clean unless its signs are alone
* `Settings.gives_checkNames_iff`: the names that come out
* `Settings.reservedTags_clean_iff`: when reserved names are clean, and when they can be set again
-/

namespace TagDoc

open Text

/-! ### One name -/

section Parts

variable {α : Type} {white sign : α → Bool} {t name before signs after : List α}

/-- A name has something in it, no white space at its ends, and no sign before it. -/
structure IsClean (white sign : α → Bool) (t : List α) : Prop where
  ne_nil : t ≠ []
  first : ∀ c ∈ t.head?, white c = false ∧ sign c = false
  last : ∀ c ∈ t.getLast?, white c = false

/-- Whether a name is clean can be computed. -/
theorem isClean_iff : IsClean white sign t ↔
    (!t.isEmpty && t.head?.all (fun c => !white c && !sign c) && t.getLast?.all (!white ·)) = true := by
  simp only [Bool.and_eq_true, Bool.not_eq_true', List.isEmpty_eq_false_iff, Option.all_eq_true]
  exact ⟨fun h => ⟨⟨h.ne_nil, h.first⟩, h.last⟩, fun ⟨⟨hne, hfirst⟩, hlast⟩ => ⟨hne, hfirst, hlast⟩⟩

instance : Decidable (IsClean white sign t) := decidable_of_iff' _ isClean_iff

/-- The parts of a name as it is set: the white space around it, the signs before it, and what is left between them. -/
structure NameParts (white sign : α → Bool) (t before signs name after : List α) : Prop where
  eq : t = before ++ (signs ++ name) ++ after
  white_before : ∀ c ∈ before, white c = true
  all_signs : ∀ c ∈ signs, sign c = true
  white_after : ∀ c ∈ after, white c = true
  first : ∀ c ∈ (signs ++ name).head?, white c = false
  last : ∀ c ∈ (signs ++ name).getLast?, white c = false
  unsigned : ∀ c ∈ name.head?, sign c = false

/-- In front there are one or more signs, and right behind them white space or nothing. -/
def SignsAlone (white sign : α → Bool) (t : List α) : Prop :=
  ∃ before signs rest, t = before ++ signs ++ rest ∧ (∀ c ∈ before, white c = true) ∧ signs ≠ [] ∧
    (∀ c ∈ signs, sign c = true) ∧ ∀ c ∈ rest.head?, white c = true

theorem NameParts.trim_eq (h : NameParts white sign t before signs name after) : trim white t = signs ++ name := by
  rw [h.eq, trim_append_append h.white_before h.white_after h.first h.last]

theorem NameParts.run_signs (h : NameParts white sign t before signs name after) : Text.Run sign signs name :=
  ⟨h.all_signs, h.unsigned⟩

theorem NameParts.stripStart_eq (h : NameParts white sign t before signs name after) :
    stripStart sign (trim white t) = name := by
  rw [h.trim_eq, stripStart, h.run_signs.dropWhile_append]

/-- Every list has such parts. -/
theorem exists_nameParts (white sign : α → Bool) (t : List α) :
    ∃ before signs after, NameParts white sign t before signs (stripStart sign (trim white t)) after := by
  obtain ⟨before, after, ht, hbefore, hafter, hfirst, hlast⟩ := exists_ends white t
  have hsigns := run_takeWhile sign (trim white t)
  have htrim : (trim white t).takeWhile sign ++ stripStart sign (trim white t) = trim white t :=
    List.takeWhile_append_dropWhile
  refine ⟨before, (trim white t).takeWhile sign, after, ?_, hbefore, hsigns.all, hafter, ?_, ?_, hsigns.stops⟩
  · rw [htrim, ← ht]
  · rwa [htrim]
  · rwa [htrim]

/-- What comes out of a name has no white space behind it. -/
theorem NameParts.last_of_name (h : NameParts white sign t before signs name after) :
    ∀ c ∈ name.getLast?, white c = false := by
  intro c hc
  refine h.last c ?_
  rw [List.getLast?_append_of_ne_nil _ (List.ne_nil_of_mem (List.mem_of_mem_getLast? hc))]
  exact hc

/-- Unless a name is blank, it goes on behind the white space before it with its signs. -/
theorem NameParts.dropWhile_white (h : NameParts white sign t before signs name after)
    (hblank : ¬ ∀ c ∈ t, white c = true) : t.dropWhile white = signs ++ (name ++ after) := by
  have hne : signs ++ name ≠ [] := by
    intro hempty
    refine hblank fun c hc => ?_
    rw [h.eq, hempty, List.append_nil, List.mem_append] at hc
    exact hc.elim (h.white_before c) (h.white_after c)
  have hrun : Text.Run white before (signs ++ name ++ after) := by
    refine ⟨h.white_before, fun c hc => h.first c ?_⟩
    rwa [List.head?_append_of_ne_nil _ hne] at hc
  rw [h.eq, List.append_assoc, hrun.dropWhile_append, List.append_assoc]

/-! No sign is white space. -/

variable (hdisjoint : ∀ c, sign c = true → white c = false)

include hdisjoint

theorem sign_eq_false_of_white {c : α} (h : white c = true) : sign c = false := by
  rw [← Bool.not_eq_true]
  intro hsign
  rw [hdisjoint c hsign] at h
  cases h

theorem dropWhile_white_of_signs {rest : List α} (ht : t = before ++ signs ++ rest)
    (hbefore : ∀ c ∈ before, white c = true) (hne : signs ≠ []) (hsigns : ∀ c ∈ signs, sign c = true) :
    t.dropWhile white = signs ++ rest := by
  have hrun : Text.Run white before (signs ++ rest) := by
    refine ⟨hbefore, fun c hc => ?_⟩
    rw [List.head?_append_of_ne_nil _ hne] at hc
    exact hdisjoint c (hsigns c (List.mem_of_mem_head? hc))
  rw [ht, List.append_assoc, hrun.dropWhile_append]

/-- Signs are alone if they are there and no name begins right behind them. -/
theorem NameParts.signsAlone_iff (h : NameParts white sign t before signs name after) :
    SignsAlone white sign t ↔ signs ≠ [] ∧ ∀ c ∈ name.head?, white c = true := by
  constructor
  · rintro ⟨before', signs', rest, ht, hbefore', hne, hsigns', hrest⟩
    -- Both ways to take the text apart leave the same behind the white space it begins with.
    have hbody : signs' ++ rest = signs ++ (name ++ after) := by
      rw [← dropWhile_white_of_signs hdisjoint ht hbefore' hne hsigns', h.dropWhile_white]
      intro hblank
      obtain ⟨c, hc⟩ := List.exists_mem_of_ne_nil _ hne
      have hwhite := hblank c (by simp [ht, hc])
      rw [hdisjoint c (hsigns' c hc)] at hwhite
      cases hwhite
    have hrun' : Text.Run sign signs' rest := ⟨hsigns', fun c hc => sign_eq_false_of_white hdisjoint (hrest c hc)⟩
    have hrun : Text.Run sign signs (name ++ after) := by
      refine ⟨h.run_signs.all, fun c hc => ?_⟩
      cases name with
      | nil => exact sign_eq_false_of_white hdisjoint (h.white_after c (List.mem_of_mem_head? hc))
      | cons d name => exact h.run_signs.stops c hc
    -- signs are cut off in one way only
    have hsigns : signs' = signs := by rw [← hrun'.takeWhile_append, hbody, hrun.takeWhile_append]
    have hafter : rest = name ++ after := by rw [← hrun'.dropWhile_append, hbody, hrun.dropWhile_append]
    refine ⟨hsigns ▸ hne, fun c hc => hrest c ?_⟩
    rw [hafter, List.head?_append_of_ne_nil _ (List.ne_nil_of_mem (List.mem_of_mem_head? hc))]
    exact hc
  · rintro ⟨hne, hwhite⟩
    refine ⟨before, signs, name ++ after, ?_, h.white_before, hne, h.all_signs, fun c hc => ?_⟩
    · rw [h.eq]
      simp only [List.append_assoc]
    · cases name with
      | nil => exact h.white_after c (List.mem_of_mem_head? hc)
      | cons d name => exact hwhite c hc

/-- What comes out of a name that is not blank is clean unless the signs are alone. -/
theorem NameParts.isClean_iff (h : NameParts white sign t before signs name after) (hne : signs ++ name ≠ []) :
    IsClean white sign name ↔ ¬ SignsAlone white sign t := by
  rw [h.signsAlone_iff hdisjoint]
  constructor
  · rintro hclean ⟨-, hwhite⟩
    obtain ⟨c, rest, rfl⟩ := List.exists_cons_of_ne_nil hclean.ne_nil
    have hno := (hclean.first c rfl).1
    rw [hwhite c rfl] at hno
    cases hno
  · intro hno
    -- Without signs the name begins where the white space ends; with signs it is known how it begins, as these are not
    -- alone.
    have hname : name ≠ [] ∧ ∀ c ∈ name.head?, white c = false := by
      by_cases hsigns : signs = []
      · rw [hsigns, List.nil_append] at hne
        have hfirst := h.first
        rw [hsigns, List.nil_append] at hfirst
        exact ⟨hne, hfirst⟩
      · cases name with
        | nil => exact absurd ⟨hsigns, nofun⟩ hno
        | cons c name =>
          refine ⟨List.cons_ne_nil c name, fun d hd => ?_⟩
          obtain rfl := Option.some.inj hd
          rw [← Bool.not_eq_true]
          intro hwhite
          exact hno ⟨hsigns, fun d hd => Option.some.inj hd ▸ hwhite⟩
    exact ⟨hname.1, fun c hc => ⟨hname.2 c hc, h.unsigned c hc⟩, h.last_of_name⟩

omit hdisjoint in
/-- A name is left as it is just if it is clean. -/
theorem isClean_iff_stripStart_eq_self :
    IsClean white sign t ↔ trim white t ≠ [] ∧ stripStart sign (trim white t) = t := by
  constructor
  · intro hclean
    have hparts : NameParts white sign t [] [] t [] :=
      ⟨by simp, nofun, nofun, nofun, fun c hc => (hclean.first c hc).1, hclean.last, fun c hc => (hclean.first c hc).2⟩
    exact ⟨hparts.trim_eq ▸ hclean.ne_nil, hparts.stripStart_eq⟩
  · rintro ⟨hne, hself⟩
    obtain ⟨before, signs, after, h⟩ := exists_nameParts white sign t
    rw [hself] at h
    rw [h.trim_eq] at hne
    -- nothing stands around what is as long as the whole
    have hlength := congrArg List.length h.eq
    simp only [List.length_append] at hlength
    obtain rfl : signs = [] := List.eq_nil_of_length_eq_zero (by omega)
    exact ⟨hne, fun c hc => ⟨h.first c hc, h.unsigned c hc⟩, h.last⟩

end Parts

namespace Settings

variable {t name : RawText} {names : List RawText} {items : List Value} {v : Value}

/-! ### The code points of a name -/

/-- Whether a code point is a sign. -/
def isSignPoint (n : Nat) : Bool := n == '@'.toNat

theorem isSpacePoint_of_isSignPoint (n : Nat) (h : isSignPoint n = true) : isSpacePoint n = false := by
  rw [beq_iff_eq.1 h]
  decide

/-- A name is clean if its code points are. -/
def IsCleanName (t : RawText) : Prop := IsClean isSpacePoint isSignPoint t.points

instance : Decidable (IsCleanName t) := inferInstanceAs (Decidable (IsClean _ _ _))

/-- In front of a name there are signs alone. -/
def HasSignsAlone (t : RawText) : Prop := SignsAlone isSpacePoint isSignPoint t.points

/-- What is left of a name. -/
def cleaned : RawText → RawText
  | .text t => .text (cleanName t)
  | .codes points => .codes (cleanCodes points)

theorem trim_map_toNat (t : Text) : trim isSpacePoint (t.map Char.toNat) = t.strip.map Char.toNat := by
  have hspace : isSpacePoint ∘ Char.toNat = isSpace := funext fun c => by
    rw [Function.comp_apply, isSpacePoint, Char.ofNat_toNat]
  rw [trim, stripStart, stripEnd, List.dropWhile_map, ← List.map_reverse, List.dropWhile_map, ← List.map_reverse, hspace]
  rfl

/-- The code points of what is left are what is left of the code points. -/
theorem points_cleaned (t : RawText) : (cleaned t).points = cleanCodes t.points := by
  cases t with
  | codes points => rfl
  | text t =>
    have hsign : (fun n => n == '@'.toNat) ∘ Char.toNat = (· == '@') := funext fun c => by
      rw [Function.comp_apply, Bool.beq_eq_decide_eq, Bool.beq_eq_decide_eq, decide_eq_decide, Char.toNat_inj]
    rw [RawText.points, cleanCodes, trim_map_toNat, stripStart, List.dropWhile_map, hsign]
    rfl

/-- A name with something in it comes out cleaned. -/
theorem cleanItem?_toValue (t : RawText) :
    cleanItem? t.toValue = if trim isSpacePoint t.points = [] then none else some (cleaned t).toValue := by
  cases t with
  | text t =>
    rw [RawText.points, trim_map_toNat]
    simp only [List.map_eq_nil_iff, RawText.toValue, cleanItem?, cleaned, List.isEmpty_iff]
  | codes points =>
    by_cases hblank : trim isSpacePoint points = [] <;>
      simp [RawText.points, RawText.toValue, cleanItem?, cleaned, hblank]

theorem toValue_injective : Function.Injective RawText.toValue := by
  intro a b h
  cases a <;> cases b <;> cases h <;> rfl

theorem points_text_injective {a b : Text} (h : (RawText.text a).points = (RawText.text b).points) : a = b :=
  List.map_injective_iff.2 (fun _ _ => Char.toNat_inj.1) h

/-- A name is left as it is just if it is clean. -/
theorem cleanItem?_eq_self_iff : cleanItem? t.toValue = some t.toValue ↔ IsCleanName t := by
  have hself : cleaned t = t ↔ cleanCodes t.points = t.points := by
    rw [← points_cleaned]
    constructor
    · exact congrArg RawText.points
    · intro h
      cases t with
      | text t => exact congrArg RawText.text (points_text_injective h)
      | codes points => exact congrArg RawText.codes h
  rw [cleanItem?_toValue, IsCleanName, isClean_iff_stripStart_eq_self]
  by_cases hblank : trim isSpacePoint t.points = []
  · simp [hblank]
  · rw [if_neg hblank, Option.some.injEq, toValue_injective.eq_iff, hself]
    exact (and_iff_right hblank).symm

/-! ### All names -/

/-- What comes out of an item is a name, and the item was one. -/
theorem exists_of_cleanItem? {w : Value} (h : cleanItem? v = some w) :
    ∃ t : RawText, v = t.toValue ∧ trim isSpacePoint t.points ≠ [] ∧ w = (cleaned t).toValue := by
  have hname : ∃ t : RawText, v = t.toValue := by
    cases v with
    | str t => exact ⟨.text t, rfl⟩
    | codes points => exact ⟨.codes points, rfl⟩
    | _ => cases h
  obtain ⟨t, rfl⟩ := hname
  rw [cleanItem?_toValue] at h
  split at h
  · cases h
  · rename_i hne
    exact ⟨t, rfl, hne, (Option.some.inj h).symm⟩

theorem forall₂_gives_rawText_iff {vs : List Value} (h : ∀ v ∈ vs, ∃ t : RawText, v = t.toValue) :
    List.Forall₂ (fun v t => (Check.rawText v).Gives t) vs names ↔ vs = names.map RawText.toValue := by
  induction vs generalizing names with
  | nil => simp [eq_comm]
  | cons v vs ih =>
    obtain ⟨⟨t, rfl⟩, hvs⟩ := List.forall_mem_cons.1 h
    simp only [List.forall₂_cons_left_iff, Check.gives_rawText_iff, ih hvs]
    rw [eq_comm, List.map_eq_cons_iff]
    constructor
    · rintro ⟨name, rest, rfl, rfl, rfl⟩
      exact ⟨t, rest, rfl, rfl, rfl⟩
    · rintro ⟨name, rest, rfl, hname, rfl⟩
      exact ⟨name, rest, (toValue_injective hname).symm, rfl, rfl⟩

/-- Names come out of a value just if they are what its items are in their clean forms. -/
theorem gives_checkNames_iff (hitems : nameItems? v = some items) :
    (checkNames v).Gives names ↔ items.filterMap cleanItem? = names.map RawText.toValue := by
  have hcleaned : ∀ w ∈ items.filterMap cleanItem?, ∃ t : RawText, w = t.toValue := by
    intro w hw
    obtain ⟨item, -, hitem⟩ := List.mem_filterMap.1 hw
    obtain ⟨t, -, -, rfl⟩ := exists_of_cleanItem? hitem
    exact ⟨cleaned t, rfl⟩
  rw [← forall₂_gives_rawText_iff hcleaned, ← Check.gives_items_iff, checkNames, cleanNames, hitems]
  exact Iff.rfl

/-- A name comes out for each item that is one and not blank. -/
theorem mem_names_iff (hnames : items.filterMap cleanItem? = names.map RawText.toValue) :
    name ∈ names ↔ ∃ t : RawText, t.toValue ∈ items ∧ trim isSpacePoint t.points ≠ [] ∧ cleaned t = name := by
  have hmem : name ∈ names ↔ ∃ item ∈ items, cleanItem? item = some name.toValue := by
    rw [← List.mem_filterMap, hnames, List.mem_map_of_injective toValue_injective]
  rw [hmem]
  constructor
  · rintro ⟨item, hitem, hclean⟩
    obtain ⟨t, rfl, hne, hname⟩ := exists_of_cleanItem? hclean
    exact ⟨t, hitem, hne, (toValue_injective hname).symm⟩
  · rintro ⟨t, hitem, hne, rfl⟩
    refine ⟨_, hitem, ?_⟩
    rw [cleanItem?_toValue, if_neg hne]

/-- The parts of the code points of a name. -/
theorem exists_parts_cleaned (t : RawText) :
    ∃ before signs after, NameParts isSpacePoint isSignPoint t.points before signs (cleaned t).points after := by
  rw [points_cleaned]
  exact exists_nameParts isSpacePoint isSignPoint t.points

/-- All names are clean just if no item has signs alone in front. -/
theorem forall_isCleanName_iff (hnames : items.filterMap cleanItem? = names.map RawText.toValue) :
    (∀ name ∈ names, IsCleanName name) ↔ ∀ t : RawText, t.toValue ∈ items → ¬ HasSignsAlone t := by
  constructor
  · intro hclean t hitem halone
    obtain ⟨before, signs, after, h⟩ := exists_parts_cleaned t
    have hne : signs ++ (cleaned t).points ≠ [] :=
      List.append_ne_nil_of_left_ne_nil ((h.signsAlone_iff isSpacePoint_of_isSignPoint).1 halone).1 _
    have hname : cleaned t ∈ names := (mem_names_iff hnames).2 ⟨t, hitem, h.trim_eq ▸ hne, rfl⟩
    exact (h.isClean_iff isSpacePoint_of_isSignPoint hne).1 (hclean _ hname) halone
  · rintro halone name hname
    obtain ⟨t, hitem, hne, rfl⟩ := (mem_names_iff hnames).1 hname
    obtain ⟨before, signs, after, h⟩ := exists_parts_cleaned t
    exact (h.isClean_iff isSpacePoint_of_isSignPoint (h.trim_eq ▸ hne)).2 (halone t hitem)

/-- Names come out again when they are set just if they are clean. -/
theorem gives_checkNames_self_iff :
    (checkNames (.list (names.map RawText.toValue))).Gives names ↔ ∀ name ∈ names, IsCleanName name := by
  rw [gives_checkNames_iff rfl, List.filterMap_map, List.filterMap_eq_map_iff_forall_eq_some]
  simp only [Function.comp_apply, cleanItem?_eq_self_iff]

variable {depth : Nat} {es : Entries} {s : Settings}

/-- To set one field anew is to settle that field. -/
theorem ofEntries_insert_eq_ok_iff {f : Field} (hs : ofEntries depth es = .ok s) :
    ofEntries depth (es.insert f.key v) = .ok s ↔ f.Settles depth (some v) (f.get s) := by
  rw [ofEntries_eq_ok_iff]
  have hself : (es.insert f.key v).get? f.key = some v := Entries.get?_insert_self rfl v es
  constructor
  · intro h
    exact hself ▸ h f
  · intro h g
    rcases eq_or_ne f g with rfl | hne
    · rwa [hself]
    · rw [Entries.get?_insert_of_ne rfl rfl (Field.key_injective.ne hne)]
      exact ofEntries_eq_ok_iff.1 hs g

/-- No reserved name has a sign before it or white space behind it. The names are clean just if no item of what they are
set to has signs alone in front, and that is when they can be set to what came out and stay as they are. -/
theorem reservedTags_clean_iff (hset : es.get? Field.reservedTags.key = some v) (hitems : nameItems? v = some items)
    (hs : ofEntries depth es = .ok s) :
    (∀ name ∈ s.reservedTags,
        (∀ c ∈ name.points.head?, c ≠ '@'.toNat) ∧ ∀ c ∈ name.points.getLast?, isSpacePoint c = false) ∧
      ((∀ name ∈ s.reservedTags, IsCleanName name) ↔ ∀ t : RawText, t.toValue ∈ items → ¬ HasSignsAlone t) ∧
      (ofEntries depth (es.insert Field.reservedTags.key (.list (s.reservedTags.map RawText.toValue))) = .ok s ↔
        ∀ t : RawText, t.toValue ∈ items → ¬ HasSignsAlone t) := by
  have hgives : (checkNames v).Gives s.reservedTags := by
    have hsettled := ofEntries_eq_ok_iff.1 hs .reservedTags
    rw [hset] at hsettled
    exact hsettled
  have hnames : items.filterMap cleanItem? = s.reservedTags.map RawText.toValue := (gives_checkNames_iff hitems).1 hgives
  refine ⟨fun name hname => ?_, forall_isCleanName_iff hnames, ?_⟩
  · obtain ⟨t, -, -, rfl⟩ := (mem_names_iff hnames).1 hname
    obtain ⟨before, signs, after, h⟩ := exists_parts_cleaned t
    exact ⟨fun c hc => beq_eq_false_iff_ne.1 (h.unsigned c hc), h.last_of_name⟩
  · rw [ofEntries_insert_eq_ok_iff hs, ← forall_isCleanName_iff hnames]
    exact gives_checkNames_self_iff

/-- Names with more than one sign, with white space around them and with nothing between two commas come out clean, and can
be set again. -/
theorem reservedTags_clean_of_text :
    let es : Entries := [(.str "reserved_tags".toList, .str " @@note ,\u3000,a b,@tab\t".toList)]
    let names : List RawText := [.text "note".toList, .text "a b".toList, .text "tab".toList]
    ∃ s, ofEntries 100 es = .ok s ∧ s.reservedTags = names ∧ (∀ name ∈ names, IsCleanName name) ∧
      ofEntries 100 (es.insert Field.reservedTags.key (.list (names.map RawText.toValue))) = .ok s := by
  intro es names
  let s : Settings := { Settings.default with reservedTags := names }
  have hs : ofEntries 100 es = .ok s := rfl
  have hclean : ∀ name ∈ names, IsCleanName name := by decide
  have hset : es.get? Field.reservedTags.key = some (.str " @@note ,\u3000,a b,@tab\t".toList) := rfl
  obtain ⟨-, hnames, hagain⟩ := reservedTags_clean_iff hset rfl hs
  exact ⟨s, hs, rfl, hclean, hagain.2 (hnames.1 hclean)⟩

/-- Of signs that stand apart from a name the white space stays, and of signs with no name at all nothing does. -/
theorem not_forall_reservedTags_clean :
    ¬ ∀ (depth : Nat) (es : Entries) (s : Settings) (v : Value) (items : List Value),
      es.get? Field.reservedTags.key = some v → nameItems? v = some items → ofEntries depth es = .ok s →
      (∀ name ∈ s.reservedTags, IsCleanName name) ∧
        ofEntries depth (es.insert Field.reservedTags.key (.list (s.reservedTags.map RawText.toValue))) = .ok s := by
  intro h
  let es : Entries := [(.str "reserved_tags".toList, .str "@ a,@".toList)]
  have hs : ofEntries 100 es = .ok { Settings.default with reservedTags := [.text " a".toList, .text []] } := rfl
  obtain ⟨hclean, -⟩ := h 100 es _ _ _ rfl rfl hs
  exact (hclean (.text []) (by simp)).ne_nil rfl

end Settings

end TagDoc

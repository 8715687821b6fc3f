import Mathlib.Data.List.Nodup
import TagDoc.Settings.Load

/-!
# Entries under text

Two values are one key in many ways, but a text is one key with nothing but itself. So a mapping whose keys are texts is
looked up by equality, and entries that are put into a mapping stand before those that it had.

## Main definitions

* `Entries.OfTexts`: what the entries of a mapping from texts are like
* `Entries.insertAll`: entries with others put into them
* `Entries.underNames`: the entries that names are given

## Main results

* `Entries.get?_insert_self`, `Entries.get?_insert_of_ne`: the value under a text after one more entry
* `Entries.get?_insertAll`: the value under a text after many
* `Entries.ofTexts_ofList`, `Entries.OfTexts.ofList_eq_self`: entries with texts for keys put in one after the other
* `Entries.get?_underNames`: the value under one of the names that are given entries
-/

namespace TagDoc

open Settings

variable {es puts : Entries} {k key v : Value}

theorem Value.sameKey_iff_of_isText (hkey : isText key = true) : k.sameKey key = true ↔ k = key := by
  cases key with
  | str t => cases k <;> simp [Value.sameKey]
  | codes points => cases k <;> simp [Value.sameKey]
  | _ => cases hkey

theorem Value.sameKey_self_of_isText (hkey : isText key = true) : key.sameKey key = true :=
  (sameKey_iff_of_isText hkey).2 rfl

namespace Entries

/-- The entries of a mapping from texts: their keys are texts, and no two of them are the same. -/
structure OfTexts (es : Entries) : Prop where
  text : ∀ e ∈ es, isText e.1 = true
  nodup : (es.map Prod.fst).Nodup

theorem OfTexts.nil : OfTexts [] := ⟨nofun, List.nodup_nil⟩

theorem OfTexts.tail (h : OfTexts ((k, v) :: es)) : OfTexts es where
  text := (List.forall_mem_cons.1 h.text).2
  nodup := (List.nodup_cons.1 h.nodup).2

theorem OfTexts.head (h : OfTexts ((k, v) :: es)) : isText k = true := (List.forall_mem_cons.1 h.text).1

theorem OfTexts.filter (h : OfTexts es) (p : Value × Value → Bool) : OfTexts (es.filter p) where
  text e he := h.text e (List.mem_of_mem_filter he)
  nodup := h.nodup.sublist (List.filter_sublist.map _)

/-! ### One entry -/

theorem get?_cons (k v : Value) (es : Entries) (key : Value) :
    get? ((k, v) :: es) key = if k.sameKey key = true then some v else get? es key := by
  rw [get?, List.find?_cons]
  split <;> rename_i h
  · rw [if_pos h]
    rfl
  · rw [if_neg (by simp [h])]
    rfl

theorem get?_cons_self (hkey : isText key = true) (v : Value) (es : Entries) : get? ((key, v) :: es) key = some v := by
  rw [get?_cons, if_pos (Value.sameKey_self_of_isText hkey)]

theorem get?_cons_of_ne (hkey : isText key = true) (hk : k ≠ key) (v : Value) (es : Entries) :
    get? ((k, v) :: es) key = get? es key := by
  rw [get?_cons, if_neg (mt (Value.sameKey_iff_of_isText hkey).1 hk)]

theorem get?_eq_none (hkey : isText key = true) (h : key ∉ es.map Prod.fst) : get? es key = none := by
  induction es with
  | nil => rfl
  | cons e es ih =>
    obtain ⟨hne, hrest⟩ := List.ne_and_not_mem_of_not_mem_cons h
    rw [get?_cons_of_ne hkey (Ne.symm hne), ih hrest]

theorem insert_cons_self (hk : isText k = true) (v w : Value) (es : Entries) :
    insert ((k, w) :: es) k v = (k, v) :: es := by
  rw [insert, if_pos (Value.sameKey_self_of_isText hk)]

theorem insert_cons_of_ne {first : Value} (hk : isText k = true) (hne : first ≠ k) (v w : Value) (es : Entries) :
    insert ((first, w) :: es) k v = (first, w) :: insert es k v := by
  rw [insert, if_neg (mt (Value.sameKey_iff_of_isText hk).1 hne)]

theorem get?_insert_self (hk : isText k = true) (v : Value) (es : Entries) : get? (insert es k v) k = some v := by
  induction es with
  | nil => exact get?_cons_self hk v []
  | cons e es ih =>
    obtain ⟨first, w⟩ := e
    rcases eq_or_ne first k with rfl | hne
    · rw [insert_cons_self hk, get?_cons_self hk]
    · rw [insert_cons_of_ne hk hne, get?_cons_of_ne hk hne, ih]

theorem get?_insert_of_ne (hk : isText k = true) (hkey : isText key = true) (hne : k ≠ key) (v : Value) (es : Entries) :
    get? (insert es k v) key = get? es key := by
  induction es with
  | nil => exact get?_cons_of_ne hkey hne v []
  | cons e es ih =>
    obtain ⟨first, w⟩ := e
    rcases eq_or_ne first k with rfl | hfirst
    · rw [insert_cons_self hk, get?_cons_of_ne hkey hne, get?_cons_of_ne hkey hne]
    · rw [insert_cons_of_ne hk hfirst, get?_cons, get?_cons, ih]

theorem text_insert (hk : isText k = true) (h : ∀ e ∈ es, isText e.1 = true) (v : Value) :
    ∀ e ∈ insert es k v, isText e.1 = true := by
  induction es with
  | nil => exact List.forall_mem_singleton.2 hk
  | cons e es ih =>
    obtain ⟨first, w⟩ := e
    obtain ⟨hfirst, hrest⟩ := List.forall_mem_cons.1 h
    rw [insert]
    split
    · exact List.forall_mem_cons.2 ⟨hfirst, hrest⟩
    · exact List.forall_mem_cons.2 ⟨hfirst, ih hrest⟩

theorem insert_of_not_mem (hk : isText k = true) (h : k ∉ es.map Prod.fst) (v : Value) :
    insert es k v = es ++ [(k, v)] := by
  induction es with
  | nil => rfl
  | cons e es ih =>
    obtain ⟨hne, hrest⟩ := List.ne_and_not_mem_of_not_mem_cons h
    rw [insert_cons_of_ne hk (Ne.symm hne), ih hrest, List.cons_append]

theorem OfTexts.insert (h : OfTexts es) (hk : isText k = true) (v : Value) : OfTexts (insert es k v) where
  text := text_insert hk h.text v
  nodup := by
    by_cases hmem : k ∈ es.map Prod.fst
    · -- the entry with this key changes its value only
      have hkeys : (Entries.insert es k v).map Prod.fst = es.map Prod.fst := by
        clear h
        induction es with
        | nil => cases hmem
        | cons e es ih =>
          obtain ⟨first, w⟩ := e
          rcases eq_or_ne first k with rfl | hne
          · rw [insert_cons_self hk]
            rfl
          · rw [insert_cons_of_ne hk hne, List.map_cons, List.map_cons, ih (List.mem_of_ne_of_mem (Ne.symm hne) hmem)]
      exact hkeys ▸ h.nodup
    · rw [insert_of_not_mem hk hmem, List.map_append]
      exact List.nodup_append'.2 ⟨h.nodup, List.nodup_singleton k, by simpa using hmem⟩

/-! ### Many entries -/

/-- Entries with others put into them from first to last. -/
def insertAll (es puts : Entries) : Entries := puts.foldl (fun es (k, v) => insert es k v) es

theorem text_insertAll (hputs : ∀ e ∈ puts, isText e.1 = true) (h : ∀ e ∈ es, isText e.1 = true) :
    ∀ e ∈ insertAll es puts, isText e.1 = true := by
  induction puts generalizing es with
  | nil => exact h
  | cons put puts ih =>
    obtain ⟨hput, hrest⟩ := List.forall_mem_cons.1 hputs
    exact ih hrest (text_insert hput h put.2)

/-- What is put in takes the place of what was there. -/
theorem get?_insertAll (hputs : OfTexts puts) (hkey : isText key = true) (es : Entries) :
    get? (insertAll es puts) key = (get? puts key).or (get? es key) := by
  induction puts generalizing es with
  | nil => rfl
  | cons put puts ih =>
    obtain ⟨k, v⟩ := put
    have hrest : get? (insertAll (insert es k v) puts) key = (get? puts key).or (get? (insert es k v) key) :=
      ih hputs.tail (insert es k v)
    rcases eq_or_ne k key with rfl | hne
    · have hnone : get? puts k = none := get?_eq_none hkey (List.nodup_cons.1 hputs.nodup).1
      rw [get?_insert_self hkey, hnone] at hrest
      rw [get?_cons_self hkey]
      exact hrest
    · rw [get?_insert_of_ne hputs.head hkey hne] at hrest
      rw [get?_cons_of_ne hkey hne]
      exact hrest

theorem OfTexts.insertAll (h : OfTexts es) (hputs : ∀ e ∈ puts, isText e.1 = true) : OfTexts (insertAll es puts) := by
  induction puts generalizing es with
  | nil => exact h
  | cons put puts ih =>
    obtain ⟨hput, hrest⟩ := List.forall_mem_cons.1 hputs
    exact ih (h.insert hput put.2) hrest

/-- Entries with keys of their own are put in behind those that are there. -/
theorem insertAll_eq_append (h : OfTexts (es ++ puts)) : insertAll es puts = es ++ puts := by
  induction puts generalizing es with
  | nil => exact (List.append_nil es).symm
  | cons put puts ih =>
    obtain ⟨k, v⟩ := put
    have hk : isText k = true := h.text (k, v) (by simp)
    have hnew : k ∉ es.map Prod.fst := by
      have hnodup := h.nodup
      rw [List.map_append, List.nodup_append'] at hnodup
      exact fun hmem => hnodup.2.2 hmem (by simp)
    rw [List.append_cons] at h ⊢
    rw [← ih h, ← insert_of_not_mem hk hnew]
    rfl

theorem ofTexts_ofList (hputs : ∀ e ∈ puts, isText e.1 = true) : OfTexts (ofList puts) := OfTexts.nil.insertAll hputs

theorem OfTexts.ofList_eq_self (h : OfTexts es) : ofList es = es := insertAll_eq_append (List.nil_append es ▸ h)

/-- Of entries with different keys, the one under a key is kept or left out with its value. -/
theorem get?_filter (h : OfTexts es) (hkey : isText key = true) (p : Value → Bool) :
    get? (es.filter fun e => p e.2) key = (get? es key).filter p := by
  induction es with
  | nil => rfl
  | cons e es ih =>
    obtain ⟨k, v⟩ := e
    rcases eq_or_ne k key with rfl | hne
    · have hkeys : k ∉ (es.filter fun e => p e.2).map Prod.fst := fun hmem =>
        (List.nodup_cons.1 h.nodup).1 ((List.filter_sublist.map _).subset hmem)
      rw [get?_cons_self hkey, Option.filter_some, List.filter_cons]
      split
      · exact get?_cons_self hkey v _
      · exact get?_eq_none hkey hkeys
    · rw [get?_cons_of_ne hkey hne, List.filter_cons, ← ih h.tail]
      split
      · exact get?_cons_of_ne hkey hne v _
      · rfl

/-! ### Entries under names -/

/-- The entries that some of the names in a list are given. -/
def underNames (value? : String → Option Value) (names : List String) : Entries :=
  names.filterMap fun name => (value? name).map fun v => (.str name.toList, v)

theorem underNames_cons_none {value? : String → Option Value} {name : String} (h : value? name = none)
    (names : List String) : underNames value? (name :: names) = underNames value? names := by
  rw [underNames, List.filterMap_cons_none (by rw [h, Option.map_none]), underNames]

theorem underNames_cons_some {value? : String → Option Value} {name : String} (h : value? name = some v)
    (names : List String) :
    underNames value? (name :: names) = (.str name.toList, v) :: underNames value? names := by
  rw [underNames, List.filterMap_cons_some (by rw [h, Option.map_some]), underNames]

theorem mem_of_mem_underNames {value? : String → Option Value} {names : List String} {key : Value}
    (h : key ∈ (underNames value? names).map Prod.fst) : ∃ name ∈ names, key = .str name.toList := by
  obtain ⟨e, he, rfl⟩ := List.mem_map.1 h
  obtain ⟨name, hname, hvalue⟩ := List.mem_filterMap.1 he
  obtain ⟨v, -, rfl⟩ := Option.map_eq_some_iff.1 hvalue
  exact ⟨name, hname, rfl⟩

theorem not_mem_underNames {value? : String → Option Value} {names : List String} {name : String} (h : name ∉ names) :
    .str name.toList ∉ (underNames value? names).map Prod.fst := by
  intro hmem
  obtain ⟨other, hother, heq⟩ := mem_of_mem_underNames hmem
  obtain rfl : name = other := String.toList_injective (Value.str.inj heq)
  exact h hother

theorem ofTexts_underNames {value? : String → Option Value} {names : List String} (h : names.Nodup) :
    OfTexts (underNames value? names) where
  text e he := by
    obtain ⟨name, -, heq⟩ := mem_of_mem_underNames (List.mem_map_of_mem he)
    rw [heq]
    rfl
  nodup := by
    induction names with
    | nil => exact List.nodup_nil
    | cons name names ih =>
      obtain ⟨hname, hnames⟩ := List.nodup_cons.1 h
      cases hvalue : value? name with
      | none => exact underNames_cons_none hvalue names ▸ ih hnames
      | some v =>
        rw [underNames_cons_some hvalue, List.map_cons]
        exact List.nodup_cons.2 ⟨not_mem_underNames hname, ih hnames⟩

theorem get?_underNames {value? : String → Option Value} {names : List String} {name : String} (h : names.Nodup)
    (hname : name ∈ names) : get? (underNames value? names) (.str name.toList) = value? name := by
  induction names with
  | nil => cases hname
  | cons first names ih =>
    obtain ⟨hfirst, hnames⟩ := List.nodup_cons.1 h
    rcases List.mem_cons.1 hname with rfl | hlater
    · cases hvalue : value? name with
      | none => rw [underNames_cons_none hvalue, get?_eq_none rfl (not_mem_underNames hfirst)]
      | some v => rw [underNames_cons_some hvalue, get?_cons_self rfl]
    · have hne : Value.str first.toList ≠ .str name.toList := fun heq =>
        hfirst (String.toList_injective (Value.str.inj heq) ▸ hlater)
      cases hvalue : value? first with
      | none => rw [underNames_cons_none hvalue, ih hnames hlater]
      | some v => rw [underNames_cons_some hvalue, get?_cons_of_ne rfl hne, ih hnames hlater]

end Entries

end TagDoc

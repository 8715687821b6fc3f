import TagDoc.Proofs.Files.Tree

/-!
# Writing the same once more

An item put where it is already changes nothing, an item put in the place of another leaves no trace of it, and items put
at different places do not meet. So if some texts are written and then all of them are written again, the tree is what it
was after the first time: in between, a file may hold a text that was written there earlier, but the last one comes
back.

## Main results

* `put_put_self`, `put_comm`, `put_eq_self`: the laws of putting items
* `writeAll_put`: what is overwritten later does not matter
* `writeAll_writeAll`: to write the same once more changes nothing
-/

namespace TagDoc.FileTree

variable {t t' : FileTree} {place other : Place} {item item' : Item} {octets : List UInt8} {w : Path × Text}
  {writes : List (Path × Text)}

/-! ### Items put one after the other -/

theorem setItem_setItem_self (place : Place) (item item' : Item) (items : List (Place × Item)) :
    setItem place item' (setItem place item items) = setItem place item' items := by
  induction items with
  | nil => simp [setItem]
  | cons entry items ih =>
    obtain ⟨q, i⟩ := entry
    by_cases hq : q = place
    · simp [setItem, hq]
    · simp [setItem, hq, ih]

/-- Items at different places can be put in any order, if one of the places has an item already: places that have none come
into the list in the order in which they are put. -/
theorem setItem_comm (hne : other ≠ place) {items : List (Place × Item)} (hthere : items.lookup place ≠ none) :
    setItem other item' (setItem place item items) = setItem place item (setItem other item' items) := by
  induction items with
  | nil => exact absurd rfl hthere
  | cons entry items ih =>
    obtain ⟨q, i⟩ := entry
    by_cases hq : q = place
    · subst hq
      simp [setItem, hne.symm]
    · rw [List.lookup_cons, beq_false_of_ne (Ne.symm hq)] at hthere
      by_cases hq' : q = other
      · subst hq'
        simp [setItem, hne]
      · simp [setItem, hq, hq', ih hthere]

theorem setItem_eq_self {items : List (Place × Item)} (h : items.lookup place = some item) :
    setItem place item items = items := by
  induction items with
  | nil => cases h
  | cons entry items ih =>
    obtain ⟨q, i⟩ := entry
    by_cases hq : q = place
    · subst hq
      simp only [List.lookup_cons_self, Option.some.injEq] at h
      simp [setItem, h]
    · rw [List.lookup_cons, beq_false_of_ne (Ne.symm hq)] at h
      simp [setItem, hq, ih h]

theorem put_put_self (t : FileTree) (place : Place) (item item' : Item) :
    (t.put place item).put place item' = t.put place item' := by
  simp [put, setItem_setItem_self]

theorem lookup_of_item? (hplace : place ≠ []) : t.items.lookup place = t.item? place := by
  simp [item?, hplace]

theorem put_comm (hne : other ≠ place) (hplace : place ≠ []) (hthere : t.item? place ≠ none) :
    (t.put place item).put other item' = (t.put other item').put place item := by
  rw [← lookup_of_item? hplace] at hthere
  simp [put, setItem_comm hne hthere]

theorem put_eq_self (hplace : place ≠ []) (h : t.item? place = some item) : t.put place item = t := by
  rw [← lookup_of_item? hplace] at h
  simp [put, setItem_eq_self h]

/-! ### Texts written once more -/

/-- A file that is written to later on may hold anything before. -/
theorem writeAll_put (h : t.writeAll writes = .ok t') (hfile : t.item? place = some (.file octets))
    (hlater : ∃ w ∈ writes, t.resolve w.1 = .ok place) (octets' : List UInt8) :
    (t.put place (.file octets')).writeAll writes = .ok t' := by
  have hplace : place ≠ [] := ne_nil_of_item?_ne (t := t) (by simp [hfile])
  induction writes generalizing t octets with
  | nil => simp at hlater
  | cons w writes ih =>
    obtain ⟨u, hu, hrest⟩ := writeAll_cons_eq_ok_iff.1 h
    have hsame : t.SameDirectories (t.put place (.file octets')) := sameDirectories_put (by simp [hfile]) octets'
    have hkept := sameDirectories_of_write hu
    obtain ⟨target, htarget, hfree, rfl⟩ := write_eq_ok_iff.1 hu
    have hfree' : (t.put place (.file octets')).item? target ≠ some .directory := by
      rwa [Ne, hsame.directory_iff]
    have hwrite : (t.put place (.file octets')).writeText w.1 w.2 =
        .ok ((t.put place (.file octets')).put target (.file w.2.toUtf8)) :=
      write_eq_ok_iff.2 ⟨target, hsame.resolve_eq_ok_iff.2 htarget, hfree', rfl⟩
    rw [writeAll_cons_eq_ok_iff]
    refine ⟨_, hwrite, ?_⟩
    -- Either this write is the one that covers the change, or the change goes past it to the writes behind.
    by_cases htarget' : target = place
    · subst htarget'
      rwa [put_put_self]
    · rw [put_comm htarget' hplace (by simp [hfile])]
      have hfile' : (t.put target (.file w.2.toUtf8)).item? place = some (.file octets) := by
        rw [item?_put_of_ne (Ne.symm htarget'), hfile]
      refine ih hrest hfile' ?_
      obtain ⟨v, hv, hres⟩ := hlater
      rcases List.mem_cons.1 hv with rfl | hv
      · exact absurd (Except.ok.inj (htarget.symm.trans hres)) htarget'
      · exact ⟨v, hv, hkept.resolve_eq_ok_iff.2 hres⟩

/-- A file that was written is a file after all further writes. -/
theorem exists_file_of_writeAll (h : t.writeAll writes = .ok t') (hfile : t.item? place = some (.file octets)) :
    ∃ octets', t'.item? place = some (.file octets') := by
  induction writes generalizing t octets with
  | nil =>
    obtain rfl := Except.ok.inj h
    exact ⟨octets, hfile⟩
  | cons w writes ih =>
    obtain ⟨u, hu, hrest⟩ := writeAll_cons_eq_ok_iff.1 h
    obtain ⟨target, -, hfree, rfl⟩ := write_eq_ok_iff.1 hu
    by_cases htarget : place = target
    · subst htarget
      exact ih hrest (item?_put_self (ne_nil_of_item?_ne hfree) t _)
    · have hkept : (t.put target (.file w.2.toUtf8)).item? place = some (.file octets) := by
        rw [item?_put_of_ne htarget, hfile]
      exact ih hrest hkept

/-- To write the same texts once more changes nothing. -/
theorem writeAll_writeAll (h : t.writeAll writes = .ok t') : t'.writeAll writes = .ok t' := by
  induction writes generalizing t with
  | nil => rfl
  | cons w writes ih =>
    obtain ⟨u, hu, hrest⟩ := writeAll_cons_eq_ok_iff.1 h
    have hsame := (sameDirectories_of_write hu).trans (sameDirectories_of_writeAll hrest)
    obtain ⟨place, hplace, hfree, rfl⟩ := write_eq_ok_iff.1 hu
    have hne : place ≠ [] := ne_nil_of_item?_ne hfree
    have hwritten : (t.put place (.file w.2.toUtf8)).item? place = some (.file w.2.toUtf8) := item?_put_self hne t _
    have hplace' : t'.resolve w.1 = .ok place := hsame.resolve_eq_ok_iff.2 hplace
    obtain ⟨octets, hfile⟩ := exists_file_of_writeAll hrest hwritten
    have hwrite : t'.writeText w.1 w.2 = .ok (t'.put place (.file w.2.toUtf8)) :=
      write_eq_ok_iff.2 ⟨place, hplace', by simp [hfile], rfl⟩
    refine writeAll_cons_eq_ok_iff.2 ⟨_, hwrite, ?_⟩
    have hagain := ih hrest
    -- A later write to the same file brings back what it holds; if there is none, it holds this text.
    by_cases hlater : ∃ v ∈ writes, t'.resolve v.1 = .ok place
    · exact writeAll_put hagain hfile hlater _
    · push Not at hlater
      have hkept : t'.item? place = some (.file w.2.toUtf8) := by
        rw [item?_writeAll_of_forall_ne hrest ?_, hwritten]
        intro v hv hres
        exact hlater v hv ((sameDirectories_of_writeAll hrest).resolve_eq_ok_iff.2 hres)
      rwa [put_eq_self hne hkept]

end TagDoc.FileTree

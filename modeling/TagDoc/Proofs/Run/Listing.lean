import TagDoc.Proofs.Files.Below
import TagDoc.Proofs.Run.Containment
import TagDoc.Proofs.Run.Discovery

/-!
# The listing of a directory

Of a directory one finds all that is below it, at any depth, and has the name of a source, each once, in the order of the
names on the way. This is so for files and for directories alike: so just the files are found only if no directory has such
a name, and a directory that is found stops a run. The listing is known from what stands where; it does not matter in what
order the tree names it.

## Main definitions

* `FileTree.Lists`: what a listing of a directory has to be

## Main results

* `FileTree.Lists.unique`: there is one listing only
* `FileTree.sources_eq_ok_iff`: what is found is the listing of files and directories
* `FileTree.sources_listing`: when just the files are found
* `Run.wellFormed_reached`: a run leaves a well-formed tree
* `Run.all_ne_ok_of_directory`: a directory that is found stops a run
-/

namespace TagDoc

variable {t t' : FileTree} {p q : Path} {place : Place} {names dirs : List Text} {name : Text} {item : Item}
  {paths paths' : List Path} {wanted : Item → Prop}

/-! ### Paths below a path -/

theorem Path.isSource_append (p : Path) (dirs : List Text) (name : Text) :
    (p.append ⟨0, dirs ++ [name]⟩).isSource = true ↔ IsSourceName name := by
  have hname : (p.append ⟨0, dirs ++ [name]⟩).name = name := by
    simp [append, isAbsolute, Path.name, ← List.append_assoc]
  rw [isSource_iff, hname]

theorem Path.append_inj {names' : List Text} (h : p.append ⟨0, names⟩ = p.append ⟨0, names'⟩) : names = names' :=
  List.append_cancel_left (Path.mk.inj h).2

theorem Path.append_lt {names' : List Text} (h : names < names') :
    (p.append ⟨0, names⟩).names < (p.append ⟨0, names'⟩).names :=
  List.append_left_lt h

namespace FileTree

/-- The paths to what is below a place, at the end of `p`, has the name of a source and is wanted. Each of them is listed
once. They are in increasing order, compared name by name, and names character by character. -/
structure Lists (t : FileTree) (wanted : Item → Prop) (p : Path) (place : Place) (paths : List Path) : Prop where
  mem_iff : ∀ q, q ∈ paths ↔ ∃ dirs name item, t.Below place (dirs ++ [name]) item ∧ IsSourceName name ∧ wanted item ∧
    q = p.append ⟨0, dirs ++ [name]⟩
  nodup : paths.Nodup
  increasing : paths.Pairwise fun a b => a.names < b.names

/-- There is one listing only. -/
theorem Lists.unique (h : t.Lists wanted p place paths) (h' : t.Lists wanted p place paths') : paths = paths' := by
  have hperm : paths.Perm paths' :=
    (List.perm_ext_iff_of_nodup h.nodup h'.nodup).2 fun q => (h.mem_iff q).trans (h'.mem_iff q).symm
  exact hperm.eq_of_pairwise (fun a b _ _ hab hba => absurd hba (List.lt_asymm hab)) h.increasing h'.increasing

/-! ### What is found -/

theorem exists_namesFrom?_iff (h : t.WellFormed) :
    (∃ e ∈ t.items, namesFrom? place e.1 = some names ∧ e.2 = item) ↔ t.Below place names item := by
  simp only [namesFrom?_eq_some_iff]
  rw [below_iff h]
  constructor
  · rintro ⟨e, he, ⟨hne, hplace⟩, rfl⟩
    have hplaceNe : e.1 ≠ [] := hplace ▸ List.append_ne_nil_of_right_ne_nil _ hne
    exact ⟨hne, hplace ▸ (mem_items_iff h.nodup hplaceNe).1 he⟩
  · rintro ⟨hne, hitem⟩
    exact ⟨(place ++ names, item),
      (mem_items_iff h.nodup (List.append_ne_nil_of_right_ne_nil _ hne)).2 hitem, ⟨hne, rfl⟩, rfl⟩

theorem mem_directoryNames_iff (h : t.WellFormed) :
    names ∈ t.items.filterMap (directoryNames? place) ↔ t.Below place names .directory := by
  rw [List.mem_filterMap, ← exists_namesFrom?_iff h]
  refine exists_congr fun e => and_congr_right fun _ => ?_
  rw [directoryNames?, Option.filter_eq_some_iff]
  refine and_congr_right fun _ => ?_
  cases e.2 <;> simp [Item.isDirectory]

theorem mem_sourceNames_iff (h : t.WellFormed) :
    names ∈ t.items.filterMap (fun e => sourceNames? p place e.1) ↔
      ∃ dirs name item, t.Below place (dirs ++ [name]) item ∧ IsSourceName name ∧ names = dirs ++ [name] := by
  rw [List.mem_filterMap]
  simp only [sourceNames?, Option.filter_eq_some_iff]
  constructor
  · rintro ⟨e, he, hfrom, hsource⟩
    have hbelow : t.Below place names e.2 := (exists_namesFrom?_iff h).1 ⟨e, he, hfrom, rfl⟩
    obtain ⟨dirs, name, rfl⟩ := (List.eq_nil_or_concat' names).resolve_left ((below_iff h).1 hbelow).1
    exact ⟨dirs, name, e.2, hbelow, (Path.isSource_append p dirs name).1 hsource, rfl⟩
  · rintro ⟨dirs, name, item, hbelow, hsource, rfl⟩
    obtain ⟨e, he, hfrom, -⟩ := (exists_namesFrom?_iff h).2 hbelow
    exact ⟨e, he, hfrom, (Path.isSource_append p dirs name).2 hsource⟩

theorem nodup_sourceNames (h : t.WellFormed) (p : Path) (place : Place) :
    (t.items.filterMap fun e => sourceNames? p place e.1).Nodup := by
  have hplaces : (t.items.filterMap fun e => sourceNames? p place e.1) =
      (t.items.map (·.1)).filterMap (sourceNames? p place) := by
    rw [List.filterMap_map]
    rfl
  rw [hplaces]
  refine h.nodup.filterMap fun q q' names hq hq' => ?_
  have hfrom := (namesFrom?_eq_some_iff.1 (Option.filter_eq_some_iff.1 hq).1).2
  have hfrom' := (namesFrom?_eq_some_iff.1 (Option.filter_eq_some_iff.1 hq').1).2
  rw [hfrom, hfrom']

/-- All directories below a place can be looked into just if the paths to them are short enough. -/
theorem tooLongBelow?_eq_none_iff (h : t.WellFormed) :
    t.tooLongBelow? p place = none ↔
      ∀ names, t.Below place names .directory → (p.append ⟨0, names⟩).toText.octetCount < pathBound := by
  rw [tooLongBelow?_eq, List.find?_eq_none]
  simp only [List.forall_mem_map, List.mem_mergeSort, mem_directoryNames_iff h, decide_eq_true_eq, Nat.not_le]

/-- The names of all that is found, in order, give the listing. -/
theorem lists_sourceNames (h : t.WellFormed) :
    t.Lists (fun _ => True) p place
      (((t.items.filterMap fun e => sourceNames? p place e.1).mergeSort (inOrder Text.le)).map
        fun names => p.append ⟨0, names⟩) where
  mem_iff q := by
    simp only [List.mem_map, List.mem_mergeSort, mem_sourceNames_iff h, true_and]
    constructor
    · rintro ⟨names, ⟨dirs, name, item, hbelow, hsource, rfl⟩, rfl⟩
      exact ⟨dirs, name, item, hbelow, hsource, rfl⟩
    · rintro ⟨dirs, name, item, hbelow, hsource, rfl⟩
      exact ⟨_, ⟨dirs, name, item, hbelow, hsource, rfl⟩, rfl⟩
  nodup := ((List.mergeSort_perm _ _).nodup_iff.2 (nodup_sourceNames h p place)).map fun _ _ => Path.append_inj
  increasing := by
    have hsorted := List.pairwise_mergeSort inOrder_texts_trans (inOrder_total Text.le_total)
      (t.items.filterMap fun e => sourceNames? p place e.1)
    have hdistinct := (List.mergeSort_perm _ (inOrder Text.le)).nodup_iff.2 (nodup_sourceNames h p place)
    refine List.pairwise_map.2 ((hsorted.and hdistinct).imp fun ⟨hle, hne⟩ => Path.append_lt ?_)
    exact lex_of_inOrder Text.lt_of_le_of_ne hle hne

/-- What is found is the listing of all that is below the directory, files or directories. -/
theorem sources_eq_ok_iff (h : t.WellFormed) (hplace : t.resolve p = .ok place)
    (hdirectory : t.item? place = some .directory) :
    t.sources p = .ok paths ↔
      (∀ names, t.Below place names .directory → (p.append ⟨0, names⟩).toText.octetCount < pathBound) ∧
        t.Lists (fun _ => True) p place paths := by
  rw [← tooLongBelow?_eq_none_iff h, sources_eq hplace hdirectory]
  cases t.tooLongBelow? p place with
  | some q => simp
  | none =>
    simp only [Option.elim_none, Except.ok.injEq, true_and]
    exact ⟨fun heq => heq ▸ lists_sourceNames h, (lists_sourceNames h).unique⟩

/-- Just the files are listed if no directory has the name of a source. -/
theorem Lists.files_iff (hlists : t.Lists (fun _ => True) p place paths) (h : t.WellFormed) :
    t.Lists (·.isDirectory = false) p place paths ↔
      ∀ dirs name, t.Below place (dirs ++ [name]) .directory → ¬ IsSourceName name := by
  constructor
  · intro hfiles dirs name hbelow hname
    obtain ⟨dirs', name', item, hbelow', -, hfile, hpath⟩ :=
      (hfiles.mem_iff _).1 ((hlists.mem_iff _).2 ⟨dirs, name, .directory, hbelow, hname, trivial, rfl⟩)
    rw [← Path.append_inj hpath] at hbelow'
    obtain rfl := Option.some.inj (((below_iff h).1 hbelow').2.symm.trans ((below_iff h).1 hbelow).2)
    cases hfile
  · intro hnames
    refine ⟨fun q => (hlists.mem_iff q).trans ?_, hlists.nodup, hlists.increasing⟩
    refine exists_congr fun dirs => exists_congr fun name => exists_congr fun item => ?_
    refine and_congr_right fun hbelow => and_congr_right fun hname => and_congr_left fun _ => ?_
    cases item with
    | directory => exact absurd hname (hnames dirs name hbelow)
    | file octets => exact iff_of_true trivial rfl

/-- Listings are the same where the same is below. -/
theorem Lists.congr (hbelow : ∀ names item, t'.Below place names item ↔ t.Below place names item) :
    t'.Lists wanted p place paths ↔ t.Lists wanted p place paths := by
  constructor
  · exact fun h => ⟨by simpa only [hbelow] using h.mem_iff, h.nodup, h.increasing⟩
  · exact fun h => ⟨by simpa only [hbelow] using h.mem_iff, h.nodup, h.increasing⟩

/-- What is found in a directory. If all directories below it can be looked into, and none has the name of a source, it is
just the files below it with such names, each once, in the order of their names. Otherwise it is not, as a directory with
such a name is found like a file. In what order the tree names what is there does not matter. -/
theorem sources_listing (h : t.WellFormed) (hplace : t.resolve p = .ok place) (hdirectory : t.item? place = some .directory) :
    ((∃ paths, t.sources p = .ok paths ∧ t.Lists (·.isDirectory = false) p place paths) ↔
      (∀ dirs name, t.Below place (dirs ++ [name]) .directory → ¬ IsSourceName name) ∧
        ∀ names, t.Below place names .directory → (p.append ⟨0, names⟩).toText.octetCount < pathBound) ∧
    ((∀ names, t.Below place names .directory → (p.append ⟨0, names⟩).toText.octetCount < pathBound) →
      ∃ paths, t.sources p = .ok paths ∧ t.Lists (fun _ => True) p place paths) ∧
    ∀ t' : FileTree, t'.working = t.working → t'.items.Perm t.items →
      ∀ paths, t'.sources p = .ok paths ↔ t.sources p = .ok paths := by
  refine ⟨⟨?_, ?_⟩, ?_, ?_⟩
  · rintro ⟨paths, hfound, hfiles⟩
    obtain ⟨hshort, hlists⟩ := (sources_eq_ok_iff h hplace hdirectory).1 hfound
    exact ⟨(hlists.files_iff h).1 hfiles, hshort⟩
  · rintro ⟨hnames, hshort⟩
    -- What is found lists all that has the name of a source; no directory has one, so these are files.
    have hlists : t.Lists (fun _ => True) p place _ := lists_sourceNames h
    exact ⟨_, (sources_eq_ok_iff h hplace hdirectory).2 ⟨hshort, hlists⟩, (hlists.files_iff h).2 hnames⟩
  · intro hshort
    have hlists : t.Lists (fun _ => True) p place _ := lists_sourceNames h
    exact ⟨_, (sources_eq_ok_iff h hplace hdirectory).2 ⟨hshort, hlists⟩, hlists⟩
  · intro t' hworking hperm paths
    -- The two trees have the same item at every place, and a listing is exact for one if it is for the other.
    have hitem := item?_of_perm h.nodup hperm
    have hsame : t.SameDirectories t' := ⟨hworking, fun q => by rw [hitem q]⟩
    have hbelow : ∀ names item, t'.Below place names item ↔ t.Below place names item := by
      intro names item
      rw [below_iff h, below_iff (h.of_perm hperm), hitem]
    rw [sources_eq_ok_iff h hplace hdirectory,
      sources_eq_ok_iff (h.of_perm hperm) (hsame.resolve_eq_ok_iff.2 hplace) ((hitem place).trans hdirectory),
      Lists.congr hbelow]
    simp only [hbelow]

/-- Names that begin or end with dots, and one that would come before the directory if it was not for the slash. -/
theorem sources_listing_of_dots :
    let items : List (Place × Item) := [(["a".toList], .directory), (["a".toList, "..mdx".toList], .file []),
      (["a".toList, ".mdx".toList], .file []), (["a".toList, "b.md".toList], .file []), (["a-b.md".toList], .file []),
      (["a.md.".toList], .file [])]
    let t : FileTree := ⟨items, []⟩
    let found : List Path := [⟨0, ["a".toList, "..mdx".toList]⟩, ⟨0, ["a".toList, "b.md".toList]⟩, ⟨0, ["a-b.md".toList]⟩]
    t.WellFormed ∧ t.resolve .here = .ok [] ∧ t.item? [] = some .directory ∧
      t.sources .here = .ok found ∧ t.Lists (·.isDirectory = false) .here [] found ∧
        FileTree.sources ⟨items.reverse, []⟩ .here = .ok found := by
  intro items t found
  have h : t.WellFormed := ⟨by decide, by decide⟩
  have hdirectories : ∀ names, t.Below [] names .directory → names = ["a".toList] := by
    intro names hbelow
    obtain ⟨hne, hitem⟩ := (below_iff h).1 hbelow
    simpa [t, items] using (mem_items_iff h.nodup hne).2 hitem
  have hfound : t.sources .here = .ok found := sources_of_pairwise (t := t) (p := .here) rfl rfl rfl (by decide)
  have hnames : ∀ dirs name, t.Below [] (dirs ++ [name]) .directory → ¬ IsSourceName name := by
    intro dirs name hbelow hname
    have hlast := congrArg List.getLast? (hdirectories _ hbelow)
    rw [List.getLast?_concat] at hlast
    rw [Option.some.inj hlast, ← Path.isSource_append .here []] at hname
    exact absurd hname (by decide)
  have hshort : ∀ names, t.Below [] names .directory → (Path.here.append ⟨0, names⟩).toText.octetCount < pathBound := by
    intro names hbelow
    rw [hdirectories names hbelow]
    decide
  obtain ⟨hexact, -, horder⟩ := sources_listing h (p := .here) rfl rfl
  obtain ⟨paths, hpaths, hlists⟩ := hexact.2 ⟨hnames, hshort⟩
  obtain rfl := Except.ok.inj (hfound.symm.trans hpaths)
  exact ⟨h, rfl, rfl, hfound, hlists, (horder ⟨items.reverse, []⟩ rfl (List.reverse_perm items) found).2 hfound⟩

/-- A directory that has the name of a source is found as well as the file in it. -/
theorem not_forall_lists_files :
    ¬ ∀ (t : FileTree) (p : Path) (place : Place), t.WellFormed → t.resolve p = .ok place →
      t.item? place = some .directory →
        ∃ paths, t.sources p = .ok paths ∧ t.Lists (·.isDirectory = false) p place paths := by
  intro hforall
  let t : FileTree := ⟨[(["guide.md".toList], .directory), (["guide.md".toList, "intro.md".toList], .file [65])], []⟩
  have h : t.WellFormed := ⟨by decide, by decide⟩
  obtain ⟨paths, hfound, hfiles⟩ := hforall t .here [] h rfl rfl
  obtain ⟨-, hlists⟩ := (sources_eq_ok_iff h rfl rfl).1 hfound
  refine (hlists.files_iff h).1 hfiles [] "guide.md".toList (.entry rfl) ?_
  exact (Path.isSource_append .here [] _).1 (by decide)

end FileTree

/-! ### Runs -/

variable {c : Compiler} {made : FileTree} {out : Path} {r : Run}

/-- A run leaves a well-formed tree, whether it comes to its end or is stopped. -/
theorem Run.wellFormed_reached (h : t.WellFormed) (hworking : t.item? t.working = some .directory) (c : Compiler)
    (p out : Path) : (reached (all c t p out)).files.WellFormed := by
  obtain ⟨works, m, hm, hfiles, -⟩ := exists_records_of_reached c t p out
  have hmore := FileTree.moreDirectories_ensureDirectory t out
  rw [hfiles]
  exact (h.ensureDirectory hworking out).writeAll
    (hmore.item?_working (FileTree.working_ensureDirectory t out) hworking) hm.files

/-- A directory that is found stops the run. -/
theorem Run.all_ne_ok_of_directory (hmade : t.ensureDirectory out = (made, none)) (hfound : made.sources p = .ok paths)
    (hq : q ∈ paths) (hdirectory : made.isDirectory q = true) : Run.all c t p out ≠ .ok r := by
  intro hall
  obtain ⟨made', works, hmade', hsources, hr⟩ := all_eq_ok_iff.1 hall
  obtain rfl : made = made' := (Prod.mk.inj (hmade.symm.trans hmade')).1
  rw [Except.ok.inj (hfound.symm.trans hsources)] at hq
  obtain ⟨w, hw, rfl⟩ := List.mem_map.1 hq
  -- A source that was compiled was read, and a directory cannot be.
  obtain ⟨text, b, htext, -, -⟩ := Compiler.document_eq_ok_iff.1 (hr.madeBy w hw).document
  obtain ⟨octets, -, hread, -, -⟩ := FileTree.readText_eq_ok_iff.1 htext
  obtain ⟨place, hplace, hfile⟩ := FileTree.read_eq_ok_iff.1 hread
  obtain ⟨place', hplace', hitem⟩ := FileTree.isDirectory_iff.1 hdirectory
  obtain rfl : place = place' := Except.ok.inj (hplace.symm.trans hplace')
  rw [hfile] at hitem
  cases hitem

end TagDoc

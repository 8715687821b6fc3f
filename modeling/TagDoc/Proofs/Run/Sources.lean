import TagDoc.Document.Run
import TagDoc.Proofs.Document.Source
import TagDoc.Proofs.Files.Tree
import TagDoc.Proofs.Text.Run

/-!
# Sources stay as they are

A file that a run writes has a name that ends in `.json`, whatever the slug, and no source has such a name. So what is
written for one source is never read as another, and each source gives the document that it would have given at the
start.

## Main definitions

* `FileTree.KeepsSources`: a tree in which paths lead to the same places and sources say the same

## Main results

* `Path.exists_name_of_isSource`, `Run.exists_name_of_outputFile`: the names of sources and of what is written
* `Run.slug_eq_of_outputFile`: slugs without slashes are written to files of their own
* `keepsSources_of_writeText`: what a run writes leaves the sources alone
* `KeepsSources.document_eq_ok_iff`, `KeepsSources.documentNotices_eq`: so documents stay the same
-/

namespace TagDoc

variable {t t' t'' : FileTree} {p s out : Path} {place place' : Place} {text slug name : Text} {names : List Text}
  {c : Compiler} {d : Document}

/-! ### Names -/

/-- The name of a source ends like one. -/
theorem Path.exists_name_of_isSource (h : p.isSource = true) :
    ∃ names name, p.names = names ++ [name] ∧ (".md".toList <:+ name ∨ ".mdx".toList <:+ name) := by
  obtain ⟨stem, hstem, ending, hending, hname⟩ := Path.isSource_iff.1 h
  have hne : p.names ≠ [] := by
    intro hnil
    rw [Path.name, hnil, List.getLastD_nil] at hname
    exact hstem (List.append_eq_nil_iff.1 hname.symm).1
  refine ⟨p.names.dropLast, p.name, ?_, ?_⟩
  · rw [Path.name, List.getLastD_eq_getLast?, List.getLast?_eq_some_getLast hne, Option.getD_some,
      List.dropLast_append_getLast hne]
  · have hsuffix : ending <:+ p.name := hname ▸ List.suffix_append stem ending
    rcases List.mem_cons.1 hending with rfl | hending
    · exact .inl hsuffix
    · exact .inr (List.mem_singleton.1 hending ▸ hsuffix)

/-- What a text ends with, if the separator is not in it, is at the end of the last piece. -/
theorem Text.exists_splitOn_append {sep : Char} {tail : Text} (htail : sep ∉ tail) (t : Text) :
    ∃ pieces last, Text.splitOn sep (t ++ tail) = pieces ++ [last ++ tail] := by
  induction t with
  | nil => exact ⟨[], [], Text.splitOn_of_not_mem htail⟩
  | cons c t ih =>
    obtain ⟨pieces, last, hsplit⟩ := ih
    rw [List.cons_append, Text.splitOn]
    split
    · exact ⟨[] :: pieces, last, by rw [hsplit]; rfl⟩
    · rw [hsplit]
      cases pieces with
      | nil => exact ⟨[], c :: last, rfl⟩
      | cons piece pieces => exact ⟨(c :: piece) :: pieces, last, rfl⟩

/-- A file that is written has a name with the ending of JSON, whatever the slug. -/
theorem Run.exists_name_of_outputFile (out : Path) (slug : Text) :
    ∃ names stem, '/' ∉ stem ∧ (Run.outputFile out slug).names = names ++ [stem ++ ".json".toList] := by
  have hslash : '/' ∉ ".json".toList := by decide
  obtain ⟨pieces, stem, hsplit⟩ := Text.exists_splitOn_append hslash slug
  have hstem : '/' ∉ stem := by
    have hpiece : '/' ∉ stem ++ ".json".toList := Text.not_mem_of_mem_splitOn (hsplit ▸ List.mem_concat_self)
    exact fun hmem => hpiece (List.mem_append_left _ hmem)
  have hname : Path.isName (stem ++ ".json".toList) = true := by
    cases stem <;> simp [Path.isName]
  have hnames : (Path.ofText (slug ++ ".json".toList)).names =
      pieces.filter Path.isName ++ [stem ++ ".json".toList] := by
    rw [Path.ofText, hsplit, List.filter_append, List.filter_cons_of_pos hname, List.filter_nil]
  rw [Run.outputFile, Path.append]
  split
  · exact ⟨_, stem, hstem, hnames⟩
  · exact ⟨out.names ++ pieces.filter Path.isName, stem, hstem, by rw [hnames, List.append_assoc]⟩

/-- A slug without a slash is the name of a file in the output directory. -/
theorem Run.outputFile_eq_child (hslug : '/' ∉ slug) (out : Path) :
    Run.outputFile out slug = out.child (slug ++ ".json".toList) := by
  have hslash : '/' ∉ slug ++ ".json".toList := fun hmem => (List.mem_append.1 hmem).elim hslug (by decide)
  have hname : Path.isName (slug ++ ".json".toList) = true := by
    cases slug <;> simp [Path.isName]
  have hlead : (slug ++ ".json".toList).takeWhile (· == '/') = [] := by
    refine Text.takeWhile_eq_nil_of_stops fun c hc => ?_
    have hne : c ≠ '/' := fun heq => hslash (heq ▸ List.mem_of_mem_head? hc)
    simpa using hne
  have htext : Path.ofText (slug ++ ".json".toList) = ⟨0, [slug ++ ".json".toList]⟩ := by
    rw [Path.ofText, Path.leadingSlashes, hlead, Text.splitOn_of_not_mem hslash, List.filter_cons_of_pos hname]
    rfl
  rw [Run.outputFile, htext]
  rfl

theorem getLast?_of_suffix {α : Type} {xs ys : List α} (h : xs <:+ ys) (hne : xs ≠ []) : ys.getLast? = xs.getLast? := by
  obtain ⟨zs, rfl⟩ := h
  exact List.getLast?_append_of_ne_nil zs hne

theorem getLast?_append_json (stem : Text) : (stem ++ ".json".toList).getLast? = some 'n' :=
  getLast?_of_suffix (List.suffix_append _ _) (by decide)

theorem append_json_ne_up (stem : Text) : stem ++ ".json".toList ≠ ['.', '.'] := by
  intro heq
  have hlast := getLast?_append_json stem
  rw [heq] at hlast
  simp at hlast

/-- Slugs without slashes are written to files of their own. -/
theorem Run.slug_eq_of_outputFile {slug' : Text} (hslug : '/' ∉ slug) (hslug' : '/' ∉ slug')
    (h : t.resolve (outputFile out slug) = .ok place) (h' : t.resolve (outputFile out slug') = .ok place) :
    slug = slug' := by
  rw [outputFile_eq_child hslug] at h
  rw [outputFile_eq_child hslug'] at h'
  obtain ⟨dir, hplace⟩ := FileTree.exists_of_resolve rfl (append_json_ne_up slug) h
  obtain ⟨dir', hplace'⟩ := FileTree.exists_of_resolve rfl (append_json_ne_up slug') h'
  have hname : slug ++ ".json".toList = slug' ++ ".json".toList := by
    simpa using congrArg List.getLast? (hplace.symm.trans hplace')
  exact List.append_cancel_right hname

/-- A name with the ending of JSON is not the name of a source. -/
theorem Path.isSource_eq_false_of_json {stem : Text} (hnames : p.names = names ++ [stem ++ ".json".toList]) :
    p.isSource = false := by
  rw [Bool.eq_false_iff]
  intro hsource
  obtain ⟨names', name, hnames', hend⟩ := Path.exists_name_of_isSource hsource
  have hname : name = stem ++ ".json".toList := by
    simpa using congrArg List.getLast? (hnames'.symm.trans hnames)
  rw [hname] at hend
  -- The last characters are different.
  have hlast := getLast?_append_json stem
  rcases hend with hmd | hmdx
  · rw [getLast?_of_suffix hmd (by decide)] at hlast
    cases hlast
  · rw [getLast?_of_suffix hmdx (by decide)] at hlast
    cases hlast

/-- A run writes to places of which the name ends like JSON. -/
theorem Run.exists_of_resolve_outputFile (h : t.resolve (Run.outputFile out slug) = .ok place) :
    ∃ dir stem, place = dir ++ [stem ++ ".json".toList] := by
  obtain ⟨names, stem, -, hnames⟩ := Run.exists_name_of_outputFile out slug
  obtain ⟨dir, hplace⟩ := FileTree.exists_of_resolve hnames (append_json_ne_up stem) h
  exact ⟨dir, stem, hplace⟩

/-- No source is where a run writes. -/
theorem ne_of_isSource (hs : s.isSource = true) (hplace : t.resolve s = .ok place)
    (hout : t.resolve (Run.outputFile out slug) = .ok place') : place ≠ place' := by
  rintro rfl
  obtain ⟨names, name, hnames, hend⟩ := Path.exists_name_of_isSource hs
  have hup : name ≠ ['.', '.'] := by
    rintro rfl
    revert hend
    decide
  obtain ⟨dir, rfl⟩ := FileTree.exists_of_resolve hnames hup hplace
  obtain ⟨dir', stem, heq⟩ := Run.exists_of_resolve_outputFile hout
  have hname : name = stem ++ ".json".toList := by
    simpa using congrArg List.getLast? heq
  rw [hname] at hnames
  rw [Path.isSource_eq_false_of_json hnames] at hs
  cases hs

/-! ### What is kept -/

/-- Paths lead to the same places in two trees, and sources have the same texts, if they have any. -/
structure FileTree.KeepsSources (t t' : FileTree) : Prop extends FileTree.SameDirectories t t' where
  text_iff : ∀ s text, s.isSource = true → (t'.readText s = .ok text ↔ t.readText s = .ok text)

namespace FileTree.KeepsSources

theorem refl (t : FileTree) : t.KeepsSources t := ⟨.refl t, fun _ _ _ => .rfl⟩

theorem trans (h : t.KeepsSources t') (h' : t'.KeepsSources t'') : t.KeepsSources t'' :=
  ⟨h.toSameDirectories.trans h'.toSameDirectories,
    fun s text hs => (h'.text_iff s text hs).trans (h.text_iff s text hs)⟩

theorem document_eq_ok_iff (h : t.KeepsSources t') (hs : s.isSource = true) :
    c.document t' s = .ok d ↔ c.document t s = .ok d := by
  simp only [Compiler.document_eq_ok_iff, h.text_iff s _ hs]

theorem documentNotices_eq (h : t.KeepsSources t') (hs : s.isSource = true) (c : Compiler) :
    c.documentNotices t' s = c.documentNotices t s := by
  cases htext : t.readText s with
  | ok text => simp only [Compiler.documentNotices, htext, (h.text_iff s text hs).2 htext]
  | error fault =>
    cases htext' : t'.readText s with
    | ok text =>
      rw [(h.text_iff s text hs).1 htext'] at htext
      cases htext
    | error fault' => simp only [Compiler.documentNotices, htext, htext']

end FileTree.KeepsSources

/-- What a run writes leaves the sources alone. -/
theorem keepsSources_of_writeText (h : t.writeText (Run.outputFile out slug) text = .ok t') : t.KeepsSources t' := by
  have hsame := FileTree.sameDirectories_of_write h
  obtain ⟨written, hwritten, -, rfl⟩ := FileTree.write_eq_ok_iff.1 h
  refine ⟨hsame, fun s u hs => ?_⟩
  have hread (octets : List UInt8) :
      (t.put written (.file text.toUtf8)).read s = .ok octets ↔ t.read s = .ok octets := by
    simp only [FileTree.read_eq_ok_iff, hsame.resolve_eq_ok_iff]
    refine exists_congr fun place => and_congr_right fun hplace => ?_
    rw [FileTree.item?_put_of_ne (ne_of_isSource hs hplace hwritten)]
  simp only [FileTree.readText_eq_ok_iff, hread]

/-- The sources in a directory are all that is below it and has the name of a source, if all directories below it can be
looked into. -/
theorem FileTree.sources_of_directory (hplace : t.resolve p = .ok place) (hdirectory : t.item? place = some .directory) :
    t.sources p = (t.tooLongBelow? p place).elim
      (.ok (((t.below place).map fun e => p.append ⟨0, e.1⟩).filter Path.isSource))
      fun q => .error ⟨.nameTooLong, q⟩ := by
  have hfind : t.find? p = .ok (some .directory) := by
    simp only [find?, hplace, hdirectory]
  rw [sources, hfind]
  change (t.resolve p >>= _) = _
  rw [hplace]
  dsimp only [bind, Except.bind]
  cases t.tooLongBelow? p place <;> rfl

/-- A tree that holds what is below a directory in order has the sources there in that order. -/
theorem FileTree.sources_of_pairwise {entries : List (List Text × Item)} (hplace : t.resolve p = .ok place)
    (hdirectory : t.item? place = some .directory)
    (hentries : (t.items.filterMap fun e =>
      if place.isPrefixOf e.1 && e.1.length != place.length then some (e.1.drop place.length, e.2) else none) = entries)
    (hsorted : entries.Pairwise fun a b => inOrder Text.le a.1 b.1)
    (hshort : (((entries.filter fun e => e.2.isDirectory).map fun e => p.append ⟨0, e.1⟩).find? fun q =>
      pathBound ≤ q.toText.octetCount) = none := by rfl) :
    t.sources p = .ok ((entries.map fun e => p.append ⟨0, e.1⟩).filter Path.isSource) := by
  have hbelow : t.below place = entries := by
    have hsort : t.below place = entries.mergeSort fun a b => inOrder Text.le a.1 b.1 := by
      rw [← hentries]
      rfl
    rw [hsort, List.mergeSort_of_pairwise hsorted]
  rw [sources_of_directory hplace hdirectory, tooLongBelow?, hbelow, hshort, Option.elim_none]

/-- All that is found as a source has the name of one. -/
theorem isSource_of_mem_sources {sources : List Path} (h : t.sources p = .ok sources) (hs : s ∈ sources) :
    s.isSource = true := by
  obtain ⟨item, -, hfound⟩ := bind_eq_ok_iff.1 h
  split at hfound
  · cases hfound
    cases hs
  · split at hfound
    · cases hfound
      obtain rfl := List.mem_singleton.1 hs
      assumption
    · cases hfound
      cases hs
  · obtain ⟨place, -, hbelow⟩ := bind_eq_ok_iff.1 hfound
    split at hbelow
    · cases hbelow
    · cases hbelow
      exact (List.mem_filter.1 hs).2

end TagDoc

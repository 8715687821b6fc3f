import TagDoc.Proofs.Files.Directory
import TagDoc.Proofs.Run.Stopping
import TagDoc.Proofs.Text.Slug

/-!
# Where a run writes

Whether a run comes to its end or is stopped, it makes the output directory with those on the way to it, and then writes
files, each of which holds a document. A document whose slug has no slash stands in the output directory under the name
of its slug. A slug made of the name of a file is such a slug; one that the metadata ask for is taken as it stands, and if
it has slashes in it, they lead to some other place.

## Main definitions

* `Run.reached`: how far a run has come, stopped or not
* `Run.WrittenFor`: how a file came to be at a place

## Main results

* `Run.exists_records_of_reached`: the products that a run has written, stopped or not
* `Run.resolve_outputFile_iff`: a file stands in the output directory just if the slug has no slash
* `Run.changed_of_all`: all that a run changes
* `Run.not_forall_contained`: so a document can have a file written elsewhere
-/

namespace TagDoc

variable {c : Compiler} {t made : FileTree} {p out : Path} {place dir : Place} {slug : Text} {w : Product}
  {works : List Product} {sources : List Path} {r : Run} {s : Stopped}

namespace Run

/-! ### How far a run comes -/

/-- How far a run has come when it ends, whether it came to its end or was stopped. -/
def reached : Except Stopped Run → Run
  | .ok r => r
  | .error s => s.run

/-- What a run has written when it ends, stopped or not: products of sources that it found, and none if the output
directory cannot be made. -/
theorem exists_records_of_reached (c : Compiler) (t : FileTree) (p out : Path) :
    ∃ works m, Records c out (t.ensureDirectory out).1 works m ∧ (reached (all c t p out)).files = m.files ∧
      ∀ w ∈ works, (t.ensureDirectory out).2 = none ∧
        ∃ sources, (t.ensureDirectory out).1.sources p = .ok sources ∧ w.source ∈ sources := by
  rw [all]
  split
  · rename_i made fault hmade
    rw [hmade]
    exact ⟨[], start made, records_start c out made, rfl, nofun⟩
  · rename_i made hmade
    rw [hmade]
    split
    · exact ⟨[], start made, records_start c out made, rfl, nofun⟩
    · rename_i sources hsources
      have hnames : ∀ q ∈ sources, q.isSource = true := fun q hq => isSource_of_mem_sources hsources hq
      have hstart := records_start c out made
      cases hrun : addAll c out (start made) sources with
      | ok r =>
        obtain ⟨works, rfl, hr⟩ := (hstart.addAll_eq_ok_iff hnames).1 hrun
        exact ⟨works, r, hr, rfl, fun w hw => ⟨rfl, _, hsources, List.mem_map_of_mem hw⟩⟩
      | error s =>
        obtain ⟨works, m, q, hfirst, hm, hadd⟩ := hstart.exists_of_addAll_error hnames hrun
        exact ⟨works, m, hm, (failsAt_of_add_error hadd).2, fun w hw =>
          ⟨rfl, _, hsources, hfirst.subset (List.mem_append_left _ (List.mem_map_of_mem hw))⟩⟩

/-! ### Files in the output directory -/

/-- A file stands in the output directory, under the name of its slug, just if the slug has no slash. -/
theorem resolve_outputFile_iff (hdir : t.resolve out = .ok dir) (hplace : t.resolve (outputFile out slug) = .ok place) :
    place = dir ++ [slug ++ ".json".toList] ↔ '/' ∉ slug := by
  constructor
  · rintro rfl
    obtain ⟨names, stem, hstem, hnames⟩ := exists_name_of_outputFile out slug
    obtain ⟨dir', heq⟩ := FileTree.exists_of_resolve hnames (append_json_ne_up stem) hplace
    have hname : slug ++ ".json".toList = stem ++ ".json".toList := by
      simpa using congrArg List.getLast? heq
    rwa [List.append_cancel_right hname]
  · intro hslug
    rw [outputFile_eq_child hslug] at hplace
    obtain ⟨-, -, hwalk⟩ := FileTree.resolve_eq_ok_iff.1 hplace
    obtain ⟨-, -, hwalk'⟩ := FileTree.resolve_eq_ok_iff.1 hdir
    obtain ⟨dir', hout, rfl⟩ := FileTree.exists_of_walk_append (append_json_ne_up slug) hwalk
    obtain rfl : dir' = dir := Except.ok.inj (hout.symm.trans hwalk')
    rfl

/-- A slug with a slash is one that the metadata ask for. -/
theorem asked_of_slash (h : w.MadeBy c t) (hslash : '/' ∈ w.slug) :
    ∃ v, Entries.getText? w.document.block.metadata "slug".toList = some v ∧ v.isTruthy = true ∧ w.slug = v.plain := by
  obtain ⟨text, b, -, -, hmade⟩ := Compiler.document_eq_ok_iff.1 h.document
  obtain ⟨slug, hdocument⟩ := Document.exists_slug_of_make hmade
  rcases Document.slug_of_make hmade with hasked | hname
  · rw [Product.slug, hdocument]
    rwa [hdocument] at hasked
  · have hslug : Text.IsSlug w.slug := by
      rw [Product.slug, hname]
      exact Text.isSlug_slug (by decide) _
    rcases hslug.of_mem hslash with hlower | hdigit | heq
    · exact absurd hlower (by decide)
    · exact absurd hdigit (by decide)
    · exact absurd heq (by decide)

/-! ### All that a run changes -/

/-- A file at a place was written for a product, and holds its JSON. It stands in the output directory, under the name of
the slug, just if the slug has no slash; a slug with a slash is one that the metadata ask for. -/
structure WrittenFor (c : Compiler) (out : Path) (t : FileTree) (place : Place) (w : Product) : Prop where
  madeBy : w.MadeBy c t
  item : t.item? place = some (.file w.json.toUtf8)
  target : t.resolve (w.target out) = .ok place
  inDirectory_iff : (∃ dir, t.resolve out = .ok dir ∧ place = dir ++ [w.slug ++ ".json".toList]) ↔ '/' ∉ w.slug
  asked : '/' ∈ w.slug →
    ∃ v, Entries.getText? w.document.block.metadata "slug".toList = some v ∧ v.isTruthy = true ∧ w.slug = v.plain

theorem exists_last {α : Type} {P : α → Prop} {xs : List α} (h : ∃ x ∈ xs, P x) :
    ∃ earlier x later, xs = earlier ++ x :: later ∧ P x ∧ ∀ y ∈ later, ¬ P y := by
  induction xs with
  | nil => simp at h
  | cons x xs ih =>
    by_cases hlater : ∃ y ∈ xs, P y
    · obtain ⟨earlier, y, later, rfl, hy, hnone⟩ := ih hlater
      exact ⟨x :: earlier, y, later, rfl, hy, hnone⟩
    · push Not at hlater
      obtain ⟨y, hy, hPy⟩ := h
      rcases List.mem_cons.1 hy with rfl | hy
      · exact ⟨[], y, xs, rfl, hPy, hlater⟩
      · exact absurd hPy (hlater y hy)

/-- The last product that was written to a place is the one that the file there is of. -/
theorem Records.exists_writtenFor (h : Records c out made works r) (hsources : ∀ w ∈ works, w.source.isSource = true)
    (hout : made.isDirectory out = true) (hwritten : ∃ w ∈ works, made.resolve (w.target out) = .ok place) :
    ∃ w ∈ works, WrittenFor c out r.files place w := by
  obtain ⟨earlier, w, later, rfl, hplace, hlast⟩ := exists_last hwritten
  have hw : w ∈ earlier ++ w :: later := List.mem_append_right _ List.mem_cons_self
  have hmadeBy : w.MadeBy c r.files :=
    ⟨(h.keepsSources.document_eq_ok_iff (hsources w hw)).2 (h.madeBy w hw).document, (h.madeBy w hw).json⟩
  have hfiles := h.files
  rw [List.map_append, List.map_cons] at hfiles
  have hitem := FileTree.item?_writeAll_of_last hfiles hplace (List.forall_mem_map.2 hlast)
  obtain ⟨dir, hdir, -⟩ := FileTree.isDirectory_iff.1 hout
  have htarget : r.files.resolve (w.target out) = .ok place := h.keepsSources.resolve_eq_ok_iff.2 hplace
  have hdir' : r.files.resolve out = .ok dir := h.keepsSources.resolve_eq_ok_iff.2 hdir
  refine ⟨w, hw, hmadeBy, hitem, htarget, ?_, asked_of_slash hmadeBy⟩
  rw [← resolve_outputFile_iff hdir' htarget]
  constructor
  · rintro ⟨dir', hres, heq⟩
    obtain rfl : dir = dir' := Except.ok.inj (hdir'.symm.trans hres)
    exact heq
  · exact fun heq => ⟨dir, hdir', heq⟩

/-- All that a run changes, whether it comes to its end or is stopped. Where nothing was, there is a directory, which was
made before any source was looked at; or there is a file that was written for one of the sources. -/
theorem changed_of_all (hchanged : (reached (all c t p out)).files.item? place ≠ t.item? place) :
    (t.item? place = none ∧ (t.ensureDirectory out).1.item? place = some .directory ∧
        (reached (all c t p out)).files.item? place = some .directory) ∨
      ∃ w sources, (t.ensureDirectory out).1.sources p = .ok sources ∧ w.source ∈ sources ∧
        WrittenFor c out (reached (all c t p out)).files place w := by
  obtain ⟨works, m, hm, hfiles, hfound⟩ := exists_records_of_reached c t p out
  rw [hfiles] at hchanged ⊢
  -- Either a document was written to the place, or it is as it was once the output directory had been made.
  by_cases hwritten : ∃ w ∈ works, (t.ensureDirectory out).1.resolve (w.target out) = .ok place
  · right
    have ⟨v, hv, _⟩ := hwritten
    have hout : (t.ensureDirectory out).1.isDirectory out = true :=
      FileTree.isDirectory_of_ensureDirectory (Prod.ext rfl (hfound v hv).1)
    have hsources : ∀ w ∈ works, w.source.isSource = true := by
      intro w hw
      obtain ⟨-, sources, hsources, hmem⟩ := hfound w hw
      exact isSource_of_mem_sources hsources hmem
    obtain ⟨w, hw, hplace⟩ := hm.exists_writtenFor hsources hout hwritten
    obtain ⟨-, sources, hsources, hmem⟩ := hfound w hw
    exact ⟨w, sources, hsources, hmem, hplace⟩
  · left
    push Not at hwritten
    have hsame : m.files.item? place = (t.ensureDirectory out).1.item? place :=
      FileTree.item?_writeAll_of_forall_ne hm.files (List.forall_mem_map.2 hwritten)
    rw [hsame] at hchanged ⊢
    rcases FileTree.moreDirectories_ensureDirectory t out place with hkept | ⟨hnone, hmade⟩
    · exact absurd hkept hchanged
    · exact ⟨hnone, hmade, hmade⟩

/-- A run that is stopped by its second source has written a file for the first beside the output directory, as the slug
that the metadata ask for has a slash. -/
theorem changed_of_all_when_stopped :
    let t := FileTree.ofTexts [("a.md", "---\nslug: ../x\n---\nA"), ("b.md", "---\nx: [\n---")]
    let out : Path := ⟨0, ["out".toList]⟩
    let place : Place := ["x.json".toList]
    ∃ c s w, Compiler.ofDialect? .usual [] "commonmark".toList [] = .ok c ∧ all c t .here out = .error s ∧
      s.run.files.item? place ≠ t.item? place ∧ WrittenFor c out s.run.files place w ∧ '/' ∈ w.slug := by
  intro t out place
  let made := t.put ["out".toList] .directory
  let sources : List Path := [⟨0, ["a.md".toList]⟩, ⟨0, ["b.md".toList]⟩]
  have hmade : t.ensureDirectory out = (made, none) := by
    rw [FileTree.ensureDirectory]
    rfl
  have hsources : made.sources .here = .ok sources :=
    FileTree.sources_of_pairwise (t := made) (p := .here) rfl rfl rfl (by decide)
  have hrun : (Compiler.ofDialect? .usual [] "commonmark".toList []).toOption.any (fun c =>
      let run := addAll c out (start made) sources
      run.toOption.isNone && (reached run).files.item? place ≠ t.item? place) = true := by
    decide +kernel
  obtain ⟨c, hc, hrun⟩ := (Option.any_eq_true _ _).1 hrun
  have hall : all c t .here out = addAll c out (start made) sources := all_eq_addAll hmade hsources
  rw [← hall] at hrun
  cases hstopped : all c t .here out with
  | ok r =>
    rw [hstopped] at hrun
    cases hrun
  | error s =>
    rw [hstopped] at hrun
    have hchanged : (reached (all c t .here out)).files.item? place ≠ t.item? place := by
      rw [hstopped]
      exact of_decide_eq_true hrun
    rcases changed_of_all hchanged with ⟨-, hdirectory, -⟩ | ⟨w, -, -, -, hw⟩
    · rw [hmade] at hdirectory
      cases hdirectory
    · rw [hstopped] at hchanged hw
      refine ⟨c, s, w, eq_ok_of_toOption hc, hstopped, hchanged, hw, ?_⟩
      by_contra hslash
      obtain ⟨dir, hdir, hplace⟩ := hw.inDirectory_iff.2 hslash
      have hout : out.names = [] ++ ["out".toList] := rfl
      obtain ⟨root, rfl⟩ := FileTree.exists_of_resolve hout (by decide) hdir
      -- a place in the output directory has two names at least
      have hlength := congrArg List.length hplace
      simp [place] at hlength

/-- A document can have a file of another directory written anew. -/
theorem not_forall_contained :
    ¬ ∀ (c : Compiler) (t : FileTree) (p out : Path) (place : Place) (octets : List UInt8),
      (reached (all c t p out)).files.item? place = some (.file octets) → t.item? place ≠ some (.file octets) →
        ∃ dir slug, (reached (all c t p out)).files.resolve out = .ok dir ∧ place = dir ++ [slug ++ ".json".toList] := by
  intro h
  let p : Path := ⟨0, ["a.md".toList]⟩
  let out : Path := ⟨0, ["out".toList]⟩
  let place : Place := ["site".toList, "index.json".toList]
  let t : FileTree := ⟨[(["a.md".toList], .file (Text.toUtf8 "---\nslug: ../site/index\n---\nA".toList)),
    (["site".toList], .directory), (place, .file (Text.toUtf8 "kept".toList))], []⟩
  let made := t.put ["out".toList] .directory
  have hmade : t.ensureDirectory out = (made, none) := by
    rw [FileTree.ensureDirectory]
    rfl
  have hsources : made.sources p = .ok [p] := rfl
  have hrun : (Compiler.ofDialect? .usual [] "commonmark".toList []).toOption.any (fun c =>
      let files := (reached (addAll c out (start made) [p])).files
      (files.item? place).any (fun item => !item.isDirectory ∧ some item ≠ t.item? place) ∧
        (files.resolve out).toOption = some ["out".toList]) = true := by
    decide +kernel
  obtain ⟨c, -, hrun⟩ := (Option.any_eq_true _ _).1 hrun
  have hall : all c t p out = addAll c out (start made) [p] := all_eq_addAll hmade hsources
  rw [← hall] at hrun
  obtain ⟨hitem, hout⟩ := of_decide_eq_true hrun
  obtain ⟨item, hthere, hchanged⟩ := (Option.any_eq_true _ _).1 hitem
  obtain ⟨hfile, hchanged⟩ := of_decide_eq_true hchanged
  cases item with
  | directory => cases hfile
  | file octets =>
    obtain ⟨dir, slug, hdir, hplace⟩ := h c t p out place octets hthere (Ne.symm hchanged)
    obtain rfl : dir = ["out".toList] := Except.ok.inj (hdir.symm.trans (eq_ok_of_toOption hout))
    exact absurd (List.cons.inj hplace).1 (by decide)

end Run

end TagDoc

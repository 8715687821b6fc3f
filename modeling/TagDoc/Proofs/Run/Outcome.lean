import TagDoc.Proofs.Run.Record

/-!
# Outcomes of runs

A run over sources that all have documents leaves one file for each slug, which holds the last document with the slug,
and tells each time that a document takes the place of an earlier one. A source without a document stops the run, which
then leaves the files that the run over the sources before it would have left.

## Main definitions

* `Run.Leaves`: the outputs, files and collisions of a run over products

## Main results

* `Run.Records.leaves`: what a run leaves
* `Run.all_of_products`: a run comes to its end, or is stopped by the first source without a document
-/

namespace TagDoc.Run

variable {c : Compiler} {t made : FileTree} {p out : Path} {r : Run} {works : List Product} {w : Product}
  {rest : List Path}

/-- What a run over products leaves of a tree: an output for each product in order, in the file of a slug the JSON of
the last product with the slug, and all other files as they were. Each product that has the slug of an earlier one is
told, with the last of these. -/
structure Leaves (out : Path) (t : FileTree) (works : List Product) (r : Run) : Prop where
  outputs : r.outputs = works.map fun w => (w.source, out.child (w.slug ++ ".json".toList))
  stored : ∀ slug w, Product.latest? slug works = some w →
    r.files.read (out.child (slug ++ ".json".toList)) = .ok w.json.toUtf8
  kept : ∀ place octets, (∀ w ∈ works, r.files.resolve (out.child (w.slug ++ ".json".toList)) ≠ .ok place) →
    (r.files.item? place = some (.file octets) ↔ t.item? place = some (.file octets))
  collisions : r.notices.filter Notice.isCollision = Product.tellEach Product.collision [] works

theorem Records.collisions_told (h : Records c out t works r) :
    r.notices.filter Notice.isCollision = Product.tellEach Product.collision [] works := by
  rw [h.notices, Product.filter_tellEach]
  simp only [Product.filter_isCollision_notices]

/-- The file of a slug holds the JSON of the last product with the slug. -/
theorem Records.read_target (h : Records c out t works r) (hslugs : ∀ w ∈ works, '/' ∉ w.slug)
    (hlatest : Product.latest? w.slug works = some w) : r.files.read (w.target out) = .ok w.json.toUtf8 := by
  obtain ⟨-, earlier, later, rfl, hlater⟩ := Product.latest?_eq_some_iff.1 hlatest
  obtain ⟨hw, hslugs⟩ := List.forall_mem_cons.1 (List.forall_mem_append.1 hslugs).2
  have hfiles := h.files
  rw [List.map_append, List.map_cons] at hfiles
  obtain ⟨place, hplace⟩ := FileTree.exists_resolve_of_writeAll hfiles (List.mem_append_right _ List.mem_cons_self)
  -- No product behind has the slug, so none is written to this place again.
  have hlast : ∀ v ∈ later, t.resolve (v.target out) ≠ .ok place :=
    fun v hv hres => hlater v hv (slug_eq_of_outputFile (hslugs v hv) hw hres hplace)
  have hitem := FileTree.item?_writeAll_of_last hfiles hplace (List.forall_mem_map.2 hlast)
  exact FileTree.read_eq_ok_iff.2 ⟨place, h.keepsSources.resolve_eq_ok_iff.2 hplace, hitem⟩

/-- What a run leaves if no slug has a slash. -/
theorem Records.leaves (h : Records c out made works r) (hmade : t.ensureDirectory out = (made, none))
    (hslugs : ∀ w ∈ works, '/' ∉ w.slug) : r.Leaves out t works := by
  have htarget : ∀ w ∈ works, w.target out = out.child (w.slug ++ ".json".toList) :=
    fun w hw => outputFile_eq_child (hslugs w hw) out
  constructor
  case outputs =>
    rw [h.outputs]
    exact List.map_congr_left fun w hw => by rw [htarget w hw]
  case stored =>
    intro slug w hlatest
    obtain ⟨rfl, earlier, later, hworks, -⟩ := Product.latest?_eq_some_iff.1 hlatest
    rw [← htarget w (by simp [hworks])]
    exact h.read_target hslugs hlatest
  case kept =>
    intro place octets hother
    have hmore := FileTree.moreDirectories_ensureDirectory t out
    rw [hmade] at hmore
    have hwrites : ∀ w ∈ works, made.resolve (w.target out) ≠ .ok place := fun w hw hres =>
      hother w hw (htarget w hw ▸ h.keepsSources.resolve_eq_ok_iff.2 hres)
    rw [← hmore.file_iff, FileTree.item?_writeAll_of_forall_ne h.files (List.forall_mem_map.2 hwrites)]
  case collisions => exact h.collisions_told

/-- The sources of a run are those that there are once the output directory is made. If the first of them have documents
that can be written and there are no others, the run comes to its end. If the next one has no document, it stops the run,
and the files are those that the run over the first sources leaves. -/
theorem all_of_products (hmade : t.ensureDirectory out = (made, none))
    (hsources : made.sources p = .ok (works.map Product.source ++ rest))
    (hworks : ∀ w ∈ works, w.MadeBy c made) (hslugs : ∀ w ∈ works, '/' ∉ w.slug)
    (hwrite : ∀ w ∈ works, ∃ u, made.writeText (w.target out) w.json = .ok u) :
    ∃ r, addAll c out (start made) (works.map Product.source) = .ok r ∧ r.Leaves out t works ∧
      (rest = [] → all c t p out = .ok r) ∧
      ∀ source later fault, rest = source :: later → c.document made source = .error fault →
        ∃ s cause, all c t p out = .error s ∧ s.run.files = r.files ∧ s.fault = .document source cause ∧
          s.fault.message = "Failed to compile ".toList ++ source.toText ++ ": ".toList ++ cause.message ∧
          c.document r.files source = .error cause := by
  obtain ⟨r, hr⟩ := exists_records hworks hwrite
  have hnames : ∀ q ∈ works.map Product.source ++ rest, q.isSource = true :=
    fun q hq => isSource_of_mem_sources hsources hq
  have hfirst : addAll c out (start made) (works.map Product.source) = .ok r :=
    ((records_start c out made).addAll_eq_ok_iff (List.forall_mem_append.1 hnames).1).2 ⟨works, rfl, hr⟩
  have hall : all c t p out = addAll c out r rest := by
    simp only [all, hmade, hsources]
    rw [addAll, List.foldlM_append]
    exact congrArg (· >>= fun r => addAll c out r rest) hfirst
  refine ⟨r, hfirst, hr.leaves hmade hslugs, ?_, ?_⟩
  · rintro rfl
    exact hall
  · rintro source later fault rfl hfault
    -- What was written so far may change why there is no document, but not that there is none.
    obtain ⟨cause, hcause⟩ : ∃ cause, c.document r.files source = .error cause := by
      cases hdocument : c.document r.files source with
      | error cause => exact ⟨cause, rfl⟩
      | ok d =>
        rw [hr.keepsSources.document_eq_ok_iff (hnames source (by simp)), hfault] at hdocument
        cases hdocument
    refine ⟨⟨r.tell (c.documentNotices r.files source), .document source cause⟩, cause, ?_, rfl, rfl, rfl, hcause⟩
    rw [hall, addAll, List.foldlM_cons, add_eq_error hcause]
    rfl

/-- Of three files that want the same slug the last is kept, and a later file without a document changes nothing. -/
theorem all_of_products_before_fault :
    let t := FileTree.ofTexts
      [("A.md", "1"), ("B.md", "2"), ("a.md", "3"), ("a.mdx", "4"), ("d.md", "---\nx: [\n---"), ("e.md", "5")]
    let out : Path := ⟨0, ["out".toList]⟩
    ∃ c, ∃ works : List Product, ∃ r : Run, ∃ s cause, Compiler.ofDialect? .usual [] "commonmark".toList [] = .ok c ∧
      works.map Product.slug = ["a", "b", "a", "a"].map (·.toList) ∧ r.Leaves out t works ∧
      all c t .here out = .error s ∧ s.run.files = r.files ∧ s.fault = .document ⟨0, ["d.md".toList]⟩ cause := by
  intro t out
  let made := t.put ["out".toList] .directory
  let first : List Path := ["A.md", "B.md", "a.md", "a.mdx"].map fun name => ⟨0, [name.toList]⟩
  have hmade : t.ensureDirectory out = (made, none) := by
    rw [FileTree.ensureDirectory]
    rfl
  have hsources : made.sources .here = .ok (first ++ [⟨0, ["d.md".toList]⟩, ⟨0, ["e.md".toList]⟩]) :=
    FileTree.sources_of_pairwise (t := made) (p := .here) rfl rfl rfl (by decide)
  -- What has to be computed: slugs, whether the documents can be written, and that `d.md` has none.
  have hrun : (Compiler.ofDialect? .usual [] "commonmark".toList []).toOption.any (fun c =>
      (c.document made ⟨0, ["d.md".toList]⟩).toOption.isNone &&
        (first.mapM (Product.make c made)).toOption.any fun (works : List Product) =>
          works.map Product.slug = ["a", "b", "a", "a"].map (·.toList) ∧
            ∀ w ∈ works, '/' ∉ w.slug ∧ (made.writeText (w.target out) w.json).toOption.isSome) = true := by
    decide +kernel
  obtain ⟨c, hc, hrun⟩ := (Option.any_eq_true _ _).1 hrun
  obtain ⟨hfault, hproducts⟩ := Bool.and_eq_true_iff.1 hrun
  obtain ⟨works, hworks, hslugs⟩ := (Option.any_eq_true _ _).1 hproducts
  obtain ⟨hslugs, hwrite⟩ := of_decide_eq_true hslugs
  obtain ⟨hfirst, hmadeBy⟩ := Product.mapM_make_eq_ok_iff.1 (eq_ok_of_toOption hworks)
  rw [← hfirst] at hsources
  obtain ⟨r, -, hleaves, -, hstop⟩ := all_of_products hmade hsources hmadeBy (fun w hw => (hwrite w hw).1)
    fun w hw => exists_eq_ok_of_isSome (hwrite w hw).2
  cases hdocument : c.document made ⟨0, ["d.md".toList]⟩ with
  | ok d =>
    rw [hdocument] at hfault
    cases hfault
  | error fault =>
    obtain ⟨s, cause, hs, hfiles, hcause, -⟩ := hstop _ _ fault rfl hdocument
    exact ⟨c, works, r, s, cause, eq_ok_of_toOption hc, hslugs, hleaves, hs, hfiles, hcause⟩

end TagDoc.Run

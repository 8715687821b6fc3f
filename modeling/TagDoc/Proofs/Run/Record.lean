import TagDoc.Proofs.Run.Product

/-!
# Records of runs

What a run has done is known from the products that it has written, in order. Each of them is made of the files as they
were at the start, and the files, the outputs and all that was told follow from them. A step adds one product to the
record, so a run that is not stopped has one product for each source.

## Main definitions

* `Run.Records`: the products that a run has written

## Main results

* `Run.Records.unique`: the state of a run is known from its products
* `Run.Records.add_eq_ok_iff`: a step adds one product
* `Run.Records.addAll_eq_ok_iff`: many steps add one product for each source
* `Run.all_eq_ok_iff`: what it takes for a run to come to its end
-/

namespace TagDoc.Run

variable {c : Compiler} {t made : FileTree} {p out : Path} {d : Document} {w : Product} {works later : List Product}
  {sources : List Path} {r r' : Run}

/-! ### Steps -/

@[simp]
theorem tell_files (r : Run) (ns : List Notice) : (r.tell ns).files = r.files := rfl

theorem addDocument_eq_ok_iff :
    r.addDocument out p d = .ok r' ↔
      ∃ json files, d.toJson documentLayout = .ok json ∧
        r.files.writeText (outputFile out d.slug) json = .ok files ∧
        r' = ⟨files,
          r.notices ++ r.collisions d ++ [.compiled d.path (outputFile out d.slug).toText d.block.tags.length],
          r.outputs ++ [(p, outputFile out d.slug)], (d.slug, p) :: r.written⟩ := by
  rw [addDocument]
  simp only [bind_eq_ok_iff, mapError_eq_ok_iff]
  constructor
  · rintro ⟨json, hjson, files, hfiles, hpure⟩
    exact ⟨json, files, hjson, hfiles, (Except.ok.inj hpure).symm⟩
  · rintro ⟨json, files, hjson, hfiles, rfl⟩
    exact ⟨json, hjson, files, hfiles, rfl⟩

theorem add_eq_ok_iff :
    r.add c out p = .ok r' ↔
      ∃ d, c.document r.files p = .ok d ∧
        (r.tell (c.documentNotices r.files p)).addDocument out p d = .ok r' := by
  rw [add, tell_files]
  cases c.document r.files p with
  | error fault => simp
  | ok d => simp

/-- A source without a document stops the run and leaves the files alone. -/
theorem add_eq_error {fault : DocumentFault} (h : c.document r.files p = .error fault) :
    r.add c out p = .error ⟨r.tell (c.documentNotices r.files p), .document p fault⟩ := by
  rw [add, tell_files, h]

/-- The products that a run has written, in order. All else that is known of the run follows from them and from the
files that there were at the start. -/
structure Records (c : Compiler) (out : Path) (t : FileTree) (works : List Product) (r : Run) : Prop where
  madeBy : ∀ w ∈ works, w.MadeBy c t
  files : t.writeAll (works.map fun w => (w.target out, w.json)) = .ok r.files
  notices : r.notices = Product.tellEach (Product.notices c t out) [] works
  outputs : r.outputs = works.map fun w => (w.source, w.target out)
  written : r.written = works.reverse.map fun w => (w.slug, w.source)

theorem records_start (c : Compiler) (out : Path) (t : FileTree) : Records c out t [] (start t) where
  madeBy := nofun
  files := rfl
  notices := rfl
  outputs := rfl
  written := rfl

/-- Products that can be written have a record. -/
theorem exists_records (hworks : ∀ w ∈ works, w.MadeBy c t)
    (hwrite : ∀ w ∈ works, ∃ u, t.writeText (w.target out) w.json = .ok u) : ∃ r, Records c out t works r := by
  have hwrites : ∀ e ∈ works.map fun w => (w.target out, w.json), ∃ u, t.writeText e.1 e.2 = .ok u := by
    rw [List.forall_mem_map]
    exact hwrite
  obtain ⟨files, hfiles⟩ := FileTree.exists_writeAll hwrites
  exact ⟨⟨files, _, _, _⟩, hworks, hfiles, rfl, rfl, rfl⟩

namespace Records

/-- The state of a run is known from its products. -/
theorem unique (h : Records c out t works r) (h' : Records c out t works r') : r = r' := by
  obtain ⟨files, notices, outputs, written⟩ := r
  obtain ⟨files', notices', outputs', written'⟩ := r'
  obtain rfl : files = files' := Except.ok.inj (h.files.symm.trans h'.files)
  obtain rfl : notices = notices' := h.notices.trans h'.notices.symm
  obtain rfl : outputs = outputs' := h.outputs.trans h'.outputs.symm
  obtain rfl : written = written' := h.written.trans h'.written.symm
  rfl

theorem keepsSources (h : Records c out t works r) : t.KeepsSources r.files := by
  have hfiles := h.files
  clear h
  -- The first write leads to another tree, from which the rest of the writes start.
  induction works generalizing t with
  | nil =>
    obtain rfl := Except.ok.inj hfiles
    exact .refl _
  | cons w works ih =>
    obtain ⟨u, hu, hlater⟩ := FileTree.writeAll_cons_eq_ok_iff.1 hfiles
    exact (keepsSources_of_writeText hu).trans (ih hlater)

/-- A run has passed through the states in which it had written less. -/
theorem exists_of_append (h : Records c out t (works ++ later) r) : ∃ m, Records c out t works m := by
  have hfiles := h.files
  rw [List.map_append] at hfiles
  obtain ⟨u, hu, -⟩ := FileTree.writeAll_append_eq_ok_iff.1 hfiles
  exact ⟨⟨u, _, _, _⟩, (List.forall_mem_append.1 h.madeBy).1, hu, rfl, rfl, rfl⟩

theorem collisions_eq (h : Records c out t works r) (hw : w.MadeBy c t) :
    r.collisions w.document = Product.collision works w := by
  have hlookup : r.written.lookup w.document.slug = (Product.latest? w.slug works).map Product.source := by
    rw [h.written]
    exact Product.lookup_written w.slug works
  rw [collisions, hlookup, hw.path_eq, Product.collision]
  cases Product.latest? w.slug works <;> rfl

/-- A step that makes a product and writes it adds it to the record. -/
theorem exists_add {files : FileTree} (h : Records c out t works r) (hw : w.MadeBy c t)
    (hsource : w.source.isSource = true) (hwrite : r.files.writeText (w.target out) w.json = .ok files) :
    ∃ r', r.add c out w.source = .ok r' ∧ Records c out t (works ++ [w]) r' := by
  have hdocument := (h.keepsSources.document_eq_ok_iff hsource).2 hw.document
  refine ⟨_, add_eq_ok_iff.2 ⟨w.document, hdocument, addDocument_eq_ok_iff.2 ⟨w.json, files, hw.json, hwrite, rfl⟩⟩, ?_⟩
  constructor
  case madeBy =>
    rw [List.forall_mem_append, List.forall_mem_singleton]
    exact ⟨h.madeBy, hw⟩
  case files =>
    rw [List.map_append]
    exact FileTree.writeAll_append_eq_ok_iff.2
      ⟨r.files, h.files, FileTree.writeAll_cons_eq_ok_iff.2 ⟨files, hwrite, rfl⟩⟩
  case notices =>
    -- The run is told what the files say now, the record what they said at the start.
    have hcollisions : (r.tell (c.documentNotices r.files w.source)).collisions w.document =
        Product.collision works w := h.collisions_eq hw
    rw [Product.tellEach_concat, ← h.notices, List.nil_append, Product.notices, hcollisions, tell,
      h.keepsSources.documentNotices_eq hsource, hw.path_eq]
    simp only [List.append_assoc]
    rfl
  case outputs =>
    rw [List.map_append, ← h.outputs]
    rfl
  case written =>
    rw [List.reverse_append, List.map_append, ← h.written]
    rfl

/-- A step adds one product, the one of its source. -/
theorem add_eq_ok_iff (h : Records c out t works r) (hp : p.isSource = true) :
    r.add c out p = .ok r' ↔ ∃ w, w.source = p ∧ Records c out t (works ++ [w]) r' := by
  constructor
  · intro hadd
    obtain ⟨d, hd, hwritten⟩ := Run.add_eq_ok_iff.1 hadd
    obtain ⟨json, files, hjson, hfiles, -⟩ := addDocument_eq_ok_iff.1 hwritten
    have hw : Product.MadeBy c t ⟨p, d, json⟩ := ⟨(h.keepsSources.document_eq_ok_iff hp).1 hd, hjson⟩
    obtain ⟨r'', hadd', hrecords⟩ := h.exists_add hw hp hfiles
    obtain rfl : r' = r'' := Except.ok.inj (hadd.symm.trans hadd')
    exact ⟨_, rfl, hrecords⟩
  · rintro ⟨w, rfl, hrecords⟩
    have hfiles := hrecords.files
    rw [List.map_append] at hfiles
    obtain ⟨u, hu, hlast⟩ := FileTree.writeAll_append_eq_ok_iff.1 hfiles
    obtain ⟨files, hwrite, -⟩ := FileTree.writeAll_cons_eq_ok_iff.1 hlast
    obtain rfl : u = r.files := Except.ok.inj (hu.symm.trans h.files)
    obtain ⟨r'', hadd, hrecords'⟩ := h.exists_add (hrecords.madeBy w (by simp)) hp hwrite
    rw [hadd, hrecords'.unique hrecords]

/-- Many steps add one product for each source, in order. -/
theorem addAll_eq_ok_iff (h : Records c out t works r) (hsources : ∀ p ∈ sources, p.isSource = true) :
    r.addAll c out sources = .ok r' ↔
      ∃ more, more.map Product.source = sources ∧ Records c out t (works ++ more) r' := by
  -- The record grows with each step, so the rest of the run goes on from any record.
  induction sources generalizing works r with
  | nil =>
    simp only [List.map_eq_nil_iff, exists_eq_left, List.append_nil]
    refine ⟨fun hr => ?_, fun hr => congrArg Except.ok (h.unique hr)⟩
    obtain rfl := Except.ok.inj hr
    exact h
  | cons p sources ih =>
    obtain ⟨hp, hlater⟩ := List.forall_mem_cons.1 hsources
    rw [addAll, List.foldlM_cons, bind_eq_ok_iff]
    constructor
    · rintro ⟨m, hadd, hrest⟩
      obtain ⟨w, rfl, hm⟩ := (h.add_eq_ok_iff hp).1 hadd
      obtain ⟨more, rfl, hr⟩ := (ih hm hlater).1 hrest
      exact ⟨w :: more, rfl, by rwa [List.append_cons]⟩
    · rintro ⟨more, hmore, hr⟩
      obtain ⟨w, more, rfl, rfl, rfl⟩ := List.map_eq_cons_iff.1 hmore
      rw [List.append_cons] at hr
      obtain ⟨m, hm⟩ := hr.exists_of_append
      exact ⟨m, (h.add_eq_ok_iff hp).2 ⟨w, rfl, hm⟩, (ih hm hlater).2 ⟨more, rfl, hr⟩⟩

end Records

theorem all_eq_addAll (hmade : t.ensureDirectory out = (made, none)) (hsources : made.sources p = .ok sources) :
    all c t p out = addAll c out (start made) sources := by
  simp only [all, hmade, hsources]

/-- A run that comes to its end has written a product for each source that there is once the output directory is made,
in order. -/
theorem all_eq_ok_iff :
    all c t p out = .ok r ↔
      ∃ made works, t.ensureDirectory out = (made, none) ∧ made.sources p = .ok (works.map Product.source) ∧
        Records c out made works r := by
  rw [all]
  split
  · rename_i hmade
    simp [hmade]
  · rename_i made hmade
    split
    · rename_i hsources
      simp [hmade, hsources]
    · rename_i sources hsources
      rw [(records_start c out made).addAll_eq_ok_iff fun q hq => isSource_of_mem_sources hsources hq]
      constructor
      · rintro ⟨works, rfl, hr⟩
        exact ⟨made, works, hmade, hsources, hr⟩
      · rintro ⟨made', works, hmade', hsources', hr⟩
        obtain ⟨rfl, -⟩ := Prod.mk.inj (hmade.symm.trans hmade')
        exact ⟨works, Except.ok.inj (hsources'.symm.trans hsources), hr⟩

end TagDoc.Run

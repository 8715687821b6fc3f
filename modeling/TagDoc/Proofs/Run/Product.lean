import TagDoc.Proofs.Run.Sources

/-!
# Products

A product is a document with the source that it is of and the JSON that is written of it. Products come one after the
other. One takes the place of the last before it that has its slug, and that is what is told of it as a collision.

## Main definitions

* `Product`, `Product.MadeBy`: a document that can be written, and the files that it is made of
* `Product.latest?`: the last product with a slug
* `Product.collision`, `Product.notices`: what is told of a product that comes after others
* `Product.tellEach`: what is told of products, one after the other

## Main results

* `Product.mapM_make_eq_ok_iff`: when sources have products
* `Product.lookup_written`: the last source of a slug is that of the last product with the slug
* `Product.filter_isCollision_notices`: what is told of a product as a collision
-/

namespace TagDoc

/-! ### What is told of a source -/

/-- Whether a notice tells that a document takes the place of another. -/
def Notice.isCollision : Notice → Bool
  | slugCollision .. => true
  | _ => false

theorem isCollision_of_mem_optionNotices {decode : Decoder} {reserved : List Text} {text : Text} {n : Notice}
    (h : n ∈ optionNotices decode reserved text) : n.isCollision = false := by
  obtain ⟨chunk, -, hn⟩ := List.mem_filterMap.1 h
  rcases hspan : chunk.span with plain | ⟨g, source⟩
  · rw [hspan] at hn
    cases hn
  · rw [hspan, Span.notice?] at hn
    split at hn
    · cases hn
    · rw [Tag.notice?] at hn
      split at hn
      · cases hn
      · obtain ⟨block, -, herror⟩ := Option.bind_eq_some_iff.1 hn
        obtain ⟨error, -, hnotice⟩ := Option.bind_eq_some_iff.1 herror
        cases hnotice
        rfl

theorem isCollision_of_mem_renderNotices {c : Compiler} {nodes : List Node} {n : Notice}
    (h : n ∈ c.renderNotices nodes) : n.isCollision = false := by
  rw [Compiler.renderNotices] at h
  split at h
  · cases h
  · obtain ⟨node, -, hn⟩ := List.mem_flatMap.1 h
    split at hn
    · obtain ⟨attempt, -, rfl⟩ := List.mem_map.1 hn
      rfl
    · cases hn

/-- What is told of a source alone does not tell that its document takes the place of another. -/
theorem Compiler.filter_isCollision_documentNotices (c : Compiler) (t : FileTree) (p : Path) :
    (c.documentNotices t p).filter Notice.isCollision = [] := by
  rw [List.filter_eq_nil_iff]
  intro n hn
  rw [documentNotices] at hn
  split at hn
  · cases hn
  · rw [notices] at hn
    split at hn
    · cases hn
    · rw [Bool.not_eq_true]
      exact (List.mem_append.1 hn).elim isCollision_of_mem_optionNotices isCollision_of_mem_renderNotices

/-! ### Products -/

/-- A document with the source that it is of and the JSON that is written of it. -/
structure Product where
  source : Path
  document : Document
  json : Text

variable {c : Compiler} {t : FileTree} {p out : Path} {w : Product} {works earlier later : List Product}
  {sources : List Path}

namespace Product

/-- The slug that a product is written under. -/
def slug (w : Product) : Text := w.document.slug

/-- The file that a product is written to. -/
def target (out : Path) (w : Product) : Path := Run.outputFile out w.slug

/-- A product is made of files if its source has its document there, and the document its JSON. -/
structure MadeBy (c : Compiler) (t : FileTree) (w : Product) : Prop where
  document : c.document t w.source = .ok w.document
  json : w.document.toJson documentLayout = .ok w.json

theorem MadeBy.path_eq (h : w.MadeBy c t) : w.document.path = w.source.toText := by
  obtain ⟨text, b, -, -, hmake⟩ := Compiler.document_eq_ok_iff.1 h.document
  obtain ⟨slug, heq⟩ := Document.exists_slug_of_make hmake
  rw [heq]

/-- The product of a source, if it has a document and that can be written. -/
def make (c : Compiler) (t : FileTree) (p : Path) : Except RunFault Product := do
  let d ← (c.document t p).mapError (.document p)
  let json ← (d.toJson documentLayout).mapError .unwritable
  return ⟨p, d, json⟩

theorem make_eq_ok_iff : make c t p = .ok w ↔ w.source = p ∧ w.MadeBy c t := by
  rw [make]
  simp only [bind_eq_ok_iff, mapError_eq_ok_iff]
  constructor
  · rintro ⟨d, hd, json, hjson, hpure⟩
    obtain rfl := Except.ok.inj hpure
    exact ⟨rfl, hd, hjson⟩
  · rintro ⟨rfl, hw⟩
    exact ⟨w.document, hw.document, w.json, hw.json, rfl⟩

theorem mapM_make_eq_ok_iff :
    sources.mapM (make c t) = .ok works ↔ works.map source = sources ∧ ∀ w ∈ works, w.MadeBy c t := by
  rw [mapM_eq_ok_iff]
  induction sources generalizing works with
  | nil => cases works <;> simp
  | cons p sources ih =>
    cases works with
    | nil => simp
    | cons w works =>
      rw [List.forall₂_cons, ih, make_eq_ok_iff]
      simp only [List.map_cons, List.cons.injEq, List.forall_mem_cons]
      exact and_and_and_comm

/-- A source of which the metadata are just a slug has a product with that slug. -/
theorem exists_of_onlySlug? {slug : Text} (hne : slug ≠ [])
    (h : (t.readText p).toOption.any (fun text => (c.block none text).toOption.any fun b =>
      Entries.onlySlug? b.metadata = some slug ∧
        ((⟨slug, p.toText, b.routed⟩ : Document).toJson documentLayout).toOption.isSome) = true) :
    ∃ w : Product, w.source = p ∧ w.slug = slug ∧ w.MadeBy c t := by
  obtain ⟨text, htext, hblock⟩ := (Option.any_eq_true _ _).1 h
  obtain ⟨b, hb, hdocument⟩ := (Option.any_eq_true _ _).1 hblock
  obtain ⟨hslug, hjson⟩ := of_decide_eq_true hdocument
  obtain ⟨json, hjson⟩ := exists_eq_ok_of_isSome hjson
  have hmake : Document.make p b.routed = .ok ⟨slug, p.toText, b.routed⟩ :=
    Document.make_of_slug (b := b.routed) (Entries.getText?_of_onlySlug? hslug) hne
  have hd := Compiler.document_eq_ok_iff.2 ⟨text, b, eq_ok_of_toOption htext, eq_ok_of_toOption hb, hmake⟩
  exact ⟨⟨p, _, json⟩, rfl, rfl, hd, hjson⟩

/-- The last of the products that have a slug. -/
def latest? (slug : Text) (works : List Product) : Option Product := works.reverse.find? (·.slug = slug)

/-- What is told of a product that comes after others: that it takes the place of the last with its slug. -/
def collision (earlier : List Product) (w : Product) : List Notice :=
  (latest? w.slug earlier).toList.map fun v => .slugCollision w.slug w.source.toText v.source.toText

theorem latest?_eq_some_iff {slug : Text} :
    latest? slug works = some w ↔
      w.slug = slug ∧ ∃ earlier later, works = earlier ++ w :: later ∧ ∀ v ∈ later, v.slug ≠ slug := by
  rw [latest?, List.find?_eq_some_iff_append, decide_eq_true_eq]
  refine and_congr_right fun _ => ?_
  constructor
  · rintro ⟨later, earlier, hworks, hlater⟩
    refine ⟨earlier.reverse, later.reverse, ?_, by simpa using hlater⟩
    rw [List.reverse_eq_iff.1 hworks, List.reverse_append, List.reverse_cons, List.append_assoc, List.singleton_append]
  · rintro ⟨earlier, later, rfl, hlater⟩
    exact ⟨later.reverse, earlier.reverse, by simp, by simpa using hlater⟩

theorem lookup_written (slug : Text) (works : List Product) :
    (works.reverse.map fun w => (w.slug, w.source)).lookup slug = (latest? slug works).map Product.source := by
  rw [latest?]
  induction works.reverse with
  | nil => rfl
  | cons w ws ih =>
    rw [List.map_cons, List.lookup_cons, List.find?_cons]
    by_cases hslug : w.slug = slug
    · simp [hslug]
    · simp [hslug, beq_false_of_ne (Ne.symm hslug), ih]

/-! ### What is told of products -/

variable {tell : List Product → Product → List Notice}

/-- What is told of products one after the other, if `tell` says what is told of one that comes after others. -/
def tellEach (tell : List Product → Product → List Notice) : List Product → List Product → List Notice
  | _, [] => []
  | earlier, w :: works => tell earlier w ++ tellEach tell (earlier ++ [w]) works

theorem tellEach_append :
    tellEach tell earlier (works ++ later) = tellEach tell earlier works ++ tellEach tell (earlier ++ works) later := by
  induction works generalizing earlier with
  | nil => simp [tellEach]
  | cons v works ih => simp [tellEach, ih]

theorem tellEach_concat :
    tellEach tell earlier (works ++ [w]) = tellEach tell earlier works ++ tell (earlier ++ works) w := by
  rw [tellEach_append, tellEach, tellEach, List.append_nil]

theorem tellEach_congr {tell' : List Product → Product → List Notice}
    (h : ∀ earlier, ∀ w ∈ works, tell earlier w = tell' earlier w) :
    tellEach tell earlier works = tellEach tell' earlier works := by
  induction works generalizing earlier with
  | nil => rfl
  | cons w works ih =>
    rw [tellEach, tellEach, h earlier w List.mem_cons_self, ih fun e v hv => h e v (List.mem_cons_of_mem w hv)]

theorem mem_tellEach {n : Notice} (h : n ∈ tell (earlier ++ works) w) :
    n ∈ tellEach tell earlier (works ++ w :: later) := by
  rw [tellEach_append, tellEach]
  exact List.mem_append_right _ (List.mem_append_left _ h)

theorem filter_tellEach (keep : Notice → Bool) :
    (tellEach tell earlier works).filter keep =
      tellEach (fun earlier w => (tell earlier w).filter keep) earlier works := by
  induction works generalizing earlier with
  | nil => rfl
  | cons w works ih => rw [tellEach, List.filter_append, ih, tellEach]

/-- All that is told of a product: first what is told of its source, then of which it takes the place, and then that it
was written. -/
def notices (c : Compiler) (t : FileTree) (out : Path) (earlier : List Product) (w : Product) : List Notice :=
  c.documentNotices t w.source ++ collision earlier w ++
    [.compiled w.source.toText (w.target out).toText w.document.block.tags.length]

theorem isCollision_of_mem_collision (earlier : List Product) (w : Product) :
    ∀ n ∈ collision earlier w, n.isCollision = true := by
  rw [collision, List.forall_mem_map]
  exact fun _ _ => rfl

/-- Nothing is told of products that all have slugs of their own. -/
theorem tellEach_collision_eq_nil (h : ((earlier ++ works).map slug).Nodup) :
    tellEach collision earlier works = [] := by
  induction works generalizing earlier with
  | nil => rfl
  | cons w works ih =>
    rw [List.append_cons] at h
    have hfree : latest? w.slug earlier = none := by
      rw [List.map_append, List.map_append] at h
      have hapart := (List.nodup_append.1 (List.nodup_append.1 h).1).2.2
      simpa [latest?] using fun v hv => hapart _ (List.mem_map_of_mem hv) _ List.mem_cons_self
    rw [tellEach, collision, hfree, ih h]
    rfl

/-- Nothing but a product that takes the place of another is told as a collision. -/
theorem filter_isCollision_notices (c : Compiler) (t : FileTree) (out : Path) (earlier : List Product) (w : Product) :
    (notices c t out earlier w).filter Notice.isCollision = collision earlier w := by
  rw [notices, List.filter_append, List.filter_append, c.filter_isCollision_documentNotices, List.nil_append,
    List.filter_eq_self.2 (isCollision_of_mem_collision earlier w)]
  exact List.append_nil _

end Product

end TagDoc

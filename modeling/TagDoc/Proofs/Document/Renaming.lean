import TagDoc.Proofs.Document.Source
import TagDoc.Proofs.Files.Tree
import TagDoc.Proofs.Text.Slug

/-!
# Files named after their documents

The slug of a slug is that slug. So a file that is named after its document, where the slug of that was made of the name
of the file, gives a document with the same slug, however often this is done.

## Main definitions

* `Path.withStem`: the path to a file of another name in the same directory

## Main results

* `Path.stem_withStem`: a file that is named after a slug has it for its stem
* `slug_idempotent`: slugs are their own slugs, and documents keep theirs when their files are named after them
-/

namespace TagDoc

variable {p : Path} {stem : Text}

/-- The path to a file in the same directory, with another stem and the same ending. -/
def Path.withStem (p : Path) (stem : Text) : Path := p.parent.child (stem ++ p.ending)

theorem Path.stem_withStem (hstem : stem ≠ []) (hdot : '.' ∉ stem) : (p.withStem stem).stem = stem := by
  have hname : (p.withStem stem).name = stem ++ p.ending := by
    simp [withStem, child, name]
  have hlength : stemLength (stem ++ p.ending) = stem.length := by
    rcases exists_ending p.name with hwhole | ⟨first, rest, hfirst, hrest, hrestDot, hcut⟩
    · rw [ending, hwhole, List.drop_length, List.append_nil, stemLength_of_not_mem hdot]
    · rw [ending, hcut, stemLength_append hfirst hrest hrestDot, List.drop_left, stemLength_append hstem hrest hrestDot]
  rw [Path.stem, hname, hlength, List.take_left]

theorem isSlug_doc : Text.IsSlug "doc".toList := by decide

/-- A document that has its slug from the name of its file has one that is a slug. -/
theorem Document.isSlug_of_asksNoSlug {c : Compiler} {files : FileTree} {d : Document} (h : c.document files p = .ok d)
    (hasked : d.block.metadata.AsksNoSlug) : d.slug = Text.slug p.stem "doc".toList ∧ Text.IsSlug d.slug := by
  obtain ⟨text, b, -, -, hmade⟩ := Compiler.document_eq_ok_iff.1 h
  obtain ⟨slug, rfl⟩ := Document.exists_slug_of_make hmade
  rw [Document.make_of_asksNoSlug hasked] at hmade
  have hslug : Text.slug p.stem "doc".toList = slug := (Document.mk.inj (Except.ok.inj hmade)).1
  dsimp only
  rw [← hslug]
  exact ⟨rfl, Text.isSlug_slug isSlug_doc p.stem⟩

/-- To make a slug twice is to make it once, where the fallback is a slug or empty. So the slug that a document has from
the name of its file is its own slug, and the document keeps it when the file is named after it. -/
theorem slug_idempotent :
    (∀ t fallback : Text, fallback = [] ∨ Text.IsSlug fallback →
      Text.slug (Text.slug t fallback) fallback = Text.slug t fallback) ∧
      ∀ (c : Compiler) (files : FileTree) (p : Path) (d : Document), c.document files p = .ok d →
        d.block.metadata.AsksNoSlug →
          d.slug = Text.slug p.stem "doc".toList ∧ Text.slug d.slug "doc".toList = d.slug ∧
            ∀ files' : FileTree, files'.readText (p.withStem d.slug) = files.readText p →
              c.document files' (p.withStem d.slug) = .ok { d with path := (p.withStem d.slug).toText } := by
  refine ⟨fun t fallback hfallback => Text.slug_slug hfallback t, fun c files p d h hasked => ?_⟩
  obtain ⟨hslug, hform⟩ := Document.isSlug_of_asksNoSlug h hasked
  have hagain : Text.slug d.slug "doc".toList = d.slug := by
    rw [hslug]
    exact Text.slug_slug (.inr isSlug_doc) p.stem
  refine ⟨hslug, hagain, fun files' hread => ?_⟩
  have hdot : '.' ∉ d.slug := by
    intro hmem
    have := hform.of_mem hmem
    revert this
    decide
  obtain ⟨text, b, htext, hblock, hmade⟩ := Compiler.document_eq_ok_iff.1 h
  refine Compiler.document_eq_ok_iff.2 ⟨text, b, hread.trans htext, hblock, ?_⟩
  obtain ⟨slug, rfl⟩ := Document.exists_slug_of_make hmade
  rw [Document.make_of_asksNoSlug hasked, Path.stem_withStem hform.ne_nil hdot, hagain]

/-- A file with capitals, blanks and brackets in its name, and the same file after it was named after its document. -/
theorem slug_idempotent_of_blanks :
    let files := FileTree.ofTexts [("My Notes (new).md", "A"), ("my-notes-new.md", "A")]
    let p : Path := ⟨0, ["My Notes (new).md".toList]⟩
    let q : Path := ⟨0, ["my-notes-new.md".toList]⟩
    (("doc".toList = [] ∨ Text.IsSlug "doc".toList) ∧
      Text.slug (Text.slug "A  b".toList "doc".toList) "doc".toList = Text.slug "A  b".toList "doc".toList) ∧
      ∃ c d, Compiler.ofDialect? .usual [] "commonmark".toList [] = .ok c ∧ c.document files p = .ok d ∧
        d.block.metadata.AsksNoSlug ∧ d.slug = "my-notes-new".toList ∧ Text.slug d.slug "doc".toList = d.slug ∧
        p.withStem d.slug = q ∧ files.readText q = files.readText p ∧ c.document files q = .ok { d with path := q.toText } := by
  intro files p q
  refine ⟨⟨.inr isSlug_doc, slug_idempotent.1 _ _ (.inr isSlug_doc)⟩, ?_⟩
  have hrun : (Compiler.ofDialect? .usual [] "commonmark".toList []).toOption.any (fun c =>
      (c.document files p).toOption.any fun d =>
        ((Entries.getText? d.block.metadata "slug".toList).getD .null).isTruthy = false ∧ d.slug = "my-notes-new".toList) =
      true := by
    decide +kernel
  obtain ⟨c, hc, hrun⟩ := (Option.any_eq_true _ _).1 hrun
  obtain ⟨d, hd, hslug⟩ := (Option.any_eq_true _ _).1 hrun
  obtain ⟨hasked, hslug⟩ := of_decide_eq_true hslug
  have hpath : p.withStem d.slug = q := by
    rw [hslug]
    rfl
  have hread : files.readText q = files.readText p := by decide +kernel
  obtain ⟨-, hagain, hrenamed⟩ := slug_idempotent.2 c files p d (eq_ok_of_toOption hd) hasked
  have hdocument := hrenamed files (hpath ▸ hread)
  rw [hpath] at hdocument
  exact ⟨c, d, eq_ok_of_toOption hc, eq_ok_of_toOption hd, hasked, hslug, hagain, hpath, hread, hdocument⟩

end TagDoc

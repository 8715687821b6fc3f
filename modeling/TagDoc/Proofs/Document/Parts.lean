import TagDoc.Document.Source
import TagDoc.Proofs.FrontMatter.Cutting
import TagDoc.Proofs.Node.JoinText
import TagDoc.Proofs.Node.Options
import TagDoc.Proofs.Step

/-!
# What is read of a document

A document is cut into parts without the help of anyone, and only the parts are given to others to be read: the front
matter, the options of the tags that are not reserved, and the text between the tags. So two compilers that read these parts
alike make the same document of a file, whatever they make of other texts.

## Main definitions

* `Compiler.AgreeOn`: two compilers read the parts of a text alike

## Main results

* `parseNodes_congr`: the nodes of a text depend on how the options of its tags are decoded
* `Compiler.AgreeOn.block_eq`, `Compiler.document_eq_of_agreeOn`: compilers that read the parts of a text alike make the
  same block of it, and the same document of its file
-/

namespace TagDoc

variable {c c' : Compiler} {decode decode' : Decoder} {reserved : List Text} {t : Text} {fm : FrontMatter}

/-- The nodes of a text depend on how the options of its tags are decoded that are not reserved. -/
theorem parseNodes_congr
    (h : ∀ g ∈ freeTags reserved t, ∀ block, g.1.options = some block → decode block = decode' block) :
    parseNodes decode reserved t = parseNodes decode' reserved t := by
  rw [parseNodes, parseNodes]
  congr 1
  -- Where tags begin and end does not depend on the decoder, so the chunks can be compared one by one.
  refine List.map_congr_left fun chunk hchunk => ?_
  cases hspan : chunk.span with
  | plain u => rfl
  | tag g source =>
    by_cases hname : g.name ∈ reserved
    · rw [Span.toNode, Span.toNode, if_pos hname, if_pos hname]
    · have hfree : (g, source) ∈ freeTags reserved t :=
        List.mem_filterMap.2 ⟨chunk, hchunk, by rw [hspan, Span.freeTag?, if_neg hname]⟩
      have hoptions : g.options.map (Options.ofBlock decode) = g.options.map (Options.ofBlock decode') :=
        Option.map_congr fun block hblock => by
          rw [Options.ofBlock, Options.ofBlock, h (g, source) hfree block hblock]
      rw [Span.toNode, Span.toNode, Tag.toNode, Tag.toNode, hoptions]

namespace Compiler

/-- Two compilers read the parts of a text alike.

* `load`: its front matter
* `decode`: the options of tags that are not reserved, in what comes after the front matter
* `toHtml`: the text between the tags -/
structure AgreeOn (c c' : Compiler) (t : Text) : Prop where
  load : ∀ source body, FrontMatter.cut? t.strip = some (source, body) → c.load source = c'.load source
  decode : ∀ fm, c.cutFrontMatter t = .ok fm → ∀ g ∈ freeTags c.reserved fm.body, ∀ block, g.1.options = some block →
    c.decode block = c'.decode block
  toHtml : ∀ fm, c.cutFrontMatter t = .ok fm → ∀ u, .text u ∈ parseNodes c.decode c.reserved fm.body →
    c.toHtml u = c'.toHtml u

theorem AgreeOn.cutFrontMatter_eq (h : c.AgreeOn c' t) : c.cutFrontMatter t = c'.cutFrontMatter t := by
  rw [cutFrontMatter, cutFrontMatter, FrontMatter.extract, FrontMatter.extract]
  cases hcut : FrontMatter.cut? t.strip with
  | none => rfl
  | some cut => simp only [h.load cut.1 cut.2 hcut]

theorem AgreeOn.parseNodes_eq (h : c.AgreeOn c' t) (hreserved : c.reserved = c'.reserved)
    (hfm : c.cutFrontMatter t = .ok fm) :
    parseNodes c.decode c.reserved fm.body = parseNodes c'.decode c'.reserved fm.body :=
  hreserved ▸ parseNodes_congr (h.decode fm hfm)

/-- What one of the two reads is what the other reads, so it does not matter which of them it is told of. -/
theorem AgreeOn.symm (h : c.AgreeOn c' t) (hreserved : c.reserved = c'.reserved) : c'.AgreeOn c t where
  load source body hcut := (h.load source body hcut).symm
  decode fm hfm g hg block hblock := by
    rw [← h.cutFrontMatter_eq] at hfm
    rw [← hreserved] at hg
    exact (h.decode fm hfm g hg block hblock).symm
  toHtml fm hfm u hu := by
    rw [← h.cutFrontMatter_eq] at hfm
    rw [← h.parseNodes_eq hreserved hfm] at hu
    exact (h.toHtml fm hfm u hu).symm

theorem AgreeOn.contents_eq (h : c.AgreeOn c' t) (hreserved : c.reserved = c'.reserved)
    (hfm : c.cutFrontMatter t = .ok fm) : c.contents none fm.body = c'.contents none fm.body := by
  have hrender : ∀ n ∈ parseNodes c.decode c.reserved fm.body, c.renderNode n = c'.renderNode n := by
    intro n hn
    cases n with
    | text u => exact congrArg (Except.map Node.text) (h.toHtml fm hfm u hn)
    | tag g => rfl
    | heading g => rfl
  simp only [contents, reservedFor, Option.getD_none]
  rw [mapM_congr_left hrender, h.parseNodes_eq hreserved hfm]

/-- Compilers that read the parts of a text alike make the same block of it. -/
theorem AgreeOn.block_eq (h : c.AgreeOn c' t) (hreserved : c.reserved = c'.reserved) :
    c.block none t = c'.block none t := by
  rw [block, block, ← h.cutFrontMatter_eq]
  cases hfm : c.cutFrontMatter t with
  | error fault => rfl
  | ok fm =>
    exact congrArg (fun made => made.mapError BlockFault.unrendered >>= fun contents =>
      (Block.make contents fm.body fm.metadata).mapError .invalid) (h.contents_eq hreserved hfm)

/-- Compilers that read the parts of the text of a file alike make the same document of it. -/
theorem document_eq_of_agreeOn {files : FileTree} {p : Path} (hreserved : c.reserved = c'.reserved)
    (h : ∀ text, files.readText p = .ok text → c.AgreeOn c' text) : c.document files p = c'.document files p := by
  rw [document, document]
  cases htext : files.readText p with
  | error fault => rfl
  | ok text =>
    exact congrArg (fun made => made.mapError DocumentFault.block >>= fun b => Document.make p b.routed)
      ((h text htext).block_eq hreserved)

end Compiler

end TagDoc

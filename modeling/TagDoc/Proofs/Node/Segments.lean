import TagDoc.Proofs.Node.JoinText
import TagDoc.Proofs.Tag.Spans

/-!
# Documents and their nodes

The nodes of a document make up the document. Text and structured nodes take turns, and a structured node opens
with its at sign where a line begins.

## Main definitions

* `Segments`: nodes that cut a document in this way

## Main results

* `parseNodes_segments`: the nodes of a document do, whatever names are reserved
-/

namespace TagDoc

open Text

/-- `nodes` cut the document `t` into text and structured nodes by turns. -/
structure Segments (t : Text) (nodes : List Node) : Prop where
  /-- The sources of the nodes make up the document. -/
  lossless : sourceText nodes = t
  /-- No node is empty. -/
  nonempty : ∀ n ∈ nodes, n.source ≠ []
  /-- A structured node opens with an at sign at the start of a line. -/
  opens : ∀ before n after, nodes = before ++ n :: after → n.isStructured = true →
    n.source.head? = some '@' ∧ AtLineStart (sourceText before)
  /-- Neither two texts nor two structured nodes are neighbours. -/
  alternate : nodes.IsChain fun m n => m.isStructured ≠ n.isStructured

variable {decode : Decoder} {reserved : List Text} {t : Text}

theorem sourceText_parseNodes (decode : Decoder) (reserved : List Text) (t : Text) :
    sourceText (parseNodes decode reserved t) = t := by
  rw [parseNodes_eq_joinText, sourceText_joinText, sourceText_map_toNode, readSpans_sources]

theorem source_ne_nil_of_mem_parseNodes : ∀ n ∈ parseNodes decode reserved t, n.source ≠ [] := by
  rw [parseNodes_eq_joinText]
  refine source_ne_nil_of_mem_joinText fun n hn => ?_
  obtain ⟨s, hs, rfl⟩ := List.mem_map.1 hn
  rw [Span.source_toNode]
  exact readSpans_source_ne_nil hs

/-- A structured node is made of a tag that the scanner read after the same source. -/
theorem exists_tag_of_parseNodes {before after : List Node} {n : Node}
    (h : parseNodes decode reserved t = before ++ n :: after) (hn : n.isStructured = true) :
    ∃ earlier g source later, readSpans t = earlier ++ .tag g source :: later ∧
      earlier.flatMap Span.source = sourceText before ∧ n = (Span.tag g source).toNode decode reserved := by
  rw [parseNodes_eq_joinText] at h
  obtain ⟨before', after', hmap, hsource⟩ := exists_split_of_joinText h hn
  obtain ⟨earlier, rest, hspans, rfl, hrest⟩ := List.map_eq_append_iff.1 hmap
  obtain ⟨s, later, rfl, rfl, -⟩ := List.map_eq_cons_iff.1 hrest
  obtain ⟨g, source, rfl⟩ := Span.exists_tag_of_isStructured hn
  exact ⟨earlier, g, source, later, hspans, by rw [← hsource, sourceText_map_toNode], rfl⟩

theorem parseNodes_alternate :
    (parseNodes decode reserved t).IsChain fun m n => m.isStructured ≠ n.isStructured := by
  rw [parseNodes_eq_joinText]
  refine joinText_alternates ((List.isChain_map _).2 ((readSpans_isChain t).imp ?_))
  rintro s s' hne ⟨hs, hs'⟩
  obtain ⟨g, source, rfl⟩ := Span.exists_tag_of_isStructured hs
  obtain ⟨g', source', rfl⟩ := Span.exists_tag_of_isStructured hs'
  exact hne ⟨rfl, rfl⟩

/-- The nodes of a document make it up by turns of text and structured nodes, and only an empty document has
none. -/
theorem parseNodes_segments (decode : Decoder) (reserved : List Text) (t : Text) :
    Segments t (parseNodes decode reserved t) ∧ (parseNodes decode reserved t = [] ↔ t = []) := by
  have hlossless := sourceText_parseNodes decode reserved t
  constructor
  · refine ⟨hlossless, source_ne_nil_of_mem_parseNodes, fun before n after h hn => ?_, parseNodes_alternate⟩
    obtain ⟨earlier, g, source, later, hspans, hsource, rfl⟩ := exists_tag_of_parseNodes h hn
    obtain ⟨rest, hwritten⟩ := readSpans_written (hspans ▸ List.mem_append_right _ List.mem_cons_self)
    rw [Span.source_toNode, ← hsource]
    exact ⟨hwritten.head?_source, readSpans_atLineStart hspans⟩
  · constructor
    · intro hnil
      rw [← hlossless, hnil]
      rfl
    · rintro rfl
      rw [parseNodes_eq_joinText, readSpans_nil]
      rfl

end TagDoc

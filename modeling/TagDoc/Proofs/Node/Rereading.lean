import TagDoc.Proofs.Node.Segments
import TagDoc.Proofs.Tag.Context

/-!
# Reading a node again

A tag was read with the whole rest of the document in view: options and fences are closed by what comes later. Once it
is read, nothing but its source matters. The source alone is a document with one chunk and one node, and the node is
the one that the source was taken from.

## Main results

* `exists_written_of_mem_parseNodes`: a structured node is that of a tag written in its source
* `parseNodes_source`: the source of a structured node is read as this node
-/

namespace TagDoc

open Text

variable {decode : Decoder} {reserved : List Text} {t source : Text} {g : Tag} {n : Node}

/-- A structured node of a document is that of a tag that is written in the node's source. -/
theorem exists_written_of_mem_parseNodes (hn : n ∈ parseNodes decode reserved t) (hs : n.isStructured = true) :
    ∃ g rest, Tag.Written g n.source rest ∧ n = g.toNode decode n.source := by
  obtain ⟨before, after, hnodes⟩ := List.append_of_mem hn
  obtain ⟨earlier, g, source, later, hspans, -, rfl⟩ := exists_tag_of_parseNodes hnodes hs
  obtain ⟨rest, hwritten⟩ := readSpans_written (hspans ▸ List.mem_append_right _ List.mem_cons_self)
  rw [Span.source_toNode]
  refine ⟨g, rest, hwritten, ?_⟩
  rw [Span.toNode] at hs ⊢
  split
  · rename_i hreserved
    rw [if_pos hreserved] at hs
    cases hs
  · rfl

theorem scan_of_written (h : g.Written source []) : scan source = [⟨0, .tag g source⟩] := by
  rw [scan, readSpans_of_written_nil h]
  rfl

theorem parseNodes_of_written (h : g.Written source []) :
    parseNodes decode [] source = [g.toNode decode source] := by
  have hnode : (Span.tag g source).toNode decode [] = g.toNode decode source := by
    rw [Span.toNode, if_neg List.not_mem_nil]
  rw [parseNodes_eq_joinText, readSpans_of_written_nil h, List.map_singleton, hnode,
    joinText_cons_of_structured (g.isStructured_toNode source)]
  rfl

/-- The source of a structured node stands on its own: it is scanned as a single tag, and its only node is the node
that it was taken from. -/
theorem parseNodes_source (decode : Decoder) (reserved : List Text) (t : Text) (n : Node)
    (hn : n ∈ parseNodes decode reserved t) (hs : n.isStructured = true) :
    parseNodes decode [] n.source = [n] ∧ ∃ g, scan n.source = [⟨0, .tag g n.source⟩] := by
  obtain ⟨g, rest, hwritten, hnode⟩ := exists_written_of_mem_parseNodes hn hs
  -- What follows the node in the document is cut off.
  have halone : g.Written n.source [] := hwritten.of_append
  have hnodes : parseNodes decode [] n.source = [n] := by rw [parseNodes_of_written halone, ← hnode]
  exact ⟨hnodes, g, scan_of_written halone⟩

/-- The first brace closes no options, the fence ends in the middle of a line, and a tag stands between the fences. -/
theorem parseNodes_source_of_open_fence :
    let t := "x\n@a \x7bb\x7d, \x7d ...\n@b y\n....z\n@c d".toList
    let n : Node := .tag
      { name := "a".toList, value := some "@b y".toList, options := some (.ofBlock (strictJson 100) "\x7bb\x7d, \x7d".toList)
        raw := "@a \x7bb\x7d, \x7d ...\n@b y\n....".toList }
    n ∈ parseNodes (strictJson 100) ["c".toList] t ∧ n.isStructured = true ∧
      parseNodes (strictJson 100) [] n.source = [n] ∧ ∃ g, scan n.source = [⟨0, .tag g n.source⟩] := by
  intro t n
  have hspans : readSpans t =
      [.plain "x\n".toList,
        .tag ⟨"a".toList, some "\x7bb\x7d, \x7d".toList, .fenced "@b y".toList⟩
          "@a \x7bb\x7d, \x7d ...\n@b y\n....".toList,
        .plain "z\n".toList, .tag ⟨"c".toList, none, .line "d".toList⟩ "@c d".toList] := by
    decide +kernel
  have hnodes : parseNodes (strictJson 100) ["c".toList] t =
      [.text "x\n".toList, n, .text "z\n@c d".toList] := by
    rw [parseNodes_eq_joinText, hspans]
    rfl
  have hn : n ∈ parseNodes (strictJson 100) ["c".toList] t := by
    rw [hnodes]
    exact List.mem_cons_of_mem _ List.mem_cons_self
  exact ⟨hn, rfl, parseNodes_source _ _ t n hn rfl⟩

end TagDoc

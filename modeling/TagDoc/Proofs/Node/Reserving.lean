import TagDoc.Proofs.Node.JoinText
import TagDoc.Proofs.Tag.Spans

/-!
# Reserving names

To reserve a name is to take the tags with that name back into the text around them. It makes no difference whether
this is done while a document is read or afterwards to its nodes, and neither does it touch any other node. A reserved
tag is taken back as a whole, with what looks like a tag between its fences.

## Main definitions

* `Node.writtenName?`: the name with which a structured node was written
* `Node.withhold`: a node that is text if its name is one of some names

## Main results

* `Span.toNode_withhold`: the node of a span under more reserved names
* `parseNodes_reserve`: the nodes of a document under more reserved names, and where its reserved tags are
-/

namespace TagDoc

open Text

variable {decode : Decoder} {reserved more both : List Text} {t source : Text} {g : Tag}

/-- The name with which a structured node was written: that of a heading is made of as many number signs as its level
tells. -/
def Node.writtenName? : Node → Option Text
  | text _ => none
  | tag n => some n.name
  | heading h => some (List.replicate h.level '#')

/-- A node whose name is one of `names` is taken back into text; any other node stays. -/
def Node.withhold (names : List Text) (n : Node) : Node :=
  match n.writtenName? with
  | some name => if name ∈ names then text n.source else n
  | none => n

theorem Tag.writtenName?_toNode (g : Tag) (source : Text) :
    (g.toNode decode source).writtenName? = some g.name := by
  rw [Tag.toNode]
  split
  · rename_i hheading
    rw [isHeadingName, Bool.and_eq_true, List.all_eq_true] at hheading
    have hsigns : ∀ c ∈ g.name, c = '#' := fun c hc => by simpa using hheading.2 c hc
    exact congrArg some (List.eq_replicate_iff.2 ⟨rfl, hsigns⟩).symm
  · rfl

/-- Names may be reserved for the node of a span in two steps. -/
theorem Span.toNode_withhold (hboth : ∀ name, name ∈ both ↔ name ∈ reserved ∨ name ∈ more) (s : Span) :
    s.toNode decode both = (s.toNode decode reserved).withhold more := by
  cases s with
  | plain t => rfl
  | tag g source =>
    by_cases hreserved : g.name ∈ reserved
    · have hb : g.name ∈ both := (hboth g.name).2 (.inl hreserved)
      rw [Span.toNode, Span.toNode, if_pos hb, if_pos hreserved]
      rfl
    · have hb : g.name ∈ both ↔ g.name ∈ more := by
        rw [hboth, or_iff_right hreserved]
      rw [Span.toNode, Span.toNode, if_neg hreserved, Node.withhold, Tag.writtenName?_toNode, Tag.source_toNode]
      exact ite_congr (propext hb) (fun _ => rfl) fun _ => rfl

/-- A tag with a reserved name is part of a text, at its place. -/
theorem exists_text_of_reserved {start : Nat} (hchunk : ⟨start, .tag g source⟩ ∈ tagChunks t)
    (hname : g.name ∈ reserved) :
    ∃ before lead trail after,
      parseNodes decode reserved t = before ++ .text (lead ++ source ++ trail) :: after ∧
        (sourceText before ++ lead).length = start := by
  obtain ⟨earlier, later, hspans, hstart⟩ := exists_split_of_mem_tagChunks hchunk
  have hnode : (Span.tag g source).toNode decode reserved = .text source := by
    rw [Span.toNode, if_pos hname]
  obtain ⟨before, lead, trail, after, hjoin, hsource⟩ := exists_text_of_joinText
    (earlier.map (Span.toNode decode reserved)) (later.map (Span.toNode decode reserved)) source
  refine ⟨before, lead, trail, after, ?_, ?_⟩
  · rw [parseNodes_eq_joinText, hspans, List.map_append, List.map_cons, hnode, hjoin]
  · rw [hsource, sourceText_map_toNode]
    exact hstart.symm

/-- With more names reserved, a document has the nodes that it has without them, where each node with one of these
names is taken back into the text around it. All that a tag with a reserved name is written in is part of one text. -/
theorem parseNodes_reserve (decode : Decoder) (reserved more both : List Text) (t : Text)
    (hboth : ∀ name, name ∈ both ↔ name ∈ reserved ∨ name ∈ more) :
    parseNodes decode both t = joinText ((parseNodes decode reserved t).map (Node.withhold more)) ∧
      ∀ start g source, ⟨start, .tag g source⟩ ∈ tagChunks t → g.name ∈ both →
        ∃ before lead trail after,
          parseNodes decode both t = before ++ .text (lead ++ source ++ trail) :: after ∧
            (sourceText before ++ lead).length = start := by
  constructor
  · have hnodes : (readSpans t).map (Span.toNode decode both) =
        ((readSpans t).map (Span.toNode decode reserved)).map (Node.withhold more) := by
      rw [List.map_map]
      exact List.map_congr_left fun s _ => Span.toNode_withhold hboth s
    rw [parseNodes_eq_joinText, parseNodes_eq_joinText, hnodes, joinText_map_joinText fun t => rfl]
  · exact fun start g source hchunk hname => exists_text_of_reserved hchunk hname

/-- A heading and a tag with a tag between its fences are taken back, next to a tag that was reserved before. -/
theorem parseNodes_reserve_fence :
    let t := "@a x\n@b ...\n@c y\n...\n@## z\n@c w".toList
    let reserved := ["a".toList]
    let more := ["##".toList, "b".toList]
    let both := ["b".toList, "a".toList, "##".toList]
    let g : Tag := ⟨"b".toList, none, .fenced "@c y".toList⟩
    (∀ name, name ∈ both ↔ name ∈ reserved ∨ name ∈ more) ∧
      parseNodes (strictJson 100) both t = joinText ((parseNodes (strictJson 100) reserved t).map (Node.withhold more)) ∧
      ⟨5, .tag g "@b ...\n@c y\n...".toList⟩ ∈ tagChunks t ∧ g.name ∈ both ∧
      ∃ before lead trail after,
        parseNodes (strictJson 100) both t = before ++ .text (lead ++ "@b ...\n@c y\n...".toList ++ trail) :: after ∧
          (sourceText before ++ lead).length = 5 := by
  intro t reserved more both g
  have hboth : ∀ name, name ∈ both ↔ name ∈ reserved ∨ name ∈ more := by
    intro name
    simp only [both, reserved, more, List.mem_cons, List.not_mem_nil, or_false]
    tauto
  have hchunk : ⟨5, .tag g "@b ...\n@c y\n...".toList⟩ ∈ tagChunks t := by decide +kernel
  have hname : g.name ∈ both := by decide
  obtain ⟨hnodes, hplace⟩ := parseNodes_reserve (strictJson 100) reserved more both t hboth
  exact ⟨hboth, hnodes, hchunk, hname, hplace 5 g _ hchunk hname⟩

end TagDoc

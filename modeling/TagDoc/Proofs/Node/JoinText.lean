import Mathlib.Data.List.Chain
import TagDoc.Node.Parse

/-!
# Joining text

`joinText` makes one node of neighbouring text nodes. It keeps the source and leaves the structured nodes where
they are, and it may be done part by part: what is joined once is joined for good.

## Main results

* `sourceText_joinText`: joining keeps the source
* `joinText_alternates`: if structured nodes are not neighbours, text and structured nodes alternate
* `exists_split_of_joinText`: a structured node comes after the same source as before joining
* `joinText_map_append`: nodes may be joined before they are replaced one by one, or put before others
* `joinText_append_joinText`: two parts may be joined before they are put together
* `exists_text_of_joinText`: a text to be joined is part of a joined text, at the same place
* `parseNodes_eq_joinText`: the nodes of a document are the joined nodes of its spans
-/

namespace TagDoc

open Text

variable {nodes : List Node} {n : Node}

theorem joinText_cons_of_structured (hn : n.isStructured = true) (nodes : List Node) :
    joinText (n :: nodes) = n :: joinText nodes := by
  cases n with
  | text t => cases hn
  | tag n => rfl
  | heading h => rfl

theorem joinText_text_of_text {u : Text} {rest : List Node} (h : joinText nodes = .text u :: rest) (t : Text) :
    joinText (.text t :: nodes) = .text (t ++ u) :: rest := by
  simp [joinText, h]

theorem joinText_text_of_structured (h : ∀ n ∈ (joinText nodes).head?, n.isStructured = true) (t : Text) :
    joinText (.text t :: nodes) = .text t :: joinText nodes := by
  rw [joinText]
  split
  · rename_i u rest heq
    rw [heq] at h
    cases h (.text u) rfl
  · rfl

/-- Joined nodes begin with text, or they do not. -/
theorem joinText_head_cases (nodes : List Node) :
    (∃ u rest, joinText nodes = .text u :: rest) ∨ ∀ n ∈ (joinText nodes).head?, n.isStructured = true := by
  rcases joinText nodes with _ | ⟨n, rest⟩
  · exact .inr nofun
  · cases n with
    | text u => exact .inl ⟨u, rest, rfl⟩
    | tag n => exact .inr (by simp [Node.isStructured])
    | heading h => exact .inr (by simp [Node.isStructured])

theorem Node.eq_text_of_not_structured (hn : ¬ n.isStructured = true) : ∃ t, n = .text t := by
  cases n with
  | text t => exact ⟨t, rfl⟩
  | tag n => exact absurd rfl hn
  | heading h => exact absurd rfl hn

/-- Induction on nodes to be joined: a structured node stays, a text is put in front of a text that comes next,
and a text before a structured node, or before nothing, stays. -/
@[elab_as_elim]
theorem joinText_induction {motive : List Node → Prop} (nodes : List Node) (nil : motive [])
    (structured : ∀ n nodes, n.isStructured = true → joinText (n :: nodes) = n :: joinText nodes →
      motive nodes → motive (n :: nodes))
    (merged : ∀ t u rest nodes, joinText nodes = .text u :: rest →
      joinText (.text t :: nodes) = .text (t ++ u) :: rest → motive nodes → motive (.text t :: nodes))
    (single : ∀ t nodes, (∀ n ∈ (joinText nodes).head?, n.isStructured = true) →
      joinText (.text t :: nodes) = .text t :: joinText nodes → motive nodes → motive (.text t :: nodes)) :
    motive nodes := by
  induction nodes with
  | nil => exact nil
  | cons n nodes ih =>
    by_cases hn : n.isStructured = true
    · exact structured n nodes hn (joinText_cons_of_structured hn nodes) ih
    · obtain ⟨t, rfl⟩ := Node.eq_text_of_not_structured hn
      rcases joinText_head_cases nodes with ⟨u, rest, h⟩ | h
      · exact merged t u rest nodes h (joinText_text_of_text h t) ih
      · exact single t nodes h (joinText_text_of_structured h t) ih

/-! ### What joining keeps -/

theorem sourceText_joinText (nodes : List Node) : sourceText (joinText nodes) = sourceText nodes := by
  induction nodes using joinText_induction with
  | nil => rfl
  | structured n nodes hn hjoin ih =>
    rw [hjoin]
    simpa [sourceText] using ih
  | merged t u rest nodes hu hjoin ih =>
    rw [hjoin]
    rw [hu] at ih
    simpa [sourceText, Node.source] using ih
  | single t nodes hhead hjoin ih =>
    rw [hjoin]
    simpa [sourceText] using ih

theorem source_ne_nil_of_mem_joinText (h : ∀ n ∈ nodes, n.source ≠ []) :
    ∀ n ∈ joinText nodes, n.source ≠ [] := by
  induction nodes using joinText_induction with
  | nil => exact h
  | structured n nodes hn hjoin ih =>
    rw [hjoin]
    simp only [List.forall_mem_cons] at h ⊢
    exact ⟨h.1, ih h.2⟩
  | merged t u rest nodes hu hjoin ih =>
    rw [hjoin]
    rw [hu] at ih
    simp only [List.forall_mem_cons, Node.source] at h ih ⊢
    exact ⟨by simp [h.1], (ih h.2).2⟩
  | single t nodes hhead hjoin ih =>
    rw [hjoin]
    simp only [List.forall_mem_cons] at h ⊢
    exact ⟨h.1, ih h.2⟩

/-- Joining neither puts a structured node in front nor takes one away. -/
theorem isStructured_head_joinText (nodes : List Node) :
    (joinText nodes).head?.map Node.isStructured = nodes.head?.map Node.isStructured := by
  induction nodes using joinText_induction with
  | nil => rfl
  | structured n nodes hn hjoin ih => rw [hjoin]; rfl
  | merged t u rest nodes hu hjoin ih => rw [hjoin]; rfl
  | single t nodes hhead hjoin ih => rw [hjoin]; rfl

/-- If no two structured nodes are neighbours, joining makes text and structured nodes alternate. -/
theorem joinText_alternates
    (h : nodes.IsChain fun m n => ¬ (m.isStructured = true ∧ n.isStructured = true)) :
    (joinText nodes).IsChain fun m n => m.isStructured ≠ n.isStructured := by
  induction nodes using joinText_induction with
  | nil => exact List.isChain_nil
  | structured n nodes hn hjoin ih =>
    obtain ⟨hhead, htail⟩ := List.isChain_cons.1 h
    rw [hjoin]
    refine List.isChain_cons.2 ⟨fun m hm hsame => ?_, ih htail⟩
    have hfirst := isStructured_head_joinText nodes
    rw [Option.mem_def.1 hm, Option.map_some, eq_comm, Option.map_eq_some_iff] at hfirst
    obtain ⟨m', hm', hstructured⟩ := hfirst
    exact hhead m' hm' ⟨hn, by rw [hstructured, ← hsame, hn]⟩
  | merged t u rest nodes hu hjoin ih =>
    have htail := ih (List.isChain_cons.1 h).2
    rw [hu] at htail
    rw [hjoin]
    exact List.isChain_cons.2 (List.isChain_cons.1 htail)
  | single t nodes hhead hjoin ih =>
    rw [hjoin]
    refine List.isChain_cons.2 ⟨fun m hm hsame => ?_, ih (List.isChain_cons.1 h).2⟩
    rw [hhead m hm] at hsame
    cases hsame

/-- A structured node among joined nodes was there before, after nodes of the same source. -/
theorem exists_split_of_joinText {before after : List Node} (h : joinText nodes = before ++ n :: after)
    (hn : n.isStructured = true) :
    ∃ before' after', nodes = before' ++ n :: after' ∧ sourceText before' = sourceText before := by
  induction nodes using joinText_induction generalizing before with
  | nil => simp [joinText] at h
  | structured m nodes hm hjoin ih =>
    rw [hjoin] at h
    rcases before with _ | ⟨m', before⟩
    · obtain ⟨rfl, -⟩ := List.cons.inj h
      exact ⟨[], nodes, rfl, rfl⟩
    · obtain ⟨rfl, hlater⟩ := List.cons.inj h
      obtain ⟨before', after', rfl, hsource⟩ := ih hlater
      exact ⟨m :: before', after', rfl, by simpa [sourceText] using hsource⟩
  | merged t u rest nodes hu hjoin ih =>
    rw [hjoin] at h
    rcases before with _ | ⟨m', before⟩
    · obtain ⟨rfl, -⟩ := List.cons.inj h
      cases hn
    · obtain ⟨rfl, rfl⟩ := List.cons.inj h
      -- Before `t` is put in front, the node comes after the text `u` and the same nodes.
      have hlater : joinText nodes = (.text u :: before) ++ n :: after := hu
      obtain ⟨before', after', rfl, hsource⟩ := ih hlater
      exact ⟨.text t :: before', after', rfl, by simpa [sourceText, Node.source] using hsource⟩
  | single t nodes hhead hjoin ih =>
    rw [hjoin] at h
    rcases before with _ | ⟨m', before⟩
    · obtain ⟨rfl, -⟩ := List.cons.inj h
      cases hn
    · obtain ⟨rfl, hlater⟩ := List.cons.inj h
      obtain ⟨before', after', rfl, hsource⟩ := ih hlater
      exact ⟨.text t :: before', after', rfl, by simpa [sourceText, Node.source] using hsource⟩

/-! ### Joining part by part -/

/-- What comes of a node put in front depends on the joined nodes only. -/
theorem joinText_cons_congr {later : List Node} (h : joinText nodes = joinText later) (n : Node) :
    joinText (n :: nodes) = joinText (n :: later) := by
  cases n with
  | text t => rw [joinText, h, joinText]
  | tag n => rw [joinText, h, joinText] <;> nofun
  | heading k => rw [joinText, h, joinText] <;> nofun

theorem joinText_append_congr {later : List Node} (h : joinText nodes = joinText later) (before : List Node) :
    joinText (before ++ nodes) = joinText (before ++ later) := by
  induction before with
  | nil => exact h
  | cons n before ih => exact joinText_cons_congr ih n

theorem joinText_text_text (t u : Text) (nodes : List Node) :
    joinText (.text t :: .text u :: nodes) = joinText (.text (t ++ u) :: nodes) := by
  rcases joinText_head_cases nodes with ⟨v, rest, h⟩ | h
  · rw [joinText_text_of_text (joinText_text_of_text h u), joinText_text_of_text h, List.append_assoc]
  · rw [joinText_text_of_text (joinText_text_of_structured h u), joinText_text_of_structured h]

/-- Nodes among which no two texts are neighbours are joined already. -/
theorem joinText_eq_self (h : nodes.IsChain fun m n => m.isStructured = true ∨ n.isStructured = true) :
    joinText nodes = nodes := by
  induction nodes with
  | nil => rfl
  | cons n nodes ih =>
    obtain ⟨hhead, htail⟩ := List.isChain_cons.1 h
    have hjoined := ih htail
    by_cases hn : n.isStructured = true
    · rw [joinText_cons_of_structured hn, hjoined]
    · obtain ⟨t, rfl⟩ := Node.eq_text_of_not_structured hn
      have hfirst : ∀ m ∈ (joinText nodes).head?, m.isStructured = true := by
        intro m hm
        rw [hjoined] at hm
        exact (hhead m hm).resolve_left hn
      rw [joinText_text_of_structured hfirst, hjoined]

/-- Nodes may be joined before they are replaced one by one, if text stays as it is, and put before others. -/
theorem joinText_map_append {f : Node → Node} (hf : ∀ t, f (.text t) = .text t) (before after : List Node) :
    joinText ((joinText before).map f ++ after) = joinText (before.map f ++ after) := by
  induction before using joinText_induction with
  | nil => rfl
  | structured n nodes hn hjoin ih =>
    rw [hjoin]
    exact joinText_cons_congr ih (f n)
  | merged t u rest nodes hu hjoin ih =>
    rw [hu, List.map_cons, hf] at ih
    rw [hjoin, List.map_cons, List.map_cons, hf, hf, List.cons_append, ← joinText_text_text]
    exact joinText_cons_congr ih (.text t)
  | single t nodes hhead hjoin ih =>
    rw [hjoin]
    exact joinText_cons_congr ih (f (.text t))

theorem joinText_map_joinText {f : Node → Node} (hf : ∀ t, f (.text t) = .text t) (nodes : List Node) :
    joinText ((joinText nodes).map f) = joinText (nodes.map f) := by
  simpa using joinText_map_append hf nodes []

theorem joinText_joinText (nodes : List Node) : joinText (joinText nodes) = joinText nodes := by
  simpa using joinText_map_joinText (fun t => id_eq (Node.text t)) nodes

theorem joinText_append_joinText (before after : List Node) :
    joinText (joinText before ++ joinText after) = joinText (before ++ after) := by
  rw [joinText_append_congr (joinText_joinText after)]
  simpa using joinText_map_append (fun t => id_eq (Node.text t)) before after

/-- A text among joined nodes stays where it is, or grows at its start, when a node is put in front. -/
theorem joinText_cons_of_text {before after : List Node} {t : Text} (h : joinText nodes = before ++ .text t :: after)
    (n : Node) : ∃ before' lead, joinText (n :: nodes) = before' ++ .text (lead ++ t) :: after ∧
      sourceText before' ++ lead = n.source ++ sourceText before := by
  by_cases hn : n.isStructured = true
  · exact ⟨n :: before, [], by rw [joinText_cons_of_structured hn, h]; rfl, by simp [sourceText]⟩
  · obtain ⟨u, rfl⟩ := Node.eq_text_of_not_structured hn
    rcases before with _ | ⟨m, before⟩
    · exact ⟨[], u, joinText_text_of_text h u, by simp [sourceText, Node.source]⟩
    · by_cases hm : m.isStructured = true
      · have hhead : ∀ k ∈ (joinText nodes).head?, k.isStructured = true := by
          rintro k hk
          rw [h] at hk
          exact Option.some_inj.1 hk ▸ hm
        exact ⟨.text u :: m :: before, [], by rw [joinText_text_of_structured hhead, h]; rfl, by simp [sourceText]⟩
      · obtain ⟨v, rfl⟩ := Node.eq_text_of_not_structured hm
        exact ⟨.text (u ++ v) :: before, [], joinText_text_of_text h u, by simp [sourceText, Node.source]⟩

/-- A text to be joined is part of a joined text, which has it at the same place. -/
theorem exists_text_of_joinText (before after : List Node) (t : Text) :
    ∃ before' lead trail after',
      joinText (before ++ .text t :: after) = before' ++ .text (lead ++ t ++ trail) :: after' ∧
        sourceText before' ++ lead = sourceText before := by
  -- the text is first joined to what follows it, and then with each text in front of it
  induction before with
  | nil =>
    rcases joinText_head_cases after with ⟨u, rest, h⟩ | h
    · exact ⟨[], [], u, rest, joinText_text_of_text h t, rfl⟩
    · exact ⟨[], [], [], joinText after, by simpa using joinText_text_of_structured h t, rfl⟩
  | cons n before ih =>
    obtain ⟨before', lead, trail, after', heq, hsource⟩ := ih
    obtain ⟨before'', lead', hjoin, hsource'⟩ := joinText_cons_of_text heq n
    refine ⟨before'', lead' ++ lead, trail, after', by simpa using hjoin, ?_⟩
    rw [← List.append_assoc, hsource', List.append_assoc, hsource]
    rfl

/-! ### Nodes of spans -/

variable {decode : Decoder} {reserved : List Text}

theorem Tag.source_toNode (g : Tag) (source : Text) : (g.toNode decode source).source = source := by
  rw [Tag.toNode]
  split <;> rfl

theorem Tag.isStructured_toNode (g : Tag) (source : Text) : (g.toNode decode source).isStructured = true := by
  rw [Tag.toNode]
  split <;> rfl

theorem Span.source_toNode (s : Span) : (s.toNode decode reserved).source = s.source := by
  cases s with
  | plain t => rfl
  | tag g source =>
    rw [Span.toNode]
    split
    · rfl
    · exact g.source_toNode source

theorem Span.exists_tag_of_isStructured {s : Span} (h : (s.toNode decode reserved).isStructured = true) :
    ∃ g source, s = .tag g source := by
  cases s with
  | plain t => cases h
  | tag g source => exact ⟨g, source, rfl⟩

theorem sourceText_map_toNode (spans : List Span) :
    sourceText (spans.map (Span.toNode decode reserved)) = spans.flatMap Span.source := by
  simp only [sourceText, List.flatMap_map, Span.source_toNode]

/-- It makes no difference whether plain text is joined as spans first. -/
theorem joinText_map_joinPlain (spans : List Span) :
    joinText ((joinPlain spans).map (Span.toNode decode reserved)) =
      joinText (spans.map (Span.toNode decode reserved)) := by
  induction spans with
  | nil => rfl
  | cons s spans ih =>
    cases s with
    | tag g source => exact joinText_cons_congr ih _
    | plain t =>
      rw [joinPlain]
      split
      · rename_i u rest heq
        rw [heq] at ih
        rw [List.map_cons, Span.toNode, ← joinText_text_text]
        exact joinText_cons_congr ih (.text t)
      · exact joinText_cons_congr ih (.text t)

/-- The nodes of a document are the joined nodes of the spans that the scanner reads. -/
theorem parseNodes_eq_joinText (decode : Decoder) (reserved : List Text) (t : Text) :
    parseNodes decode reserved t = joinText ((readSpans t).map (Span.toNode decode reserved)) := by
  have hspans : (scan t).map (fun c => c.span.toNode decode reserved) =
      (joinPlain (readSpans t)).map (Span.toNode decode reserved) := by
    conv_rhs => rw [← place_spans 0 (joinPlain (readSpans t)), List.map_map]
    rfl
  rw [parseNodes, hspans, joinText_map_joinPlain]

end TagDoc

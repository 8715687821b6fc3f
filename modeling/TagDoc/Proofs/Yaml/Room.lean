import TagDoc.Yaml.Load

/-!
# Room for collections

Collections that stand in each other are read by calls in calls, for which there is room to a limit. Of all that is known at
some place of the tokens only this limit is not given by the text, and nothing looks at it but the step into a collection,
which fails if no room is left. So a reader with more room reads the same, unless the other one has too little.

## Main definitions

* `Reader.widen`: a reader with more room
* `Read.Steady`: a step that gives the same with more room, unless it had too little

## Main results

* `Read.allSteady`: to read a node is steady
* `Yaml.load_add`: with more room the same is loaded, unless there was too little
-/

namespace TagDoc.Yaml

/-- The same place with more room. -/
def Reader.widen (extra : Nat) (r : Reader) : Reader := { r with room := r.room + extra }

namespace Read

variable {α β : Type} {x : Read α}

/-- With more room a step gives the same, and leaves as much more, unless it had too little. -/
def Steady (x : Read α) : Prop :=
  ∀ (r : Reader) (extra : Nat),
    x r = .error .tooDeep ∨ x (r.widen extra) = (x r).map fun a => (a.1, a.2.widen extra)

/-! ### Steps that are put together -/

theorem Steady.pure (a : α) : Steady (pure a) := fun _ _ => .inr rfl

theorem Steady.throw (fault : Fault) : Steady (throw fault : Read α) := fun _ _ => .inr rfl

theorem Steady.bind {f : α → Read β} (hx : Steady x) (hf : ∀ a, Steady (f a)) : Steady (x >>= f) := by
  intro r extra
  have hbind (r : Reader) : (x >>= f) r = (x r).bind fun a => f a.1 a.2 := rfl
  rw [hbind, hbind]
  rcases hx r extra with hdeep | hsame
  · left
    rw [hdeep]
    rfl
  · rw [hsame]
    cases hr : x r with
    | error fault => exact .inr rfl
    | ok a => exact hf a.1 a.2 extra

theorem Steady.ite {p : Prop} [Decidable p] {y : Read α} (hx : Steady x) (hy : Steady y) :
    Steady (if p then x else y) := by
  split
  · exact hx
  · exact hy

theorem Steady.discard (hx : Steady x) : Steady (discard x) := hx.bind fun _ => .pure ()

theorem Steady.mapM {f : α → Read β} (hf : ∀ a, Steady (f a)) (o : Option α) : Steady (o.mapM f) := by
  cases o with
  | none => exact .pure none
  | some a => exact (hf a).bind fun b => .pure (some b)

/-- A step that looks at what is known, but not at the room. -/
theorem Steady.get {f : Reader → Read α} (hf : ∀ r, Steady (f r)) (hsame : ∀ r extra, f (r.widen extra) = f r) :
    Steady (do f (← get)) := by
  intro r extra
  have hget (r : Reader) : (do f (← MonadState.get) : Read α) r = f r r := rfl
  rw [hget, hget, hsame]
  exact hf r r extra

theorem steady_modify {f : Reader → Reader} (hf : ∀ r extra, f (r.widen extra) = (f r).widen extra) :
    Steady (modify f) := by
  intro r extra
  have hmodify (r : Reader) : (modify f : Read Unit) r = .ok ((), f r) := rfl
  rw [hmodify, hmodify, hf]
  exact .inr rfl

/-- What a step into a collection comes to. -/
theorem inside_eq (x : Read α) (r : Reader) :
    inside x r = if r.room = 0 then .error .tooDeep
      else (x { r with room := r.room - 1 }).map fun a => (a.1, { a.2 with room := r.room }) := by
  have hget : inside x r = (do
      if r.room = 0 then throw .tooDeep
      modify fun r' => { r' with room := r.room - 1 }
      let a ← x
      modify fun r' => { r' with room := r.room }
      return a : Read α) r := rfl
  rw [hget]
  by_cases hroom : r.room = 0
  · rw [if_pos hroom, if_pos hroom]
    rfl
  · rw [if_neg hroom, if_neg hroom]
    have hcontent : (do
        modify fun r' => { r' with room := r.room - 1 }
        let a ← x
        modify fun r' => { r' with room := r.room }
        return a : Read α) r =
          (x { r with room := r.room - 1 }).bind fun a => .ok (a.1, { a.2 with room := r.room }) := rfl
    refine hcontent.trans ?_
    cases x { r with room := r.room - 1 } <;> rfl

/-- The one step that looks at the room. -/
theorem Steady.inside (hx : Steady x) : Steady (inside x) := by
  intro r extra
  rw [inside_eq, inside_eq]
  by_cases hroom : r.room = 0
  · exact .inl (if_pos hroom)
  · have hwide : (r.widen extra).room ≠ 0 := fun hzero => hroom (Nat.eq_zero_of_add_eq_zero_right hzero)
    have hless : { r.widen extra with room := (r.widen extra).room - 1 } =
        { r with room := r.room - 1 }.widen extra := by
      have hadd : r.room + extra - 1 = r.room - 1 + extra := by omega
      simp only [Reader.widen, hadd]
    rw [if_neg hroom, if_neg hwide, hless]
    rcases hx { r with room := r.room - 1 } extra with hdeep | hsame
    · left
      rw [hdeep]
      rfl
    · right
      rw [hsame]
      cases x { r with room := r.room - 1 } <;> rfl

/-! ### Single tokens, tags and names -/

theorem steady_peek : Steady peek := by
  refine .get (fun r => ?_) fun _ _ => rfl
  split
  · exact .pure _
  · exact .throw _

theorem steady_kind : Steady kind := steady_peek.bind fun _ => .pure _

theorem steady_next : Steady next :=
  steady_peek.bind fun _ => (steady_modify fun _ _ => rfl).bind fun _ => .pure _

theorem steady_takeIf (k : TokenKind) : Steady (takeIf k) :=
  steady_kind.bind fun _ => .ite (steady_next.discard.bind fun _ => .pure true) (.pure false)

theorem steady_isOneOf (ks : List TokenKind) : Steady (isOneOf ks) := steady_kind.bind fun _ => .pure _

theorem steady_emptyNode : Steady emptyNode := steady_peek.bind fun _ => .pure _

theorem steady_takeAnchor? : Steady takeAnchor? := by
  refine steady_peek.bind fun t => ?_
  split
  · exact steady_next.discard.bind fun _ => .pure _
  · exact .pure none

theorem steady_takeTag? : Steady takeTag? := by
  refine steady_peek.bind fun t => ?_
  split
  · exact steady_next.discard.bind fun _ => .pure _
  · exact .pure none

theorem steady_properties : Steady properties := by
  refine steady_takeAnchor?.bind fun anchor => ?_
  split
  · exact steady_takeTag?.bind fun _ => .pure _
  · refine steady_takeTag?.bind fun tag => ?_
    split
    · exact steady_takeAnchor?.bind fun _ => .pure _
    · exact .pure _

theorem steady_tagName (tag : TagText) : Steady (tagName tag) := by
  unfold tagName
  split
  · exact .pure _
  · refine .get (fun r => ?_) fun _ _ => rfl
    split
    · exact .pure _
    · exact .throw _

theorem steady_checkName (anchor : Option Text) : Steady (checkName anchor) := by
  cases anchor with
  | none => exact .pure ()
  | some name => exact .get (fun r => .ite (.throw _) (.pure ())) fun _ _ => rfl

theorem steady_define (anchor : Option Text) (n : Node) : Steady (define anchor n) := by
  cases anchor with
  | none => exact .pure ()
  | some name => exact steady_modify fun _ _ => rfl

theorem steady_resolve (name : Text) : Steady (resolve name) := by
  refine .get (fun r => ?_) fun _ _ => rfl
  split
  · exact .pure _
  · exact .throw _

/-! ### Nodes -/

theorem Steady.collection {content : Read Node} (p : Properties) (within : Node) (hcontent : Steady content) :
    Steady (collection p within content) :=
  (steady_checkName p.anchor).bind fun _ => (steady_define p.anchor within).bind fun _ =>
    hcontent.inside.bind fun n => (steady_define p.anchor n).bind fun _ => .pure n

theorem Steady.sequence {items : Read (List Node)} (p : Properties) (tag : Option Text) (start : Mark)
    (hitems : Steady items) : Steady (sequence p tag start items) :=
  .collection p _ (hitems.bind fun _ => .pure _)

theorem Steady.mapping {entries : Read (List (Node × Node))} (p : Properties) (tag : Option Text) (start : Mark)
    (hentries : Steady entries) : Steady (mapping p tag start entries) :=
  .collection p _ (hentries.bind fun _ => .pure _)

/-- What comes behind a comma, which the first item does without. -/
theorem Steady.separated {rest : Unit → Read α} (first : Bool) (reason : String) (hrest : ∀ u, Steady (rest u)) :
    Steady (do
      if !first then
        if !(← takeIf .flowEntry) then fail reason
      rest ()) :=
  .ite ((steady_takeIf _).bind fun _ => .ite ((Steady.throw _).bind fun _ => hrest ()) (hrest ())) (hrest ())

/-- The functions that read nodes are steady with some fuel. -/
structure AllSteady (fuel : Nat) : Prop where
  node : ∀ place, Steady (node fuel place)
  nodeUnless : ∀ place ends, Steady (nodeUnless fuel place ends)
  blockItems : Steady (blockItems fuel)
  plainItems : Steady (plainItems fuel)
  blockEntries : Steady (blockEntries fuel)
  flowItems : ∀ first, Steady (flowItems fuel first)
  flowEntries : ∀ first, Steady (flowEntries fuel first)

namespace AllSteady

variable {fuel : Nat}

theorem zero : AllSteady 0 where
  node place := by
    rw [Read.node]
    exact .throw _
  nodeUnless place ends := by
    rw [Read.nodeUnless]
    exact .throw _
  blockItems := by
    rw [Read.blockItems]
    exact .throw _
  plainItems := by
    rw [Read.plainItems]
    exact .throw _
  blockEntries := by
    rw [Read.blockEntries]
    exact .throw _
  flowItems first := by
    rw [Read.flowItems]
    exact .throw _
  flowEntries first := by
    rw [Read.flowEntries]
    exact .throw _

/-- What comes behind the value of an entry. -/
theorem value {rest : Node → Read α} (h : AllSteady fuel) (place : Place) (ends : List TokenKind)
    (hrest : ∀ n, Steady (rest n)) :
    Steady (do
      let n ← if ← takeIf .value then Read.nodeUnless fuel place ends else emptyNode
      rest n) :=
  (steady_takeIf _).bind fun _ =>
    .ite ((h.nodeUnless place ends).bind fun _ => hrest _) (steady_emptyNode.bind fun _ => hrest _)

theorem node_succ (h : AllSteady fuel) (place : Place) : Steady (Read.node (fuel + 1) place) := by
  unfold Read.node
  refine steady_peek.bind fun t => ?_
  split
  · exact steady_next.discard.bind fun _ => steady_resolve _
  · refine steady_properties.bind fun p => (Steady.mapM steady_tagName p.tag).bind fun tag => steady_peek.bind fun t => ?_
    dsimp only
    split
    · exact steady_next.discard.bind fun _ => (steady_checkName _).bind fun _ =>
        (steady_define _ _).bind fun _ => .pure _
    · exact steady_next.discard.bind fun _ => .sequence _ _ _ (h.flowItems true)
    · exact steady_next.discard.bind fun _ => .mapping _ _ _ (h.flowEntries true)
    · refine .ite (.sequence _ _ _ h.plainItems) (.ite ?_ (.ite ?_ (.ite ?_ (.throw _))))
      · exact steady_next.discard.bind fun _ => .sequence _ _ _ h.blockItems
      · exact steady_next.discard.bind fun _ => .mapping _ _ _ h.blockEntries
      · exact (steady_checkName _).bind fun _ => (steady_define _ _).bind fun _ => .pure _

theorem nodeUnless_succ (h : AllSteady fuel) (place : Place) (ends : List TokenKind) :
    Steady (Read.nodeUnless (fuel + 1) place ends) := by
  unfold Read.nodeUnless
  exact (steady_isOneOf ends).bind fun _ => .ite steady_emptyNode (h.node place)

theorem blockItems_succ (h : AllSteady fuel) : Steady (Read.blockItems (fuel + 1)) := by
  unfold Read.blockItems
  refine (steady_takeIf _).bind fun _ => .ite ?_ ((steady_takeIf _).bind fun _ => .ite (.pure []) (.throw _))
  exact (h.nodeUnless _ _).bind fun _ => h.blockItems.bind fun _ => .pure _

theorem plainItems_succ (h : AllSteady fuel) : Steady (Read.plainItems (fuel + 1)) := by
  unfold Read.plainItems
  refine (steady_takeIf _).bind fun _ => .ite ?_ (.pure [])
  exact (h.nodeUnless _ _).bind fun _ => h.plainItems.bind fun _ => .pure _

theorem blockEntries_succ (h : AllSteady fuel) : Steady (Read.blockEntries (fuel + 1)) := by
  unfold Read.blockEntries
  refine (steady_takeIf _).bind fun _ => .ite ?_ ((steady_takeIf _).bind fun _ => .ite (.pure []) (.throw _))
  exact (h.nodeUnless _ _).bind fun _ => h.value _ _ fun _ => h.blockEntries.bind fun _ => .pure _

theorem flowItems_succ (h : AllSteady fuel) (first : Bool) : Steady (Read.flowItems (fuel + 1) first) := by
  unfold Read.flowItems
  refine (steady_takeIf _).bind fun _ => .ite (.pure []) (.separated first _ fun _ => steady_kind.bind fun _ => ?_)
  refine .ite (steady_next.bind fun _ => ?_) ((steady_takeIf _).bind fun _ => .ite (.pure []) ?_)
  · -- An item with a sign for a key is a mapping of its own, so this is a step into a collection.
    refine (Steady.inside ?_).bind fun _ => (h.flowItems false).bind fun _ => .pure _
    exact (h.nodeUnless _ _).bind fun _ => h.value _ _ fun _ => .pure _
  · exact (h.node _).bind fun _ => (h.flowItems false).bind fun _ => .pure _

theorem flowEntries_succ (h : AllSteady fuel) (first : Bool) : Steady (Read.flowEntries (fuel + 1) first) := by
  unfold Read.flowEntries
  refine (steady_takeIf _).bind fun _ => .ite (.pure []) (.separated first _ fun _ => (steady_takeIf _).bind fun _ => ?_)
  refine .ite ?_ ((steady_takeIf _).bind fun _ => .ite (.pure []) ?_)
  · exact (h.nodeUnless _ _).bind fun _ => h.value _ _ fun _ => (h.flowEntries false).bind fun _ => .pure _
  · exact (h.node _).bind fun _ => steady_emptyNode.bind fun _ => (h.flowEntries false).bind fun _ => .pure _

end AllSteady

/-- To read nodes is steady, as each step but the one into a collection is. -/
theorem allSteady (fuel : Nat) : AllSteady fuel := by
  induction fuel with
  | zero => exact .zero
  | succ fuel h =>
    exact ⟨h.node_succ, h.nodeUnless_succ, h.blockItems_succ, h.plainItems_succ, h.blockEntries_succ, h.flowItems_succ,
      h.flowEntries_succ⟩

/-! ### Documents -/

theorem steady_directives (versionSeen : Bool) (fuel : Nat) : Steady (directives versionSeen fuel) := by
  induction fuel generalizing versionSeen with
  | zero => exact .pure ()
  | succ fuel ih =>
    unfold directives
    refine steady_peek.bind fun t => ?_
    split
    · refine steady_next.discard.bind fun _ => .ite ((Steady.throw _).bind fun _ => ?_) ?_
      all_goals exact .ite ((Steady.throw _).bind fun _ => ih true) (ih true)
    · refine steady_next.discard.bind fun _ => .get (fun r => ?_) fun _ _ => rfl
      have hrest (handle : Text × Text) : Steady (do
          modify fun r => { r with handles := handle :: r.handles }
          directives versionSeen fuel) :=
        (steady_modify fun _ _ => rfl).bind fun _ => ih versionSeen
      exact .ite ((Steady.throw _).bind fun _ => hrest _) (hrest _)
    · exact steady_next.discard.bind fun _ => ih versionSeen
    · exact .pure ()

theorem steady_skipDocumentEnds (fuel : Nat) : Steady (skipDocumentEnds fuel) := by
  induction fuel with
  | zero => exact .pure ()
  | succ fuel ih => exact (steady_takeIf _).bind fun _ => .ite ih (.pure ())

theorem steady_documentHead (fuel : Nat) : Steady (documentHead fuel) := by
  refine (steady_skipDocumentEnds fuel).bind fun _ => steady_kind.bind fun _ => .ite (.pure false) ?_
  refine (steady_modify fun _ _ => rfl).bind fun _ => (steady_directives false fuel).bind fun _ => ?_
  exact (steady_modify fun _ _ => rfl).bind fun _ => (steady_takeIf _).bind fun _ => .ite (.pure true) (.throw _)

theorem steady_document (fuel : Nat) : Steady (document fuel) := by
  have hend (root : Node) : Steady (do
      discard (takeIf .documentEnd)
      if ← documentHead fuel then throw (.stage .names "expected a single document in the stream")
      return some root) :=
    (steady_takeIf _).discard.bind fun _ => (steady_documentHead fuel).bind fun _ =>
      .ite ((Steady.throw _).bind fun _ => .pure _) (.pure _)
  have hroot (hasHead isThere : Bool) : Steady (do
      if !isThere then return none
      let second ← kind
      let isEmpty := hasHead && (isDirective second || [.documentStart, .documentEnd, .streamEnd].contains second)
      let root ← if isEmpty then emptyNode else node fuel .block
      discard (takeIf .documentEnd)
      if ← documentHead fuel then throw (.stage .names "expected a single document in the stream")
      return some root) :=
    .ite (.pure none) (steady_kind.bind fun _ =>
      .ite (steady_emptyNode.bind fun _ => hend _) (((allSteady fuel).node .block).bind fun _ => hend _))
  exact steady_kind.bind fun _ =>
    .ite ((steady_documentHead fuel).bind fun _ => hroot _ _) ((Steady.pure true).bind fun _ => hroot _ _)

end Read

theorem Node.ofTokens?_add (depth extra : Nat) (stream : TokenStream) :
    ofTokens? depth stream = .error .tooDeep ∨ ofTokens? (depth + extra) stream = ofTokens? depth stream := by
  have hrun (n : Nat) : ofTokens? n stream =
      (Read.document (4 * stream.tokens.length + 8) ⟨stream, Read.standardHandles, [], n⟩).map (·.1) := rfl
  rw [hrun, hrun]
  rcases Read.steady_document (4 * stream.tokens.length + 8) ⟨stream, Read.standardHandles, [], depth⟩ extra with
    hdeep | hsame
  · rw [hdeep]
    exact .inl rfl
  · right
    rw [Reader.widen] at hsame
    rw [hsame]
    cases Read.document (4 * stream.tokens.length + 8) ⟨stream, Read.standardHandles, [], depth⟩ <;> rfl

variable {t : Text}

theorem load_of_not_allowed (arrange : List Value → List Value) (depth : Nat) (h : t.all isAllowed = false) :
    load arrange depth t = .error (.stage .characters "special characters are not allowed") := by
  rw [load, h]
  rfl

/-- With more room the same is loaded, unless there was too little. -/
theorem load_add (arrange : List Value → List Value) (depth extra : Nat) (t : Text) :
    load arrange depth t = .error .tooDeep ∨ load arrange (depth + extra) t = load arrange depth t := by
  cases hallowed : t.all isAllowed with
  | false =>
    rw [load_of_not_allowed arrange _ hallowed, load_of_not_allowed arrange _ hallowed]
    exact .inr rfl
  | true =>
    simp only [load, hallowed, Bool.not_true, Bool.false_eq_true, if_false]
    rcases Node.ofTokens?_add depth extra (.ofText t) with hdeep | hsame
    · left
      rw [hdeep]
      rfl
    · right
      rw [hsame]

end TagDoc.Yaml

import TagDoc.Proofs.Route.Tree

/-!
# Numbers are a matter of siblings

A route is free or taken among all routes of a document. But routes that are the same have the same last component, and
go on where the same route ends. Different headings have different routes, and none has the lead for its route, so that
the two routes that end there are those of one parent, or both have none. So only a heading with the same parent can take
the route that another one asks for, and the number that a heading gets depends on the earlier headings with its parent.

## Main results

* `routeUnder_inj`: what a route goes on from, and its last component
* `Routing.Reached.route_eq_routeUnder_iff`: which headings have a route that goes on from a parent
* `assignRoutes_number_siblings`: the last component of a route is the first that no earlier sibling has
-/

namespace TagDoc

open Text Routing

variable {lead base part part' route : Text} {parent parent' : Option Text} {hs : List Heading} {r : Routing}
  {h : Heading}

/-! ### Routes taken apart -/

theorem lastComponent_routeUnder (hpart : '/' ∉ part) (lead : Text) (parent : Option Text) :
    lastComponent (routeUnder lead parent part) = part := by
  cases parent with
  | none =>
    rw [← join_singleton]
    exact lastComponent_join hpart lead []
  | some route =>
    rw [routeUnder, List.append_cons]
    exact lastComponent_append (by simp) hpart

theorem not_mem_lastComponent (route : Text) : '/' ∉ lastComponent route := by
  intro hmem
  have hchar := List.mem_takeWhile_imp (List.mem_reverse.1 hmem)
  simp at hchar

/-- A route that goes on where another ends is not one that goes on where the lead ends, unless that other one is the
lead. -/
theorem routeUnder_some_ne_none (hroute : lead ≠ [] → route ≠ lead) :
    routeUnder lead (some route) part ≠ routeUnder lead none part := by
  intro heq
  rw [routeUnder, routeUnder] at heq
  split at heq
  · -- without a lead, only the first of the two has a slash before its last part
    have hlen := congrArg List.length heq
    simp at hlen
    omega
  · rename_i hlead
    exact hroute hlead (List.append_cancel_right heq)

/-- Routes that are the same go on from the same parent, with the same part. -/
theorem routeUnder_inj (hparent : ∀ route ∈ parent, lead ≠ [] → route ≠ lead)
    (hparent' : ∀ route ∈ parent', lead ≠ [] → route ≠ lead) (hpart : '/' ∉ part) (hpart' : '/' ∉ part')
    (heq : routeUnder lead parent part = routeUnder lead parent' part') : parent = parent' ∧ part = part' := by
  -- the part is what stands behind the last slash, and can be cut off on both sides
  obtain rfl : part = part' := by
    rw [← lastComponent_routeUnder hpart lead parent, heq, lastComponent_routeUnder hpart' lead parent']
  refine ⟨?_, rfl⟩
  cases parent with
  | none =>
    cases parent' with
    | none => rfl
    | some route => exact absurd heq.symm (routeUnder_some_ne_none (hparent' route rfl))
  | some route =>
    cases parent' with
    | none => exact absurd heq (routeUnder_some_ne_none (hparent route rfl))
    | some route' => exact congrArg some (List.append_cancel_right heq)

/-- A number behind the part is a number behind the route. -/
theorem candidate_routeUnder (lead : Text) (parent : Option Text) (part : Text) (n : Nat) :
    candidate (routeUnder lead parent part) n = routeUnder lead parent (candidate part n) := by
  cases n with
  | zero => rfl
  | succ n =>
    cases parent with
    | none =>
      rw [routeUnder, routeUnder]
      split <;> simp [numbered]
    | some route => simp [routeUnder, numbered]

theorem isSlug_candidate (hbase : IsSlug base) (n : Nat) : IsSlug (candidate base n) := by
  cases n with
  | zero => exact hbase
  | succ n => exact hbase.append (isSlugWord_ofNat (n + 1))

theorem IsRoute.ne_lead (hroute : IsRoute lead route) (hlead : lead ≠ []) : route ≠ lead := by
  obtain ⟨parts, -, -, rfl⟩ := hroute
  intro heq
  have hlen := congrArg List.length heq
  simp [hlead] at hlen

/-! ### Routes of a run -/

theorem Routing.Reached.taken_eq (hr : Reached lead hs r) : r.taken = (hs.map Heading.route).reverse := by
  induction hr with
  | start => rfl
  | next earlier hroute ih => simp [taken_assign, ih, hroute]

theorem Routing.Reached.nodup_taken (hr : Reached lead hs r) : r.taken.Nodup := by
  induction hr with
  | start => exact List.nodup_nil
  | @next hs r h earlier hroute ih =>
    rw [taken_assign]
    exact List.nodup_cons.2 ⟨r.assign_fst_not_mem lead h, ih⟩

theorem Routing.Reached.sound (hr : Reached lead hs r) : r.Sound := by
  induction hr with
  | start => exact sound_empty
  | next earlier hroute ih => exact ih.assign lead _

/-- Different headings have different routes. -/
theorem Routing.Reached.route_injective (hr : Reached lead hs r) : Function.Injective (Heading.route ∘ hs.get) := by
  have hroutes := List.nodup_reverse.1 (hr.taken_eq ▸ hr.nodup_taken)
  rw [← List.nodup_ofFn, ← List.map_ofFn, List.ofFn_get]
  exact hroutes

/-- The lead is not the route of a parent. -/
theorem Routing.Reached.parent_ne_lead (hr : Reached lead hs r) (i : Fin hs.length) :
    ∀ route ∈ ((parent? hs i).map hs.get).map Heading.route, lead ≠ [] → route ≠ lead := by
  intro route hroute
  rw [Option.map_map] at hroute
  obtain ⟨j, -, rfl⟩ := Option.mem_map.1 hroute
  obtain ⟨r', hr', hassigned⟩ := hr.exists_step j
  have hshape := hr'.sound.isRoute_assign lead (hs.get j)
  rw [← hassigned] at hshape
  exact hshape.ne_lead

/-- Every route goes on from that of the parent with its last component. -/
theorem Routing.Reached.route_eq (hr : Reached lead hs r) (i : Fin hs.length) :
    (hs.get i).route =
      routeUnder lead (((parent? hs i).map hs.get).map Heading.route) (lastComponent (hs.get i).route) := by
  obtain ⟨r', hr', hroute⟩ := hr.exists_step i
  calc
    (hs.get i).route = (r'.assign lead (hs.get i)).1 := hroute
    _ = routeUnder lead _ (r'.lastPart lead (hs.get i)) := hr'.assign_fst_eq (hs.get i)
    _ = routeUnder lead _ (lastComponent (hs.get i).route) := by
      rw [map_parent?, ← lastComponent_assign, ← hroute]

/-- What is taken when the turn of a heading comes are the routes of the headings before it. -/
theorem Routing.Reached.mem_taken_iff {i : Fin hs.length} (hr : Reached lead (hs.take i) r) :
    route ∈ r.taken ↔ ∃ j < i, (hs.get j).route = route := by
  simp only [hr.taken_eq, List.mem_reverse, List.mem_map, List.mem_take_iff_getElem]
  constructor
  · rintro ⟨h, ⟨j, hj, rfl⟩, rfl⟩
    have hji : j < i.val := by omega
    exact ⟨⟨j, by omega⟩, hji, rfl⟩
  · rintro ⟨j, hji, rfl⟩
    have hji : j.val < i.val := hji
    exact ⟨hs.get j, ⟨j, by omega, rfl⟩, rfl⟩

/-- Every route is the first for the slug of the heading that no earlier heading has. -/
theorem Routing.Reached.isFirstFree_route (hr : Reached lead hs r) (i : Fin hs.length) :
    IsFirstFree (fun route => ∃ j < i, (hs.get j).route = route)
      (routeUnder lead (((parent? hs i).map hs.get).map Heading.route) (headingSlug (hs.get i))) (hs.get i).route := by
  obtain ⟨r', hr', hroute⟩ := hr.exists_step i
  have hused : (fun route => ∃ j < i, (hs.get j).route = route) = (· ∈ r'.taken) := by
    funext route
    exact propext hr'.mem_taken_iff.symm
  rw [hused, map_parent?, hroute, ← hr'.wanted_eq]
  exact hr'.cached.isFirstFree_assign lead (hs.get i)

/-- A heading has a route that goes on from the parent of another just if it has the same parent. -/
theorem Routing.Reached.route_eq_routeUnder_iff (hr : Reached lead hs r) (hpart : '/' ∉ part) (i j : Fin hs.length) :
    (hs.get j).route = routeUnder lead (((parent? hs i).map hs.get).map Heading.route) part ↔
      parent? hs j = parent? hs i ∧ lastComponent (hs.get j).route = part := by
  constructor
  · intro heq
    rw [hr.route_eq j] at heq
    obtain ⟨hsame, hlast⟩ :=
      routeUnder_inj (hr.parent_ne_lead j) (hr.parent_ne_lead i) (not_mem_lastComponent _) hpart heq
    rw [Option.map_map, Option.map_map] at hsame
    exact ⟨Option.map_injective hr.route_injective hsame, hlast⟩
  · rintro ⟨hsame, rfl⟩
    rw [← hsame]
    exact hr.route_eq j

/-! ### Siblings -/

/-- The last component of every route is the first for the slug of the heading that no earlier sibling has. -/
theorem Routing.Reached.isFirstFree_lastComponent (hr : Reached lead hs r) (i : Fin hs.length) :
    IsFirstFree (fun part => ∃ j < i, parent? hs j = parent? hs i ∧ lastComponent (hs.get j).route = part)
      (headingSlug (hs.get i)) (lastComponent (hs.get i).route) := by
  have hslug (n : Nat) : '/' ∉ candidate (headingSlug (hs.get i)) n :=
    (isSlug_candidate (isSlug_headingSlug _) n).not_mem_slash
  obtain ⟨n, hname, hfree, hbefore⟩ := hr.isFirstFree_route i
  -- the routes that are tried are the parts that are tried, put behind the route of the parent
  rw [candidate_routeUnder] at hname
  simp only [candidate_routeUnder] at hbefore
  refine ⟨n, ?_, ?_, fun m hm => ?_⟩
  · rw [hname, lastComponent_routeUnder (hslug n)]
  · rintro ⟨j, hji, hsame, hlast⟩
    refine hfree ⟨j, hji, ?_⟩
    rw [hr.route_eq i]
    exact (hr.route_eq_routeUnder_iff (not_mem_lastComponent _) i j).2 ⟨hsame, hlast⟩
  · obtain ⟨j, hji, heq⟩ := hbefore m hm
    exact ⟨j, hji, (hr.route_eq_routeUnder_iff (hslug m) i j).1 heq⟩

/-- The last component of the route of a heading is the first of its slug and the slug with numbers from one on that is
not the last component of an earlier heading with the same parent. -/
theorem assignRoutes_number_siblings (lead : Text) (nodes : List Node) :
    (assignRoutes lead nodes).map Node.unrouted = nodes.map Node.unrouted ∧
      let hs := headings (assignRoutes lead nodes)
      ∀ i, IsFirstFree (fun part => ∃ j < i, parent? hs j = parent? hs i ∧ lastComponent (hs.get j).route = part)
        (headingSlug (hs.get i)) (lastComponent (hs.get i).route) := by
  obtain ⟨r, hr⟩ := exists_reached lead nodes
  exact ⟨map_unrouted_assignRoutesFrom lead _ nodes, hr.isFirstFree_lastComponent⟩

/-- Headings inside another one are numbered anew. -/
example :
    let heading (level : Nat) (value : String) : Node := .heading ⟨some value.toList, level, [], []⟩
    let nodes := [heading 1 "Usage", heading 2 "Options", heading 2 "Options", heading 1 "API", heading 2 "Options"]
    routes (assignRoutes [] nodes) =
      ["usage", "usage/options", "usage/options-1", "api", "api/options"].map (·.toList) := by
  decide +kernel

end TagDoc

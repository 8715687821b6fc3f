import TagDoc.Proofs.Route.Search

/-!
# Routes follow the tree of headings

The parent of a heading is the nearest heading before it that has a smaller level. The route of a heading goes on where
the route of its parent ends, with its number if it has one; a heading without a parent goes on where the lead ends.

A run does not keep the headings that are open. It keeps the last part of the route of each. The parts of those that
enclose a heading of some level, put together, are the route of the nearest heading of a smaller level: so it is at the
start, and a step keeps it so.

## Main definitions

* `headings`: the headings among nodes
* `parent?`, `nearest?`: the parent of a heading, and of one that is still to come
* `routeUnder`: a route that goes on where another ends
* `Routing.Reached`: what is known when some headings have got their routes

## Main results

* `Routing.Reached.exists_step`: a run up to some heading, and the step that gives it its route
* `Routing.Reached.join_parents`: the parts that are kept make up the route of the parent
* `assignRoutes_follow_parents`: every route follows from that of the parent
-/

namespace TagDoc

open Text

variable {lead part : Text} {hs before between : List Heading} {r : Routing} {h p : Heading} {level : Nat}

/-! ### Headings and their parents -/

/-- The heading that a node is, if it is one. -/
def Node.heading? : Node → Option Heading
  | heading h => some h
  | _ => none

/-- The headings among nodes, in order. -/
def headings (nodes : List Node) : List Heading := nodes.filterMap Node.heading?

/-- The place of the parent of a heading: the last place before it with a heading of a smaller level. -/
def parent? (hs : List Heading) (i : Fin hs.length) : Option (Fin hs.length) :=
  Fin.findRev? fun j => j < i && (hs.get j).level < (hs.get i).level

theorem parent?_eq_some_iff {i j : Fin hs.length} :
    parent? hs i = some j ↔
      j < i ∧ (hs.get j).level < (hs.get i).level ∧
        ∀ k, j < k → k < i → (hs.get i).level ≤ (hs.get k).level := by
  simp [parent?, and_assoc]

theorem parent?_eq_none_iff {i : Fin hs.length} :
    parent? hs i = none ↔ ∀ j < i, (hs.get i).level ≤ (hs.get j).level := by
  simp [parent?]

/-- The parent of a heading of some level that comes after others. -/
def nearest? (hs : List Heading) (level : Nat) : Option Heading := hs.reverse.find? (·.level < level)

theorem nearest?_concat (hs : List Heading) (h : Heading) (level : Nat) :
    nearest? (hs ++ [h]) level = if h.level < level then some h else nearest? hs level := by
  by_cases hlevel : h.level < level <;> simp [nearest?, hlevel]

theorem nearest?_eq_none (hbefore : ∀ h ∈ hs, level ≤ h.level) : nearest? hs level = none := by
  simpa [nearest?] using hbefore

theorem nearest?_append_cons (hlevel : p.level < level) (hbetween : ∀ h ∈ between, level ≤ h.level) :
    nearest? (before ++ p :: between) level = some p := by
  have hnone : between.reverse.find? (·.level < level) = none := nearest?_eq_none hbetween
  simp [nearest?, List.find?_append, hnone, hlevel]

/-- The parent of a heading is the one it would have if no other came after it. -/
theorem map_parent? (hs : List Heading) (i : Fin hs.length) :
    (parent? hs i).map hs.get = nearest? (hs.take i) (hs.get i).level := by
  cases hparent : parent? hs i with
  | none =>
    rw [parent?_eq_none_iff] at hparent
    refine (nearest?_eq_none fun h hmem => ?_).symm
    obtain ⟨j, hj, rfl⟩ := List.mem_take_iff_getElem.1 hmem
    have hji : j < i.val := by omega
    exact hparent ⟨j, by omega⟩ hji
  | some j =>
    obtain ⟨hlt, hlevel, hbetween⟩ := parent?_eq_some_iff.1 hparent
    have hlt : j.val < i.val := hlt
    -- the headings before this one are cut at the parent
    have hsplit : hs.take i = (hs.take i).take j ++ hs.get j :: (hs.take i).drop (j + 1) := by
      have hj : j.val < (hs.take i).length := by
        rw [List.length_take]
        omega
      have hget : (hs.take i)[j.val] = hs.get j := List.getElem_take
      rw [← hget, List.getElem_cons_drop, List.take_append_drop]
    rw [hsplit]
    refine (nearest?_append_cons hlevel fun h hmem => ?_).symm
    obtain ⟨k, hk, rfl⟩ := List.mem_drop_iff_getElem.1 hmem
    rw [List.length_take] at hk
    have hjk : j.val < j + 1 + k := by omega
    have hki : j + 1 + k < i.val := by omega
    rw [List.getElem_take]
    exact hbetween ⟨j + 1 + k, by omega⟩ hjk hki

/-! ### Routes that go on -/

/-- A route that goes on with one more part where the route of the parent ends, or where the lead ends if there is no
parent. -/
def routeUnder (lead : Text) (parent : Option Text) (part : Text) : Text :=
  match parent with
  | some route => route ++ '/' :: part
  | none => if lead = [] then part else lead ++ '/' :: part

theorem Routing.join_singleton (lead part : Text) : join lead [part] = routeUnder lead none part := by
  rw [join_eq (by simp), routeUnder]
  split <;> simp [Text.join]

theorem Routing.join_concat {parts : List Text} (hparts : parts ≠ []) (lead part : Text) :
    join lead (parts ++ [part]) = join lead parts ++ '/' :: part := by
  rw [join_eq (by simp), join_eq hparts, join_append hparts (by simp)]
  simp [Text.join]

namespace Routing

/-! ### One step -/

/-- What a heading closes is closed by one of a smaller level as well. -/
theorem dropWhile_enclosingFor (r : Routing) (hlevel : level ≤ h.level) :
    (r.enclosingFor h.level).dropWhile (level ≤ ·.1) = r.enclosingFor level := by
  rw [enclosingFor, enclosingFor]
  -- entries that the greater level closes go in both, and from the first that it leaves open nothing is done by it
  induction r.enclosing with
  | nil => rfl
  | cons entry entries ih =>
    by_cases hentry : h.level ≤ entry.1
    · have hentry' : level ≤ entry.1 := hlevel.trans hentry
      simpa [hentry, hentry'] using ih
    · simp [hentry]

/-- A heading takes the place of those of its level and of greater ones that are open. -/
theorem parents_assign (lead : Text) (r : Routing) (h : Heading) (level : Nat) :
    (r.assign lead h).2.parents level =
      if h.level < level then r.parents h.level ++ [r.lastPart lead h] else r.parents level := by
  rw [parents, enclosingFor, enclosing_assign]
  by_cases hlevel : h.level < level
  · rw [if_pos hlevel, List.dropWhile_cons_of_neg (by simpa using hlevel), List.reverse_cons, List.map_append]
    rfl
  · have hlevel := Nat.le_of_not_lt hlevel
    rw [if_neg hlevel.not_gt, List.dropWhile_cons_of_pos (by simpa using hlevel), dropWhile_enclosingFor r hlevel]
    rfl

/-- The last part of a route is the slug of the heading, or the slug with a number from one on. -/
theorem Cached.lastPart_eq (hr : r.Cached) (lead : Text) (h : Heading) :
    r.lastPart lead h = headingSlug h ∨ ∃ k, 1 ≤ k ∧ r.lastPart lead h = numbered (headingSlug h) k := by
  rw [lastPart]
  split
  · exact .inl rfl
  · rename_i n hn
    have hpos := (hr (r.wanted lead h)).1
    obtain ⟨-, hle, -, -⟩ := suffix?_eq_some hn
    exact .inr ⟨n, hpos.trans hle, rfl⟩

/-! ### A whole run -/

/-- `hs` are the headings that have got their routes so far, and `r` is what is known after them. -/
inductive Reached (lead : Text) : List Heading → Routing → Prop
  | start : Reached lead [] empty
  | next {hs : List Heading} {r : Routing} {h : Heading} (earlier : Reached lead hs r)
      (hroute : h.route = (r.assign lead h).1) : Reached lead (hs ++ [h]) (r.assign lead h).2

/-- A run reaches something after all headings. -/
theorem Reached.exists_run (hr : Reached lead hs r) (nodes : List Node) :
    ∃ r', Reached lead (hs ++ headings (assignRoutesFrom lead r nodes)) r' := by
  induction nodes generalizing hs r with
  | nil => exact ⟨r, by simpa [assignRoutesFrom, headings] using hr⟩
  | cons node nodes ih =>
    cases node with
    | heading h =>
      -- the route that a heading had before plays no part in the step
      have hnext : Reached lead (hs ++ [{ h with route := (r.assign lead h).1 }]) (r.assign lead h).2 := hr.next rfl
      have hheadings : headings (assignRoutesFrom lead r (.heading h :: nodes)) =
          { h with route := (r.assign lead h).1 } :: headings (assignRoutesFrom lead (r.assign lead h).2 nodes) := rfl
      obtain ⟨r', hr'⟩ := ih hnext
      rw [List.append_assoc, List.singleton_append, ← hheadings] at hr'
      exact ⟨r', hr'⟩
    | text t => exact ih hr
    | tag g => exact ih hr

theorem exists_reached (lead : Text) (nodes : List Node) :
    ∃ r, Reached lead (headings (assignRoutes lead nodes)) r := Reached.start.exists_run nodes

/-- A run can be taken up to any heading, and the next step gives that heading its route. -/
theorem Reached.exists_take (hr : Reached lead hs r) (i : Nat) (hi : i < hs.length) :
    ∃ r', Reached lead (hs.take i) r' ∧ hs[i].route = (r'.assign lead hs[i]).1 := by
  induction hr with
  | start => cases hi
  | @next hs r h earlier hroute ih =>
    -- a heading is among the earlier ones, or the last step is its own
    by_cases hlt : i < hs.length
    · obtain ⟨r', hr', hi'⟩ := ih hlt
      refine ⟨r', ?_, ?_⟩
      · rwa [List.take_append_of_le_length hlt.le]
      · simpa only [List.getElem_append_left hlt] using hi'
    · obtain rfl : i = hs.length := by
        simp at hi
        omega
      refine ⟨r, ?_, ?_⟩
      · simpa using earlier
      · simpa using hroute

theorem Reached.exists_step (hr : Reached lead hs r) (i : Fin hs.length) :
    ∃ r', Reached lead (hs.take i) r' ∧ (hs.get i).route = (r'.assign lead (hs.get i)).1 :=
  hr.exists_take i i.isLt

theorem Reached.cached (hr : Reached lead hs r) : r.Cached := by
  induction hr with
  | start => exact cached_empty
  | next earlier hroute ih => exact ih.assign lead _

/-- The parts that are kept for a heading to come make up the route of its parent. -/
theorem Reached.join_parents (hr : Reached lead hs r) (level : Nat) (part : Text) :
    join lead (r.parents level ++ [part]) = routeUnder lead ((nearest? hs level).map Heading.route) part := by
  induction hr with
  | start => exact join_singleton lead part
  | @next hs r h earlier hroute ih =>
    rw [parents_assign, nearest?_concat]
    by_cases hlevel : h.level < level
    · -- the heading is the parent, and its route is what the parts make up
      rw [if_pos hlevel, if_pos hlevel, join_concat (by simp), ← assign_fst, ← hroute]
      rfl
    · rw [if_neg hlevel, if_neg hlevel, ih]

/-- The route that a heading asks for goes on where that of its parent ends. -/
theorem Reached.wanted_eq (hr : Reached lead hs r) (h : Heading) :
    r.wanted lead h = routeUnder lead ((nearest? hs h.level).map Heading.route) (headingSlug h) :=
  hr.join_parents h.level (headingSlug h)

theorem Reached.assign_fst_eq (hr : Reached lead hs r) (h : Heading) :
    (r.assign lead h).1 = routeUnder lead ((nearest? hs h.level).map Heading.route) (r.lastPart lead h) := by
  rw [assign_fst, hr.join_parents]

end Routing

/-! ### The tree -/

open Routing

/-- The route of every heading is that of its parent, or the lead if it has none, with its slug behind it or its slug and
a number. Nothing but routes is assigned. -/
theorem assignRoutes_follow_parents (lead : Text) (nodes : List Node) :
    (assignRoutes lead nodes).map Node.unrouted = nodes.map Node.unrouted ∧
      let hs := headings (assignRoutes lead nodes)
      ∀ i, ∃ part, (part = headingSlug (hs.get i) ∨ ∃ k, 1 ≤ k ∧ part = numbered (headingSlug (hs.get i)) k) ∧
        (hs.get i).route = routeUnder lead (((parent? hs i).map hs.get).map Heading.route) part := by
  refine ⟨map_unrouted_assignRoutesFrom lead _ nodes, fun i => ?_⟩
  obtain ⟨_, hrun⟩ := exists_reached lead nodes
  obtain ⟨r, hr, hroute⟩ := hrun.exists_step i
  refine ⟨r.lastPart lead ((headings (assignRoutes lead nodes)).get i), hr.cached.lastPart_eq lead _, ?_⟩
  rw [map_parent?]
  exact hroute.trans (hr.assign_fst_eq _)

end TagDoc

import TagDoc.Proofs.Route.Distinct

/-!
# The lead of routes

The lead of a document only stands in front of its routes. Two runs over the same nodes, one with a lead and one without,
go side by side: what the first knows at some place is what the second knows there, with the lead in front of all routes
that are taken and of all routes for which a number is kept. As no two routes become one when the lead is put in front of
them, every question whether a route is taken is answered in the same way by both.

## Main definitions

* `behind`: a route behind a lead
* `Node.mapRoute`: a node with another route
* `Routing.under`: what is known at some place, when all routes there are put behind a lead

## Main results

* `Routing.suffix?_under`: both runs find the same number
* `Routing.assign_under`: a step of one run is a step of the other
* `assignRoutes_lead`: routes with a lead are the routes without one, behind the lead
-/

namespace TagDoc

open Text

variable {lead : Text}

/-- A route behind a lead, with a slash between them. -/
def behind (lead route : Text) : Text := lead ++ '/' :: route

theorem behind_injective (lead : Text) : Function.Injective (behind lead) := by
  intro route route' heq
  exact (List.cons.inj (List.append_cancel_left heq)).2

/-- A node with its route replaced; only headings have one. -/
def Node.mapRoute (f : Text → Text) : Node → Node
  | heading h => heading { h with route := f h.route }
  | n => n

namespace Routing

/-! ### Routes behind a lead -/

theorem numbered_behind (lead base : Text) (n : Nat) : numbered (behind lead base) n = behind lead (numbered base n) := by
  simp only [numbered, behind, List.append_assoc, List.cons_append]

theorem join_eq_behind (hlead : lead ≠ []) {parts : List Text} (hparts : parts ≠ []) :
    join lead parts = behind lead (join [] parts) := by
  rw [join_eq hparts, join_eq hparts, if_neg hlead, if_pos rfl, behind, List.append_assoc]
  rfl

theorem behind_mem_map_iff (lead route : Text) (taken : List Text) :
    behind lead route ∈ taken.map (behind lead) ↔ route ∈ taken :=
  List.mem_map_of_injective (behind_injective lead)

/-! ### One step of both runs -/

/-- What is known at some place, with the lead in front of all routes. The headings that are open keep the last parts of
their routes, where no lead stands. -/
def under (lead : Text) (r : Routing) : Routing :=
  ⟨r.enclosing, r.taken.map (behind lead), r.nextSuffix.map fun (base, n) => (behind lead base, n)⟩

theorem freeSuffix_behind (lead : Text) (taken : List Text) (base : Text) (fuel n : Nat) :
    freeSuffix (taken.map (behind lead)) (behind lead base) fuel n = freeSuffix taken base fuel n := by
  induction fuel generalizing n with
  | zero => rfl
  | succ fuel ih => simp only [freeSuffix, numbered_behind, behind_mem_map_iff, ih]

theorem lookup_behind (lead base : Text) (kept : List (Text × Nat)) :
    (kept.map fun (base, n) => (behind lead base, n)).lookup (behind lead base) = kept.lookup base := by
  induction kept with
  | nil => rfl
  | cons entry kept ih =>
    obtain ⟨base', n⟩ := entry
    have hsame : (behind lead base == behind lead base') = (base == base') := by
      rw [Bool.eq_iff_iff, beq_iff_eq, beq_iff_eq, (behind_injective lead).eq_iff]
    simp only [List.map_cons, List.lookup_cons, hsame, ih]

/-- A route with a lead is taken just if the route without it is, and both searches go on at the same number and pass
over the same ones. -/
theorem suffix?_under (lead : Text) (r : Routing) (base : Text) :
    (r.under lead).suffix? (behind lead base) = r.suffix? base := by
  simp only [suffix?, under, behind_mem_map_iff, List.length_map, lookup_behind, freeSuffix_behind]

/-- A step with a lead gives the route of the step without it, behind the lead. What is known after the one is, with the
lead, what is known after the other. -/
theorem assign_under (hlead : lead ≠ []) (r : Routing) (h : Heading) :
    (r.under lead).assign lead h = (behind lead (r.assign [] h).1, (r.assign [] h).2.under lead) := by
  have hparents : ((r.under lead).enclosingFor h.level).reverse.map (·.2) = r.parents h.level := rfl
  have hparents' : (r.enclosingFor h.level).reverse.map (·.2) = r.parents h.level := rfl
  have hjoin (part : Text) :
      join lead (r.parents h.level ++ [part]) = behind lead (join [] (r.parents h.level ++ [part])) :=
    join_eq_behind hlead (by simp)
  simp only [assign, hparents, hparents', hjoin, suffix?_under]
  -- the route asked for is free in both runs, or gets the same number in both
  cases r.suffix? (join [] (r.parents h.level ++ [headingSlug h])) with
  | none => rfl
  | some n => rfl

end Routing

/-! ### A whole run -/

theorem assignRoutesFrom_under (hlead : lead ≠ []) (r : Routing) (nodes : List Node) :
    assignRoutesFrom lead (r.under lead) nodes = (assignRoutesFrom [] r nodes).map (Node.mapRoute (behind lead)) := by
  -- on the nodes, for anything that may be known before them
  induction nodes generalizing r with
  | nil => rfl
  | cons node nodes ih =>
    cases node with
    | heading h =>
      have hlater := ih (r.assign [] h).2
      simp only [assignRoutesFrom, Routing.assign_under hlead, List.map_cons, hlater]
      rfl
    | text t => exact congrArg (_ :: ·) (ih r)
    | tag g => exact congrArg (_ :: ·) (ih r)

/-- A lead stands in front of every route that there is without it, with a slash behind it. Nothing else depends on the
lead, whatever characters it is made of. -/
theorem assignRoutes_lead (hlead : lead ≠ []) (nodes : List Node) :
    assignRoutes lead nodes = (assignRoutes [] nodes).map (Node.mapRoute fun route => lead ++ '/' :: route) :=
  assignRoutesFrom_under hlead .empty nodes

/-- The lead holds slashes, and ends like one of the routes that are put behind it. -/
theorem assignRoutes_lead_with_slashes :
    let lead := "/a/a-1".toList
    let heading (level : Nat) (value : String) : Node := .heading ⟨some value.toList, level, [], []⟩
    let nodes := [heading 1 "A", .text "x".toList, heading 2 "A", heading 2 "A", heading 2 "A 1", heading 1 "A"]
    lead ≠ [] ∧
      assignRoutes lead nodes = (assignRoutes [] nodes).map (Node.mapRoute fun route => lead ++ '/' :: route) ∧
      (assignRoutes lead nodes).filterMap Node.route? =
        ["/a/a-1/a", "/a/a-1/a/a", "/a/a-1/a/a-1", "/a/a-1/a/a-1-1", "/a/a-1/a-1"].map (·.toList) := by
  intro lead heading nodes
  have hlead : lead ≠ [] := by decide
  exact ⟨hlead, assignRoutes_lead hlead nodes, by decide +kernel⟩

end TagDoc

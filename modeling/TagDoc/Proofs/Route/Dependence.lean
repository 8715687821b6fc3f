import TagDoc.Proofs.Route.Tree

/-!
# What routes depend on

A run reads the level and the value of each heading and writes its route. It reads nothing else: neither the sources of
the headings, nor the routes that they had, nor the nodes between them. It never looks ahead, so that a document that
grows at its end keeps the routes it has.

## Main definitions

* `outline`: the levels and values of the headings among nodes
* `Node.Rerouted`: a node that is another but for its route
* `Routing.after`: what is known when some headings have got their routes

## Main results

* `Routing.assign_congr`: a step reads the level and the value of a heading
* `forall₂_rerouted`: a run keeps each node at its place, and changes its route at most
* `routes_eq_of_outline_eq`: the outline tells the routes
* `assignRoutesFrom_map_unrouted`: routes that are there play no part
* `assignRoutesFrom_append`: a run over nodes with others behind them
* `assignRoutes_stable`: all of this for a whole document
-/

namespace TagDoc

open Text

variable {lead : Text} {r : Routing} {h h' : Heading} {hs hs' : List Heading}

/-! ### What is read -/

/-- What a run reads of a heading. -/
def Heading.outlined (h : Heading) : Nat × Option Text := (h.level, h.value)

/-- The levels and values of the headings among nodes, in order. -/
def outline (nodes : List Node) : List (Nat × Option Text) := (headings nodes).map Heading.outlined

namespace Routing

/-- A step goes the same way for headings of one level and one value. -/
theorem assign_congr (lead : Text) (r : Routing) (heq : h.outlined = h'.outlined) :
    r.assign lead h = r.assign lead h' := by
  obtain ⟨hlevel, hvalue⟩ := Prod.mk.inj heq
  simp only [assign, headingSlug, hlevel, hvalue]

/-- The routes of headings, given what is known before them. -/
def routesFrom (lead : Text) (r : Routing) : List Heading → List Text
  | [] => []
  | h :: hs => (r.assign lead h).1 :: routesFrom lead (r.assign lead h).2 hs

theorem routesFrom_congr (lead : Text) (r : Routing) (heq : hs.map Heading.outlined = hs'.map Heading.outlined) :
    r.routesFrom lead hs = r.routesFrom lead hs' := by
  -- on the first headings, with the others taken apart alongside
  induction hs generalizing r hs' with
  | nil =>
    obtain rfl := List.map_eq_nil_iff.1 heq.symm
    rfl
  | cons h hs ih =>
    cases hs' with
    | nil => cases heq
    | cons h' hs' =>
      obtain ⟨hfirst, hlater⟩ := List.cons.inj heq
      rw [routesFrom, routesFrom, assign_congr lead r hfirst, ih _ hlater]

end Routing

/-- The nodes between headings play no part in the routes. -/
theorem routes_assignRoutesFrom (lead : Text) (r : Routing) (nodes : List Node) :
    routes (assignRoutesFrom lead r nodes) = r.routesFrom lead (headings nodes) := by
  induction nodes generalizing r with
  | nil => rfl
  | cons node nodes ih =>
    cases node with
    | heading h => exact congrArg (_ :: ·) (ih (r.assign lead h).2)
    | text t => exact ih r
    | tag g => exact ih r

/-- Nodes with one outline get the same routes. -/
theorem routes_eq_of_outline_eq (lead : Text) (r : Routing) {a b : List Node} (heq : outline a = outline b) :
    routes (assignRoutesFrom lead r a) = routes (assignRoutesFrom lead r b) := by
  rw [routes_assignRoutesFrom, routes_assignRoutesFrom, Routing.routesFrom_congr lead r heq]

/-- Routes that headings have before play no part. -/
theorem assignRoutesFrom_map_unrouted (lead : Text) (r : Routing) (nodes : List Node) :
    assignRoutesFrom lead r (nodes.map Node.unrouted) = assignRoutesFrom lead r nodes := by
  induction nodes generalizing r with
  | nil => rfl
  | cons node nodes ih =>
    cases node with
    | heading h =>
      -- the heading without its route is read in the same way, and its route is replaced all the same
      have hassign : r.assign lead { h with route := [] } = r.assign lead h := r.assign_congr lead rfl
      simp only [List.map_cons, Node.unrouted, assignRoutesFrom, hassign, ih]
    | text t => exact congrArg (_ :: ·) (ih r)
    | tag g => exact congrArg (_ :: ·) (ih r)

/-- Two runs give the same nodes just if they are given the same but for routes. -/
theorem assignRoutesFrom_eq_iff (lead : Text) (r : Routing) (a b : List Node) :
    assignRoutesFrom lead r a = assignRoutesFrom lead r b ↔ a.map Node.unrouted = b.map Node.unrouted := by
  constructor
  · intro heq
    rw [← map_unrouted_assignRoutesFrom lead r a, heq, map_unrouted_assignRoutesFrom]
  · intro heq
    rw [← assignRoutesFrom_map_unrouted lead r a, heq, assignRoutesFrom_map_unrouted]

/-! ### What is written -/

/-- A node and the same node after a run: of a heading the route may be another one, and all other nodes are the same. -/
inductive Node.Rerouted : Node → Node → Prop
  | text (t : Text) : Rerouted (text t) (text t)
  | tag (g : TagNode) : Rerouted (tag g) (tag g)
  | heading (h : Heading) (route : Text) : Rerouted (heading h) (heading { h with route })

/-- There are as many nodes after a run as before, in the same order, each changed in its route at most. -/
theorem forall₂_rerouted (lead : Text) (r : Routing) (nodes : List Node) :
    List.Forall₂ Node.Rerouted nodes (assignRoutesFrom lead r nodes) := by
  induction nodes generalizing r with
  | nil => exact .nil
  | cons node nodes ih =>
    cases node with
    | heading h => exact .cons (.heading h _) (ih (r.assign lead h).2)
    | text t => exact .cons (.text t) (ih r)
    | tag g => exact .cons (.tag g) (ih r)

/-! ### Nodes behind others -/

/-- What is known when headings have got their routes one after the other. -/
def Routing.after (lead : Text) (r : Routing) (hs : List Heading) : Routing :=
  hs.foldl (fun r h => (r.assign lead h).2) r

/-- Nodes get the routes that they get without those behind them, which go on with what is known then. -/
theorem assignRoutesFrom_append (lead : Text) (r : Routing) (a b : List Node) :
    assignRoutesFrom lead r (a ++ b) =
      assignRoutesFrom lead r a ++ assignRoutesFrom lead (r.after lead (headings a)) b := by
  induction a generalizing r with
  | nil => rfl
  | cons node a ih =>
    cases node with
    | heading h => exact congrArg (_ :: ·) (ih (r.assign lead h).2)
    | text t => exact congrArg (_ :: ·) (ih r)
    | tag g => exact congrArg (_ :: ·) (ih r)

/-! ### Documents -/

/-- A run changes routes and nothing else, and the routes follow from the levels and values of the headings. What routes
there were before makes no difference, and so a second run changes nothing. Nodes that are added at the end change no
route before them. -/
theorem assignRoutes_stable (lead : Text) (a b : List Node) :
    List.Forall₂ Node.Rerouted a (assignRoutes lead a) ∧
      (outline a = outline b → routes (assignRoutes lead a) = routes (assignRoutes lead b)) ∧
      (assignRoutes lead a = assignRoutes lead b ↔ a.map Node.unrouted = b.map Node.unrouted) ∧
      assignRoutes lead (assignRoutes lead a) = assignRoutes lead a ∧
      assignRoutes lead a <+: assignRoutes lead (a ++ b) := by
  refine ⟨forall₂_rerouted lead _ a, routes_eq_of_outline_eq lead _, assignRoutesFrom_eq_iff lead _ a b, ?_, ?_⟩
  · -- a run has given what it was given, but for routes
    exact (assignRoutesFrom_eq_iff lead _ _ a).2 (map_unrouted_assignRoutesFrom lead _ a)
  · exact ⟨_, (assignRoutesFrom_append lead _ a b).symm⟩

/-- Two documents have one outline, though their headings have other sources, one has a route, and other nodes stand
between them. The routes that both get are numbered among all headings, and a third heading does not change them. -/
theorem assignRoutes_stable_of_duplicates :
    let heading (value route raw : String) : Node := .heading ⟨some value.toList, 1, route.toList, raw.toList⟩
    let a := [heading "Use" "" "@# Use", .text "x".toList, heading "Use" "use" "@# Use", heading "Use 1" "" "@# Use 1"]
    let b := [heading "Use" "use-1" "@#  Use", heading "Use" "" "@# \x7b\x7d Use", heading "Use 1" "" "@# Use 1"]
    outline a = outline b ∧
      routes (assignRoutes [] a) = ["use", "use-1", "use-1-1"].map (·.toList) ∧
      routes (assignRoutes [] a) = routes (assignRoutes [] b) ∧
      assignRoutes [] (assignRoutes [] a) = assignRoutes [] a ∧
      assignRoutes [] a <+: assignRoutes [] (a ++ b) := by
  intro heading a b
  have houtline : outline a = outline b := by decide +kernel
  obtain ⟨-, hroutes, -, htwice, happend⟩ := assignRoutes_stable [] a b
  exact ⟨houtline, by decide +kernel, hroutes houtline, htwice, happend⟩

end TagDoc

import TagDoc.Proofs.Document.Source
import TagDoc.Proofs.Route.Step
import TagDoc.Proofs.Text.Slug

/-!
# Routes are distinct

The headings of a document get routes of which no two are the same. Each is made of slugs: a number behind a slug makes
a slug again, so that it does not matter how many of the headings that enclose another carry one.

## Main definitions

* `routes`: the routes of the headings among nodes
* `Node.unrouted`: a node without its route
* `IsRoute`: the form of a route

## Main results

* `map_unrouted_assignRoutesFrom`: nothing but routes is assigned
* `nodup_routes_assignRoutesFrom`, `isRoute_of_mem_routes`: the routes that a run assigns
* `assignRoutes_distinct`: routes of any nodes, and of the document of any file
-/

namespace TagDoc

open Text

variable {lead route part t : Text} {r : Routing} {h : Heading} {n : Nat} {c : Char}

/-! ### Headings and their routes -/

/-- The route of a node; only headings have one. -/
def Node.route? : Node → Option Text
  | heading h => some h.route
  | _ => none

/-- The routes of the headings among nodes, in order. -/
def routes (nodes : List Node) : List Text := nodes.filterMap Node.route?

/-- A node without its route. -/
def Node.unrouted : Node → Node
  | heading h => heading { h with route := [] }
  | n => n

/-- A route is the lead and a slash, unless the lead is empty, and then one slug or more with slashes between them. -/
def IsRoute (lead route : Text) : Prop :=
  ∃ parts, parts ≠ [] ∧ (∀ part ∈ parts, IsSlug part) ∧
    route = (if lead = [] then [] else lead ++ ['/']) ++ Text.join ['/'] parts

theorem IsRoute.ne_nil (h : IsRoute lead route) : route ≠ [] := by
  obtain ⟨parts, hne, hslugs, rfl⟩ := h
  intro hnil
  exact hne ((join_eq_nil_iff fun part hmem => (hslugs part hmem).ne_nil).1 (List.append_eq_nil_iff.1 hnil).2)

/-- A route without a lead can stand in an address as it is. -/
theorem IsRoute.of_mem (h : IsRoute [] route) (hc : c ∈ route) : c.isLower ∨ c.isDigit ∨ c = '-' ∨ c = '/' := by
  obtain ⟨parts, -, hslugs, rfl⟩ := h
  rcases mem_of_mem_join hc with hsep | ⟨part, hpart, hc⟩
  · exact .inr (.inr (.inr (List.mem_singleton.1 hsep)))
  · exact ((hslugs part hpart).of_mem hc).imp id (Or.imp id .inl)

/-! ### One step -/

theorem Text.isSlugWord_ofNat (n : Nat) : IsSlugWord (Text.ofNat n) :=
  ⟨Nat.toDigits_ne_nil, fun _ hc => .inr (Nat.isDigit_of_mem_toDigits (by decide) (by decide) hc)⟩

namespace Routing

theorem isSlug_headingSlug (h : Heading) : IsSlug (headingSlug h) := isSlug_slug (by decide) _

theorem isSlug_lastPart (lead : Text) (r : Routing) (h : Heading) : IsSlug (r.lastPart lead h) := by
  rcases lastPart_eq lead r h with hpart | ⟨n, hpart⟩
  · exact hpart ▸ isSlug_headingSlug h
  · exact hpart ▸ (isSlug_headingSlug h).append (isSlugWord_ofNat n)

/-- The open headings have slugs for the last parts of their routes. -/
def Sound (r : Routing) : Prop := ∀ entry ∈ r.enclosing, IsSlug entry.2

theorem sound_empty : empty.Sound := nofun

theorem Sound.of_mem_enclosingFor (hr : r.Sound) {level : Nat} {entry : Nat × Text}
    (hentry : entry ∈ r.enclosingFor level) : IsSlug entry.2 :=
  hr entry ((List.dropWhile_sublist _).subset hentry)

theorem Sound.assign (hr : r.Sound) (lead : Text) (h : Heading) : (r.assign lead h).2.Sound := by
  intro entry hentry
  rw [enclosing_assign] at hentry
  rcases List.mem_cons.1 hentry with rfl | hentry
  · exact isSlug_lastPart lead r h
  · exact hr.of_mem_enclosingFor hentry

theorem Sound.isRoute_assign (hr : r.Sound) (lead : Text) (h : Heading) : IsRoute lead (r.assign lead h).1 := by
  refine ⟨r.parents h.level ++ [r.lastPart lead h], by simp, ?_, ?_⟩
  · intro part hpart
    rcases List.mem_append.1 hpart with hparent | hlast
    · obtain ⟨entry, hentry, rfl⟩ := List.mem_map.1 hparent
      exact hr.of_mem_enclosingFor (List.mem_reverse.1 hentry)
    · exact List.mem_singleton.1 hlast ▸ isSlug_lastPart lead r h
  · rw [assign_fst, join_eq (by simp)]

end Routing

/-! ### A whole run -/

theorem map_unrouted_assignRoutesFrom (lead : Text) (r : Routing) (nodes : List Node) :
    (assignRoutesFrom lead r nodes).map Node.unrouted = nodes.map Node.unrouted := by
  induction nodes generalizing r with
  | nil => rfl
  | cons node nodes ih =>
    cases node with
    | heading h => exact congrArg (_ :: ·) (ih (r.assign lead h).2)
    | text t => exact congrArg (_ :: ·) (ih r)
    | tag g => exact congrArg (_ :: ·) (ih r)

/-- No two routes that a run assigns are the same, and none of them was taken before. -/
theorem nodup_routes_assignRoutesFrom (lead : Text) (r : Routing) (nodes : List Node) :
    (routes (assignRoutesFrom lead r nodes)).Nodup ∧
      ∀ route ∈ routes (assignRoutesFrom lead r nodes), route ∉ r.taken := by
  -- that later routes are not among those taken is what keeps the next route apart from them
  induction nodes generalizing r with
  | nil => exact ⟨List.nodup_nil, nofun⟩
  | cons node nodes ih =>
    cases node with
    | heading h =>
      obtain ⟨hnodup, hfree⟩ := ih (r.assign lead h).2
      have hroutes : routes (assignRoutesFrom lead r (.heading h :: nodes)) =
          (r.assign lead h).1 :: routes (assignRoutesFrom lead (r.assign lead h).2 nodes) := rfl
      simp only [Routing.taken_assign, List.mem_cons, not_or] at hfree
      rw [hroutes]
      refine ⟨List.nodup_cons.2 ⟨fun hmem => (hfree _ hmem).1 rfl, hnodup⟩, ?_⟩
      rw [List.forall_mem_cons]
      exact ⟨r.assign_fst_not_mem lead h, fun route hmem => (hfree route hmem).2⟩
    | text t => exact ih r
    | tag g => exact ih r

theorem isRoute_of_mem_routes (hr : r.Sound) {nodes : List Node}
    (hroute : route ∈ routes (assignRoutesFrom lead r nodes)) : IsRoute lead route := by
  induction nodes generalizing r with
  | nil => cases hroute
  | cons node nodes ih =>
    cases node with
    | heading h =>
      rcases List.mem_cons.1 hroute with rfl | hroute
      · exact hr.isRoute_assign lead h
      · exact ih (hr.assign lead h) hroute
    | text t => exact ih hr hroute
    | tag g => exact ih hr hroute

/-! ### Documents -/

/-- The nodes of a document have got their routes. -/
theorem Compiler.contents_of_document {c : Compiler} {files : FileTree} {p : Path} {d : Document}
    (hd : c.document files p = .ok d) : ∃ nodes, d.block.contents = assignRoutes [] nodes := by
  obtain ⟨text, b, -, -, hmade⟩ := Compiler.document_eq_ok_iff.1 hd
  obtain ⟨slug, rfl⟩ := Document.exists_slug_of_make hmade
  exact ⟨b.contents, rfl⟩

/-- All headings of a sequence of nodes get routes, which are distinct and made of the lead and slugs, and nothing else
is changed. So the headings of a document have distinct routes that are not empty and can stand in an address. -/
theorem assignRoutes_distinct :
    (∀ (lead : Text) (nodes : List Node),
      (assignRoutes lead nodes).map Node.unrouted = nodes.map Node.unrouted ∧
        (routes (assignRoutes lead nodes)).Nodup ∧
        ∀ route ∈ routes (assignRoutes lead nodes), IsRoute lead route) ∧
      ∀ (c : Compiler) (files : FileTree) (p : Path) (d : Document), c.document files p = .ok d →
        (routes d.block.contents).Nodup ∧
          ∀ route ∈ routes d.block.contents, route ≠ [] ∧ IsRoute [] route ∧
            ∀ char ∈ route, char.isLower ∨ char.isDigit ∨ char = '-' ∨ char = '/' := by
  have hshape (lead : Text) (nodes : List Node) :
      ∀ route ∈ routes (assignRoutes lead nodes), IsRoute lead route :=
    fun route hroute => isRoute_of_mem_routes Routing.sound_empty hroute
  refine ⟨fun lead nodes => ⟨map_unrouted_assignRoutesFrom lead _ nodes,
    (nodup_routes_assignRoutesFrom lead _ nodes).1, hshape lead nodes⟩, ?_⟩
  intro c files p d hd
  obtain ⟨nodes, hcontents⟩ := Compiler.contents_of_document hd
  rw [hcontents]
  refine ⟨(nodup_routes_assignRoutesFrom [] _ nodes).1, fun route hmem => ?_⟩
  have hroute := hshape [] nodes route hmem
  exact ⟨hroute.ne_nil, hroute, fun char hchar => hroute.of_mem hchar⟩

/-- A heading that looks like one with a number is not given the route of one that got that number, and neither is a
heading inside that one. -/
theorem routes_of_numbered_headings :
    let source := "@# Use\n\ntext\n@## Options\n@## Options\n@### Options 1\n@## Options 1".toList
    let files : FileTree := ⟨[(["a.md".toList], .file (source.map fun char => char.toNat.toUInt8))], []⟩
    let assigned := ["use", "use/options", "use/options-1", "use/options-1/options-1", "use/options-1-1"].map (·.toList)
    ∃ c d, Compiler.ofDialect? .usual [] "commonmark".toList [] = .ok c ∧ c.document files ⟨0, ["a.md".toList]⟩ = .ok d ∧
      routes d.block.contents = assigned ∧ (routes d.block.contents).Nodup ∧
      ∀ route ∈ routes d.block.contents, route ≠ [] ∧ IsRoute [] route ∧
        ∀ char ∈ route, char.isLower ∨ char.isDigit ∨ char = '-' ∨ char = '/' := by
  intro source files assigned
  have hroutes : (Compiler.ofDialect? .usual [] "commonmark".toList []).toOption.any (fun c =>
      (c.document files ⟨0, ["a.md".toList]⟩).toOption.any fun d => routes d.block.contents = assigned) = true := by
    decide +kernel
  obtain ⟨c, hc, hdocument⟩ := (Option.any_eq_true _ _).1 hroutes
  obtain ⟨d, hd, hassigned⟩ := (Option.any_eq_true _ _).1 hdocument
  have hd := eq_ok_of_toOption hd
  exact ⟨c, d, eq_ok_of_toOption hc, hd, of_decide_eq_true hassigned, assignRoutes_distinct.2 c files _ d hd⟩

end TagDoc

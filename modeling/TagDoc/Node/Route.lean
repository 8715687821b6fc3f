import TagDoc.Node.Basic
import TagDoc.Text.Slug

/-!
# Routes of headings

The route of a heading joins the slugs of the headings that enclose it with its own. A heading encloses those
after it that have a greater level, up to the next heading whose level is not greater than its own. No two
headings of a document have one route: where a route is taken, the slug gets the first number behind it that
makes it free, and the headings enclosed carry that number along.

## Main definitions

* `Routing`: the headings that are open at some place, and the routes taken before it
* `Routing.assign`: the route of the next heading
* `assignRoutes`: all headings of a document with their routes
-/

namespace TagDoc

/-- What is known at some place of a document: the headings that enclose it, the innermost first, each with
its level and the last part of its route; the routes taken; and for each route asked for more than once, the
number to try next. -/
structure Routing where
  enclosing : List (Nat × Text)
  taken : List Text
  nextSuffix : List (Text × Nat)
  deriving Repr

namespace Routing

/-- The start of a document. -/
def empty : Routing := ⟨[], [], []⟩

/-- A text with a number behind it. -/
def numbered (t : Text) (n : Nat) : Text := t ++ '-' :: Text.ofNat n

/-- The first number from `n` on that makes `base` a route not taken; `fuel` bounds the tries. -/
def freeSuffix (taken : List Text) (base : Text) : (fuel : Nat) → (n : Nat) → Nat
  | 0, n => n
  | fuel + 1, n => if numbered base n ∈ taken then freeSuffix taken base fuel (n + 1) else n

/-- The number that a route gets, if it is taken. Among one more numbers than there are routes taken, one is
free. -/
def suffix? (r : Routing) (base : Text) : Option Nat :=
  if base ∈ r.taken then
    some (freeSuffix r.taken base (r.taken.length + 1) ((r.nextSuffix.lookup base).getD 1))
  else none

/-- The headings that enclose a heading of some level. -/
def enclosingFor (r : Routing) (level : Nat) : List (Nat × Text) := r.enclosing.dropWhile (level ≤ ·.1)

/-- Parts of a route put together, the first of them left out if it is empty. -/
def join (lead : Text) (parts : List Text) : Text :=
  Text.join ['/'] (if lead.isEmpty then parts else lead :: parts)

/-- The slug of a heading. -/
def headingSlug (h : Heading) : Text := Text.slug (h.value.getD []) "section".toList

/-- The route of the next heading, and what is known after it; all routes begin with `lead`. -/
def assign (lead : Text) (r : Routing) (h : Heading) : Text × Routing :=
  let enclosing := r.enclosingFor h.level
  let parents := enclosing.reverse.map (·.2)
  let slug := headingSlug h
  let base := join lead (parents ++ [slug])
  match r.suffix? base with
  | none => (base, ⟨(h.level, slug) :: enclosing, base :: r.taken, r.nextSuffix⟩)
  | some n =>
    let part := numbered slug n
    let route := join lead (parents ++ [part])
    (route, ⟨(h.level, part) :: enclosing, route :: r.taken, (base, n + 1) :: r.nextSuffix⟩)

end Routing

/-- Nodes with a route for each heading, given what is known before them. -/
def assignRoutesFrom (lead : Text) (r : Routing) : List Node → List Node
  | [] => []
  | .heading h :: nodes =>
    let (route, r) := r.assign lead h
    .heading { h with route } :: assignRoutesFrom lead r nodes
  | n :: nodes => n :: assignRoutesFrom lead r nodes

/-- Nodes with a route for each heading. All routes begin with `lead`, unless it is empty. -/
def assignRoutes (lead : Text) (nodes : List Node) : List Node := assignRoutesFrom lead .empty nodes

end TagDoc

import TagDoc.Proofs.Route.Distinct

/-!
# The search for a free route

A heading asks for a route. If it is taken, numbers behind it are tried in order, up to the first that makes it free.
The search for a route does not begin again at one: it goes on at the number at which it stopped the last time. No free
route is missed, since all smaller numbers make routes that are taken, by whatever heading. So the same routes are found
when no numbers are kept and every search begins at the start.

## Main definitions

* `Routing.candidate`, `IsFirstFree`: the routes that are tried, and the first of them that is free
* `Routing.wanted`, `Routing.found`: the route that a heading asks for, and the one it gets
* `Routing.Cached`: nothing is missed where the search goes on
* `Routing.Search`: the search as a loop, with the number of routes that it tries
* `assignRoutesPlain`: the routes of headings, found without numbers that are kept

## Main results

* `Routing.Cached.isFirstFree_found`: the route found is the first that is free
* `Routing.exists_search`: the loop ends, after one try more than there are routes taken at most
* `assignRoutes_eq_plain`: the same routes are found without numbers that are kept
-/

namespace TagDoc

open Text

variable {base part name name' : Text} {taken : List Text} {r : Routing} {m n : Nat} {used : Text → Prop}

/-! ### The routes that are tried -/

namespace Routing

/-- The routes that are tried for one that is asked for: the route as it stands, and then with numbers from one on. -/
def candidate (base : Text) (n : Nat) : Text := if n = 0 then base else numbered base n

@[simp] theorem candidate_zero (base : Text) : candidate base 0 = base := rfl

@[simp] theorem candidate_succ (base : Text) (n : Nat) : candidate base (n + 1) = numbered base (n + 1) := rfl

theorem candidate_of_pos (base : Text) (hn : 0 < n) : candidate base n = numbered base n := if_neg (by omega)

theorem numbered_ne_self (base : Text) (n : Nat) : numbered base n ≠ base := by
  intro heq
  have hlen := congrArg List.length heq
  simp [numbered] at hlen

/-- A list of routes does not hold all that can be tried. -/
theorem exists_candidate_not_mem (taken : List Text) (base : Text) : ∃ n, candidate base n ∉ taken := by
  by_contra hall
  push Not at hall
  have hbound : taken.length + 2 ≤ 1 + taken.length :=
    le_add_of_forall_numbered_mem fun i hi _ => candidate_of_pos base hi ▸ hall i
  omega

end Routing

open Routing

/-- `name` is the first of the names made of `base` that is not used. -/
def IsFirstFree (used : Text → Prop) (base name : Text) : Prop :=
  ∃ n, name = candidate base n ∧ ¬ used name ∧ ∀ i < n, used (candidate base i)

theorem IsFirstFree.unique (hname : IsFirstFree used base name) (hname' : IsFirstFree used base name') :
    name = name' := by
  obtain ⟨n, rfl, hfree, hbefore⟩ := hname
  obtain ⟨n', rfl, hfree', hbefore'⟩ := hname'
  -- neither number can be before the other, as all names before a free one are used
  rcases Nat.lt_trichotomy n n' with hlt | rfl | hlt
  · exact absurd (hbefore' n hlt) hfree
  · rfl
  · exact absurd (hbefore n' hlt) hfree'

/-! ### What the search finds -/

namespace Routing

/-- The number at which the search for a route goes on. -/
def firstTry (r : Routing) (base : Text) : Nat := (r.nextSuffix.lookup base).getD 1

/-- The route that a heading asks for. -/
def wanted (lead : Text) (r : Routing) (h : Heading) : Text := join lead (r.parents h.level ++ [headingSlug h])

/-- What is found for a route that is asked for. -/
def found (r : Routing) (base : Text) : Text :=
  match r.suffix? base with
  | none => base
  | some n => numbered base n

theorem assign_fst_eq_found (lead : Text) (r : Routing) (h : Heading) :
    (r.assign lead h).1 = r.found (r.wanted lead h) := by
  rw [assign_fst, lastPart, found, wanted]
  cases r.suffix? (join lead (r.parents h.level ++ [headingSlug h])) with
  | none => rfl
  | some n => exact join_append_numbered lead _ _ n

/-- A number is found for a route that is taken, and all numbers passed by make routes that are taken too. -/
theorem suffix?_eq_some (hn : r.suffix? base = some n) :
    base ∈ r.taken ∧ r.firstTry base ≤ n ∧ (∀ i, r.firstTry base ≤ i → i < n → numbered base i ∈ r.taken) ∧
      numbered base n ∉ r.taken := by
  rw [suffix?] at hn
  split at hn
  · rename_i hmem
    obtain ⟨hle, hpast, hfree, -⟩ := freeSuffix_spec r.taken base (r.firstTry base)
    obtain rfl : freeSuffix r.taken base (r.taken.length + 1) (r.firstTry base) = n := Option.some.inj hn
    exact ⟨hmem, hle, hpast, hfree⟩
  · cases hn

/-- The search for the route that was asked for goes on behind the number found; all others go on where they did. -/
theorem firstTry_assign (lead : Text) (r : Routing) (h : Heading) (base : Text) :
    (r.assign lead h).2.firstTry base =
      match r.suffix? (r.wanted lead h) with
      | none => r.firstTry base
      | some n => if base = r.wanted lead h then n + 1 else r.firstTry base := by
  have hparents : (r.enclosingFor h.level).reverse.map (·.2) = r.parents h.level := rfl
  have hwanted : join lead (r.parents h.level ++ [headingSlug h]) = r.wanted lead h := rfl
  simp only [assign, hparents, hwanted]
  cases r.suffix? (r.wanted lead h) with
  | none => rfl
  | some n =>
    -- the new number stands before all others, and only under its own route
    by_cases hbase : base = r.wanted lead h
    · subst hbase
      simp [firstTry]
    · have hother : (base == r.wanted lead h) = false := beq_eq_false_iff_ne.2 hbase
      simp [firstTry, List.lookup_cons, hother, hbase]

/-! ### Nothing is missed -/

/-- Wherever a search goes on, all smaller numbers make routes that are taken. -/
def Cached (r : Routing) : Prop :=
  ∀ base, 1 ≤ r.firstTry base ∧ ∀ i, 1 ≤ i → i < r.firstTry base → numbered base i ∈ r.taken

theorem cached_empty : empty.Cached := by
  intro base
  have hone : empty.firstTry base = 1 := rfl
  exact ⟨hone.ge, fun i hi hlt => by omega⟩

theorem Cached.assign (hr : r.Cached) (lead : Text) (h : Heading) : (r.assign lead h).2.Cached := by
  intro base
  obtain ⟨hpos, hbefore⟩ := hr base
  -- what was taken before is taken still, so that only a search that went on needs an argument
  have hkept : ∀ i, 1 ≤ i → i < r.firstTry base → numbered base i ∈ (r.assign lead h).2.taken := by
    intro i hi hlt
    rw [taken_assign]
    exact List.mem_cons_of_mem _ (hbefore i hi hlt)
  rw [firstTry_assign]
  cases hn : r.suffix? (r.wanted lead h) with
  | none => exact ⟨hpos, hkept⟩
  | some n =>
    dsimp only
    by_cases hbase : base = r.wanted lead h
    · rw [if_pos hbase]
      subst hbase
      obtain ⟨-, hle, hpast, -⟩ := suffix?_eq_some hn
      refine ⟨by omega, fun i hi hlt => ?_⟩
      rcases Nat.lt_trichotomy i n with hin | rfl | hin
      · by_cases hold : i < r.firstTry (r.wanted lead h)
        · exact hkept i hi hold
        · rw [taken_assign]
          exact List.mem_cons_of_mem _ (hpast i (by omega) hin)
      · -- the number found makes the route that is taken now
        rw [taken_assign, assign_fst_eq_found, found, hn]
        exact List.mem_cons_self
      · omega
    · rw [if_neg hbase]
      exact ⟨hpos, hkept⟩

/-- The route found is the first that is free. -/
theorem Cached.isFirstFree_found (hr : r.Cached) (base : Text) : IsFirstFree (· ∈ r.taken) base (r.found base) := by
  obtain ⟨hpos, hbefore⟩ := hr base
  cases hn : r.suffix? base with
  | none =>
    refine ⟨0, ?_, ?_, fun i hi => by omega⟩
    · rw [found, hn, candidate_zero]
    · rw [found, hn]
      exact not_mem_of_suffix?_eq_none hn
  | some n =>
    obtain ⟨hbase, hle, hpast, hfree⟩ := suffix?_eq_some hn
    refine ⟨n, ?_, ?_, fun i hi => ?_⟩
    · rw [found, hn, candidate_of_pos base (by omega)]
    · rw [found, hn]
      exact hfree
    · rcases Nat.eq_zero_or_pos i with rfl | hipos
      · exact hbase
      · rw [candidate_of_pos base hipos]
        by_cases hold : i < r.firstTry base
        · exact hbefore i hipos hold
        · exact hpast i (by omega) hi

theorem Cached.isFirstFree_assign (hr : r.Cached) (lead : Text) (h : Heading) :
    IsFirstFree (· ∈ r.taken) (r.wanted lead h) (r.assign lead h).1 :=
  assign_fst_eq_found lead r h ▸ hr.isFirstFree_found _

/-! ### The search as a loop -/

/-- The loop that looks for a route: `route` is tried, and if it is taken, the route with the number `n` is next. It
ends at `found` after so many `tries`, and `next` is the number that would have been tried then. -/
inductive Search (taken : List Text) (base : Text) : Text → Nat → Nat → Text → Nat → Prop
  | free {route : Text} {n : Nat} (hfree : route ∉ taken) : Search taken base route n 1 route n
  | again {route found : Text} {n tries next : Nat} (htaken : route ∈ taken)
      (later : Search taken base (numbered base n) (n + 1) tries found next) :
      Search taken base route n (tries + 1) found next

theorem search_numbered (htaken : ∀ i, n ≤ i → i < n + m → numbered base i ∈ taken)
    (hfree : numbered base (n + m) ∉ taken) :
    Search taken base (numbered base n) (n + 1) (m + 1) (numbered base (n + m)) (n + m + 1) := by
  -- on the number of routes that are still to be tried in vain
  induction m generalizing n with
  | zero => exact .free hfree
  | succ m ih =>
    have hlater := ih (n := n + 1) (fun i hi hlt => htaken i (by omega) (by omega)) (by rwa [Nat.add_right_comm])
    rw [Nat.add_right_comm n 1 m] at hlater
    exact .again (htaken n le_rfl (by omega)) hlater

/-- A route that is taken and the numbers behind it that are taken too are no more than the routes taken. -/
theorem add_one_le_add_of_forall_numbered_mem (hbase : base ∈ taken)
    (htaken : ∀ i, n ≤ i → i < m → numbered base i ∈ taken) : m + 1 ≤ n + taken.length := by
  -- the routes with a number are all among the others that are taken
  have herase : ∀ i, n ≤ i → i < m → numbered base i ∈ taken.erase base := fun i hi hlt =>
    (List.mem_erase_of_ne (numbered_ne_self base i)).2 (htaken i hi hlt)
  have hothers := le_add_of_forall_numbered_mem herase
  have hpos := List.length_pos_of_mem hbase
  rw [List.length_erase_of_mem hbase] at hothers
  omega

/-- The loop ends at the route found and at the number at which the search goes on. It tries one route more than there
are routes taken at most. -/
theorem exists_search (lead : Text) (r : Routing) (h : Heading) :
    ∃ tries, Search r.taken (r.wanted lead h) (r.wanted lead h) (r.firstTry (r.wanted lead h)) tries
        (r.assign lead h).1 ((r.assign lead h).2.firstTry (r.wanted lead h)) ∧
      tries ≤ r.taken.length + 1 := by
  rw [assign_fst_eq_found, firstTry_assign, found]
  cases hn : r.suffix? (r.wanted lead h) with
  | none => exact ⟨1, .free (not_mem_of_suffix?_eq_none hn), by omega⟩
  | some n =>
    obtain ⟨hbase, hle, hpast, hfree⟩ := suffix?_eq_some hn
    have hbound := add_one_le_add_of_forall_numbered_mem hbase hpast
    -- the route itself, the numbers passed by, and the one that is found
    obtain ⟨m, rfl⟩ := Nat.exists_eq_add_of_le hle
    refine ⟨m + 1 + 1, ?_, by omega⟩
    simpa using Search.again hbase (search_numbered hpast hfree)

end Routing

/-! ### The last component of a route -/

/-- What stands behind the last slash of a route. -/
def lastComponent (route : Text) : Text := (route.reverse.takeWhile (· != '/')).reverse

theorem lastComponent_append {start : Text} (hstart : ∀ c ∈ start.getLast?, c = '/') (hpart : '/' ∉ part) :
    lastComponent (start ++ part) = part := by
  have hrun : Text.Run (· != '/') part.reverse start.reverse := by
    refine ⟨fun c hc => ?_, fun c hc => ?_⟩
    · rw [bne_iff_ne]
      rintro rfl
      exact hpart (List.mem_reverse.1 hc)
    · rw [List.head?_reverse] at hc
      simpa using hstart c hc
  rw [lastComponent, List.reverse_append, hrun.takeWhile_append, List.reverse_reverse]

theorem Text.IsSlug.not_mem_slash (hslug : IsSlug part) : '/' ∉ part := by
  intro hmem
  have hchar := hslug.of_mem hmem
  revert hchar
  decide

theorem Routing.lastComponent_join (hpart : '/' ∉ part) (lead : Text) (parts : List Text) :
    lastComponent (join lead (parts ++ [part])) = part := by
  rw [join_eq (by simp), join_append_singleton, ← List.append_assoc]
  refine lastComponent_append ?_ hpart
  rcases List.eq_nil_or_concat parts with rfl | ⟨before, last, rfl⟩
  · split <;> simp
  · simp

/-- The last component of a route is all that the parts of later routes need of it. -/
theorem Routing.lastComponent_assign (lead : Text) (r : Routing) (h : Heading) :
    lastComponent (r.assign lead h).1 = r.lastPart lead h := by
  rw [assign_fst]
  exact lastComponent_join (isSlug_lastPart lead r h).not_mem_slash lead _

/-! ### Routes without numbers that are kept -/

/-- The first of a route and the same with numbers from one on that is not taken. -/
def firstFree (taken : List Text) (base : Text) : Text := candidate base (Nat.find (exists_candidate_not_mem taken base))

theorem isFirstFree_firstFree (taken : List Text) (base : Text) :
    IsFirstFree (· ∈ taken) base (firstFree taken base) := by
  have hleast := exists_candidate_not_mem taken base
  exact ⟨Nat.find hleast, rfl, Nat.find_spec hleast, fun i hi => not_not.1 (Nat.find_min hleast hi)⟩

/-- Nodes with a route for each heading, given the open headings and the routes taken. Every route is tried as it stands
and with all numbers from one on. -/
def assignPlainFrom (lead : Text) (enclosing : List (Nat × Text)) (taken : List Text) : List Node → List Node
  | [] => []
  | .heading h :: nodes =>
    let enclosing := enclosing.dropWhile (h.level ≤ ·.1)
    let route := firstFree taken (Routing.join lead (enclosing.reverse.map (·.2) ++ [headingSlug h]))
    .heading { h with route } :: assignPlainFrom lead ((h.level, lastComponent route) :: enclosing) (route :: taken) nodes
  | n :: nodes => n :: assignPlainFrom lead enclosing taken nodes

/-- Nodes with a route for each heading, found without numbers that are kept from one search to the next. -/
def assignRoutesPlain (lead : Text) (nodes : List Node) : List Node := assignPlainFrom lead [] [] nodes

theorem assignRoutesFrom_eq_plain (hr : r.Cached) (lead : Text) (nodes : List Node) :
    assignRoutesFrom lead r nodes = assignPlainFrom lead r.enclosing r.taken nodes := by
  -- both runs agree on what is open and taken, and there is one first route that is free
  induction nodes generalizing r with
  | nil => rfl
  | cons node nodes ih =>
    cases node with
    | heading h =>
      have hroute : firstFree r.taken (r.wanted lead h) = (r.assign lead h).1 :=
        (isFirstFree_firstFree _ _).unique (hr.isFirstFree_assign lead h)
      have hplain : assignPlainFrom lead r.enclosing r.taken (.heading h :: nodes) =
          let route := firstFree r.taken (r.wanted lead h)
          .heading { h with route } ::
            assignPlainFrom lead ((h.level, lastComponent route) :: r.enclosingFor h.level) (route :: r.taken) nodes := rfl
      rw [hplain, hroute]
      have hlater := ih (hr.assign lead h)
      rw [enclosing_assign, taken_assign, ← lastComponent_assign] at hlater
      exact congrArg (_ :: ·) hlater
    | text t => exact congrArg (_ :: ·) (ih hr)
    | tag g => exact congrArg (_ :: ·) (ih hr)

/-- Routes are the same if every search begins at the start. And wherever a search goes on, with whatever routes are
taken, it ends: it tries one route more than there are routes taken at most. -/
theorem assignRoutes_eq_plain (lead : Text) :
    (∀ nodes, assignRoutes lead nodes = assignRoutesPlain lead nodes) ∧
      ∀ (r : Routing) (h : Heading),
        ∃ tries, Search r.taken (r.wanted lead h) (r.wanted lead h) (r.firstTry (r.wanted lead h)) tries
            (r.assign lead h).1 ((r.assign lead h).2.firstTry (r.wanted lead h)) ∧
          tries ≤ r.taken.length + 1 :=
  ⟨assignRoutesFrom_eq_plain cached_empty lead, exists_search lead⟩

end TagDoc

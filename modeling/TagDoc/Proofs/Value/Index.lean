import TagDoc.Proofs.Step
import TagDoc.Proofs.Value.Key
import TagDoc.Value.Index

/-!
# The last item counts

In an index each key leads to the last item with that key, while the keys keep the form and the place in which they came
first. The first item without a key is told. So an index can be made part by part: that of some items and more is that of
the first with that of the others put in.

## Main definitions

* `HasKey`, `LacksKey`: items that can be in an index, and those that cannot
* `Index.update`: an index with entries put in
* `Index.LastWins`: what the index of some entries has to be

## Main results

* `Index.LastWins.insert`, `Index.LastWins.update`: what one more entry and many more do to an index
* `Index.update_update`: to put in entries is to put in their index
* `Index.addAll_of_hasKey`, `Index.addAll_of_lacksKey`: how it ends to put in items
* `indexBy_lastWins`: the index of some items
-/

namespace TagDoc

variable {α ε : Type} [UnhashableFault ε] {key : α → Except ε Value} {index other : Index α}
  {entries later : List (Value × α)} {items : List α} {e : Value × α} {k k' : Value} {a b : α} {f : ε}

/-- The key that an item has. -/
def HasKey (key : α → Except ε Value) (a : α) (k : Value) : Prop := key a = .ok k ∧ k.isHashable = true

/-- Why an item has no key: it cannot be taken, or cannot be a key. -/
def LacksKey (key : α → Except ε Value) (a : α) (f : ε) : Prop :=
  key a = .error f ∨ ∃ k, key a = .ok k ∧ k.isHashable = false ∧ f = UnhashableFault.notHashable k.unhashableType

namespace Index

/-- The keys of an index, in order. -/
def keys (index : Index α) : List Value := index.map (·.1)

/-- An index after entries were put in from first to last. -/
def update (index : Index α) (entries : List (Value × α)) : Index α :=
  entries.foldl (fun index e => index.insert e.1 e.2) index

/-- No two keys of an index are the same. -/
def Distinct (index : Index α) : Prop := index.keys.Pairwise fun k k' => k.sameKey k' = false

/-- The index of some entries: it has their keys, each in the form and at the place in which it came first, and under each
key the item that came last with it. -/
structure LastWins (index : Index α) (entries : List (Value × α)) : Prop where
  keys_eq : index.keys = (entries.map (·.1)).eraseDupsBy Value.sameKey
  distinct : index.Distinct
  complete : ∀ e ∈ entries, ∃ k ∈ index.keys, k.sameKey e.1 = true
  last : ∀ e ∈ index, ∃ before k after, entries = before ++ (k, e.2) :: after ∧ e.1.sameKey k = true ∧
    ∀ e' ∈ after, e.1.sameKey e'.1 = false

/-! ### One more entry -/

theorem insert_cons (first : Value) (b : α) (index : Index α) (k : Value) (a : α) :
    Index.insert ((first, b) :: index) k a =
      if first.sameKey k = true then (first, a) :: index else (first, b) :: index.insert k a := rfl

theorem keys_cons (k : Value) (a : α) (index : Index α) : keys ((k, a) :: index) = k :: index.keys := rfl

theorem keys_insert (index : Index α) (k : Value) (a : α) :
    (index.insert k a).keys = if index.keys.any (·.sameKey k) then index.keys else index.keys ++ [k] := by
  induction index with
  | nil => rfl
  | cons entry index ih =>
    obtain ⟨first, b⟩ := entry
    rw [insert_cons, keys_cons, List.any_cons]
    by_cases hfirst : first.sameKey k = true
    · simp [hfirst, keys_cons]
    · rw [if_neg hfirst, keys_cons, ih, Bool.eq_false_iff.2 hfirst, Bool.false_or]
      split <;> rfl

theorem exists_mem_keys_insert (hthere : ∃ first ∈ index.keys, first.sameKey k = true) (k' : Value) (b : α) :
    ∃ first ∈ (index.insert k' b).keys, first.sameKey k = true := by
  obtain ⟨first, hmem, hsame⟩ := hthere
  refine ⟨first, ?_, hsame⟩
  rw [keys_insert]
  split
  · exact hmem
  · exact List.mem_append_left _ hmem

theorem exists_mem_keys_insert_self (hk : k.isHashable = true) (index : Index α) (a : α) :
    ∃ first ∈ (index.insert k a).keys, first.sameKey k = true := by
  rw [keys_insert]
  split
  · rename_i hthere
    exact List.any_eq_true.1 hthere
  · exact ⟨k, List.mem_concat_self, Value.sameKey_self hk⟩

theorem distinct_nil : Distinct ([] : Index α) := List.Pairwise.nil

theorem Distinct.insert (h : index.Distinct) (k : Value) (a : α) : (index.insert k a).Distinct := by
  rw [Distinct, keys_insert]
  split
  · exact h
  · rename_i hnew
    rw [List.any_eq_true, not_exists] at hnew
    refine List.pairwise_append.2 ⟨h, List.pairwise_singleton _ _, fun k' hk' k'' hk'' => ?_⟩
    rw [List.mem_singleton.1 hk'']
    exact Bool.eq_false_iff.2 fun hsame => hnew k' ⟨hk', hsame⟩

/-- Only the entry with the key changes, or it is a new one. -/
theorem mem_insert (hdistinct : index.Distinct) (hk : k.isHashable = true) (he : e ∈ index.insert k a) :
    e.1.sameKey k = true ∧ e.2 = a ∨ e ∈ index ∧ e.1.sameKey k = false := by
  induction index with
  | nil =>
    obtain rfl := List.mem_singleton.1 he
    exact .inl ⟨Value.sameKey_self hk, rfl⟩
  | cons entry index ih =>
    obtain ⟨first, b⟩ := entry
    obtain ⟨hothers, hdistinct⟩ := List.pairwise_cons.1 hdistinct
    rw [insert_cons] at he
    by_cases hfirst : first.sameKey k = true
    · rw [if_pos hfirst] at he
      rcases List.mem_cons.1 he with rfl | hrest
      · exact .inl ⟨hfirst, rfl⟩
      · -- A later entry has another key than the first, hence another one than `k`.
        refine .inr ⟨List.mem_cons_of_mem _ hrest, ?_⟩
        rw [Value.sameKey_comm, ← Value.sameKey_congr hfirst]
        exact hothers e.1 (List.mem_map_of_mem hrest)
    · rw [if_neg hfirst] at he
      rcases List.mem_cons.1 he with rfl | hrest
      · exact .inr ⟨List.mem_cons_self, Bool.eq_false_iff.2 hfirst⟩
      · exact (ih hdistinct hrest).imp_right fun ⟨hmem, hne⟩ => ⟨List.mem_cons_of_mem _ hmem, hne⟩

theorem eraseDupsBy_concat {β : Type} (same : β → β → Bool) (xs : List β) (x : β) :
    (xs ++ [x]).eraseDupsBy same =
      if (xs.eraseDupsBy same).any (same x) then xs.eraseDupsBy same else xs.eraseDupsBy same ++ [x] := by
  -- The induction is on what is still to be looked at, with all that was kept before it.
  have hloop (kept : List β) : List.eraseDupsBy.loop same (xs ++ [x]) kept =
      if (List.eraseDupsBy.loop same xs kept).any (same x) then List.eraseDupsBy.loop same xs kept
      else List.eraseDupsBy.loop same xs kept ++ [x] := by
    induction xs generalizing kept with
    | nil =>
      simp only [List.nil_append, List.eraseDupsBy.loop, List.any_reverse]
      cases kept.any (same x) <;> simp
    | cons y xs ih =>
      rw [List.cons_append, List.eraseDupsBy.loop, List.eraseDupsBy.loop]
      by_cases hy : kept.any (same y) = true
      · simpa only [hy] using ih kept
      · simpa only [Bool.eq_false_iff.2 hy] using ih (y :: kept)
  exact hloop []

/-- One more entry. -/
theorem LastWins.insert (h : index.LastWins entries) (hk : k.isHashable = true) (a : α) :
    (index.insert k a).LastWins (entries ++ [(k, a)]) where
  keys_eq := by
    have hany : index.keys.any (·.sameKey k) = index.keys.any k.sameKey := by
      simp only [Value.sameKey_comm]
    rw [keys_insert, List.map_append, List.map_singleton, eraseDupsBy_concat, ← h.keys_eq, hany]
  distinct := h.distinct.insert k a
  complete := by
    intro e he
    rcases List.mem_append.1 he with hold | hnew
    · exact exists_mem_keys_insert (h.complete e hold) k a
    · rw [List.mem_singleton.1 hnew]
      exact exists_mem_keys_insert_self hk index a
  last e he := by
    rcases mem_insert h.distinct hk he with ⟨hsame, rfl⟩ | ⟨hmem, hne⟩
    · exact ⟨entries, k, [], rfl, hsame, nofun⟩
    · obtain ⟨before, k', after, rfl, hsame, hlast⟩ := h.last e hmem
      refine ⟨before, k', after ++ [(k, a)], by simp, hsame, fun e' he' => ?_⟩
      rcases List.mem_append.1 he' with hafter | hnew
      · exact hlast e' hafter
      · rwa [List.mem_singleton.1 hnew]

/-! ### Many entries -/

theorem update_cons (index : Index α) (e : Value × α) (entries : List (Value × α)) :
    index.update (e :: entries) = (index.insert e.1 e.2).update entries := rfl

theorem lastWins_nil : LastWins ([] : Index α) [] := ⟨rfl, distinct_nil, nofun, nofun⟩

/-- More entries. -/
theorem LastWins.update (h : index.LastWins entries) (hlater : ∀ e ∈ later, e.1.isHashable = true) :
    (index.update later).LastWins (entries ++ later) := by
  induction later generalizing index entries with
  | nil => rwa [List.append_nil]
  | cons e later ih =>
    obtain ⟨he, hlater⟩ := List.forall_mem_cons.1 hlater
    rw [update_cons, List.append_cons]
    exact ih (h.insert he e.2) hlater

/-- Of two items with one key that are put in the second counts. -/
theorem insert_insert (h : k.sameKey k' = true) (index : Index α) (a b : α) :
    (index.insert k a).insert k' b = index.insert k b := by
  induction index with
  | nil => rw [Index.insert, insert_cons, if_pos h, Index.insert]
  | cons entry index ih =>
    obtain ⟨first, c⟩ := entry
    rw [insert_cons, insert_cons first c index k b]
    by_cases hfirst : first.sameKey k = true
    · rw [if_pos hfirst, if_pos hfirst, insert_cons, if_pos (Value.sameKey_trans hfirst h)]
    · have hfirst' : ¬ first.sameKey k' = true := by
        rwa [Value.sameKey_comm, ← Value.sameKey_congr h, Value.sameKey_comm]
      rw [if_neg hfirst, if_neg hfirst, insert_cons, if_neg hfirst', ih]

/-- It does not matter which of two entries with different keys comes first, if one of the keys is there already. -/
theorem insert_comm (hne : k.sameKey k' = false) (hthere : ∃ first ∈ index.keys, first.sameKey k = true) (a b : α) :
    (index.insert k' b).insert k a = (index.insert k a).insert k' b := by
  induction index with
  | nil => exact absurd hthere (by simp [keys])
  | cons entry index ih =>
    obtain ⟨first, c⟩ := entry
    by_cases hfirst : first.sameKey k = true
    · have hfirst' : ¬ first.sameKey k' = true := by
        rw [Value.sameKey_congr hfirst, hne]
        exact Bool.false_ne_true
      rw [insert_cons, if_neg hfirst', insert_cons, if_pos hfirst, insert_cons, if_pos hfirst, insert_cons, if_neg hfirst']
    · have hrest : ∃ first ∈ keys index, first.sameKey k = true := by
        obtain ⟨k₀, hmem, hsame⟩ := hthere
        refine ⟨k₀, (List.mem_cons.1 hmem).resolve_left ?_, hsame⟩
        rintro rfl
        exact hfirst hsame
      by_cases hfirst' : first.sameKey k' = true
      · rw [insert_cons, if_pos hfirst', insert_cons, if_neg hfirst, insert_cons, if_neg hfirst, insert_cons, if_pos hfirst']
      · rw [insert_cons, if_neg hfirst', insert_cons, if_neg hfirst, insert_cons, if_neg hfirst, insert_cons, if_neg hfirst',
          ih hrest]

theorem update_insert_comm (hthere : ∃ first ∈ index.keys, first.sameKey k = true)
    (hne : ∀ e ∈ entries, k.sameKey e.1 = false) (a : α) :
    (index.update entries).insert k a = (index.insert k a).update entries := by
  induction entries generalizing index with
  | nil => rfl
  | cons e entries ih =>
    obtain ⟨he, hne⟩ := List.forall_mem_cons.1 hne
    rw [update_cons, update_cons, ih (exists_mem_keys_insert hthere e.1 e.2) hne, insert_comm he hthere]

/-- To put in one more entry is to put in the other index with that entry. -/
theorem update_insert (hdistinct : other.Distinct) (index : Index α) (k : Value) (a : α) :
    (index.update other).insert k a = index.update (other.insert k a) := by
  induction other generalizing index with
  | nil => rfl
  | cons entry other ih =>
    obtain ⟨first, b⟩ := entry
    obtain ⟨hothers, hdistinct⟩ := List.pairwise_cons.1 hdistinct
    rw [insert_cons, update_cons]
    dsimp only
    by_cases hfirst : first.sameKey k = true
    -- The key is there from now on, and none of the other entries has it, so it can be put in before them.
    · have hthere : ∃ k' ∈ (index.insert first b).keys, k'.sameKey k = true := by
        obtain ⟨k', hmem, hsame⟩ := exists_mem_keys_insert_self ((Value.sameKey_iff _ _).1 hfirst).1 index b
        exact ⟨k', hmem, Value.sameKey_trans hsame hfirst⟩
      have hne : ∀ e ∈ other, k.sameKey e.1 = false := by
        intro e he
        rw [← Value.sameKey_congr hfirst]
        exact hothers e.1 (List.mem_map_of_mem he)
      rw [if_pos hfirst, update_insert_comm hthere hne, insert_insert hfirst, update_cons]
    · rw [if_neg hfirst, update_cons, ih hdistinct]

theorem update_update_of_distinct (hother : other.Distinct) (index : Index α) (entries : List (Value × α)) :
    index.update (other.update entries) = (index.update other).update entries := by
  induction entries generalizing other with
  | nil => rfl
  | cons e entries ih => rw [update_cons, update_cons, ih (hother.insert e.1 e.2), update_insert hother]

/-- To put in entries is to put in their index. -/
theorem update_update (index : Index α) (entries : List (Value × α)) :
    index.update (Index.update [] entries) = index.update entries := update_update_of_distinct distinct_nil index entries

/-! ### Items and their keys -/

theorem hasKey_or_lacksKey (key : α → Except ε Value) (a : α) : (∃ k, HasKey key a k) ∨ ∃ f, LacksKey key a f := by
  cases hkey : key a with
  | error f => exact .inr ⟨f, .inl hkey⟩
  | ok k =>
    cases hk : k.isHashable with
    | true => exact .inl ⟨k, hkey, hk⟩
    | false => exact .inr ⟨_, .inr ⟨k, hkey, hk, rfl⟩⟩

theorem not_hasKey_of_lacksKey (h : LacksKey key a f) (k : Value) : ¬ HasKey key a k := by
  rintro ⟨hkey, hk⟩
  rcases h with hfault | ⟨k', hkey', hk', -⟩
  · rw [hkey] at hfault
    cases hfault
  · rw [Except.ok.inj (hkey.symm.trans hkey'), hk'] at hk
    cases hk

theorem addAll_cons_of_hasKey (h : HasKey key a k) (index : Index α) (items : List α) :
    index.addAll key (a :: items) = (index.insert k a).addAll key items := by
  rw [addAll, h.1]
  change (if (!k.isHashable) = true then _ else _) = _
  rw [h.2]
  rfl

theorem addAll_cons_of_lacksKey (h : LacksKey key a f) (index : Index α) (items : List α) :
    index.addAll key (a :: items) = .error f := by
  rw [addAll]
  rcases h with hkey | ⟨k, hkey, hk, rfl⟩
  · rw [hkey]
    rfl
  · rw [hkey]
    change (if (!k.isHashable) = true then _ else _) = _
    rw [hk]
    rfl

theorem addAll_of_hasKey (hentries : ∀ e ∈ entries, HasKey key e.2 e.1) (index : Index α) :
    index.addAll key (entries.map (·.2)) = .ok (index.update entries) := by
  induction entries generalizing index with
  | nil => rfl
  | cons e entries ih =>
    obtain ⟨he, hentries⟩ := List.forall_mem_cons.1 hentries
    rw [List.map_cons, addAll_cons_of_hasKey he, ih hentries, update_cons]

theorem addAll_of_lacksKey {before after : List α} (hbefore : ∀ b ∈ before, ∃ k, HasKey key b k) (h : LacksKey key a f)
    (index : Index α) : index.addAll key (before ++ a :: after) = .error f := by
  induction before generalizing index with
  | nil => exact addAll_cons_of_lacksKey h index after
  | cons b before ih =>
    obtain ⟨⟨k, hk⟩, hbefore⟩ := List.forall_mem_cons.1 hbefore
    rw [List.cons_append, addAll_cons_of_hasKey hk, ih hbefore]

/-- Either all items have keys, or there is a first that has none. -/
theorem entries_or_first (key : α → Except ε Value) (items : List α) :
    (∃ entries : List (Value × α), entries.map (·.2) = items ∧ ∀ e ∈ entries, HasKey key e.2 e.1) ∨
      ∃ before a after f, items = before ++ a :: after ∧ (∀ b ∈ before, ∃ k, HasKey key b k) ∧ LacksKey key a f := by
  induction items with
  | nil => exact .inl ⟨[], rfl, nofun⟩
  | cons a items ih =>
    rcases hasKey_or_lacksKey key a with ⟨k, hk⟩ | ⟨f, hf⟩
    · rcases ih with ⟨entries, rfl, hentries⟩ | ⟨before, b, after, f, rfl, hbefore, hf⟩
      · exact .inl ⟨(k, a) :: entries, rfl, List.forall_mem_cons.2 ⟨hk, hentries⟩⟩
      · exact .inr ⟨a :: before, b, after, f, rfl, List.forall_mem_cons.2 ⟨⟨k, hk⟩, hbefore⟩, hf⟩
    · exact .inr ⟨[], a, items, f, rfl, nofun, hf⟩

/-- Items are put into an index by making one of them first. -/
theorem addAll_eq_bind (key : α → Except ε Value) (index : Index α) (items : List α) :
    index.addAll key items = (indexBy key items).map index.update := by
  rcases entries_or_first key items with ⟨entries, rfl, hentries⟩ | ⟨before, a, after, f, rfl, hbefore, hf⟩
  · rw [indexBy, addAll_of_hasKey hentries, addAll_of_hasKey hentries, Except.map, update_update]
  · rw [indexBy, addAll_of_lacksKey hbefore hf, addAll_of_lacksKey hbefore hf, Except.map]

theorem addAll_append (key : α → Except ε Value) (index : Index α) (items later : List α) :
    index.addAll key (items ++ later) = (index.addAll key items >>= fun other => other.addAll key later) := by
  induction items generalizing index with
  | nil => rfl
  | cons a items ih =>
    rcases hasKey_or_lacksKey key a with ⟨k, hk⟩ | ⟨f, hf⟩
    · rw [List.cons_append, addAll_cons_of_hasKey hk, addAll_cons_of_hasKey hk, ih]
    · rw [List.cons_append, addAll_cons_of_lacksKey hf, addAll_cons_of_lacksKey hf]
      rfl

end Index

/-- The index of some items. Its keys are told apart by what they count as. If an item has no key, the first such item is
told; and else each key is in the form and at the place in which it came first, with the item that came last with it. The
index of items and more is the index of the first with that of the others put in. -/
theorem indexBy_lastWins (key : α → Except ε Value) (items : List α) :
    (∀ k k' : Value, k.sameKey k' = true ↔ k.isHashable = true ∧ k.key? = k'.key?) ∧
    (∀ f, indexBy key items = .error f ↔ ∃ before a after, items = before ++ a :: after ∧
      (∀ b ∈ before, ∃ k, HasKey key b k) ∧ LacksKey key a f) ∧
    ((∀ a ∈ items, ∃ k, HasKey key a k) → ∃ (entries : List (Value × α)) (index : Index α),
      entries.map (·.2) = items ∧ (∀ e ∈ entries, HasKey key e.2 e.1) ∧
        indexBy key items = .ok index ∧ index.LastWins entries) ∧
    ∀ later, indexBy key (items ++ later) = do
      let index ← indexBy key items
      let other ← indexBy key later
      return index.update other := by
  -- Either all items have keys, or there is a first one that has none: this decides what the loop gives.
  refine ⟨Value.sameKey_iff, fun f => ⟨fun hfault => ?_, ?_⟩, fun hkeys => ?_, fun later => ?_⟩
  · rcases Index.entries_or_first key items with ⟨entries, rfl, hentries⟩ | ⟨before, a, after, f', rfl, hbefore, hf⟩
    · rw [indexBy, Index.addAll_of_hasKey hentries] at hfault
      cases hfault
    · rw [indexBy, Index.addAll_of_lacksKey hbefore hf] at hfault
      exact ⟨before, a, after, rfl, hbefore, Except.error.inj hfault ▸ hf⟩
  · rintro ⟨before, a, after, rfl, hbefore, hf⟩
    exact Index.addAll_of_lacksKey hbefore hf []
  · rcases Index.entries_or_first key items with ⟨entries, rfl, hentries⟩ | ⟨before, a, after, f, rfl, -, hf⟩
    · refine ⟨entries, _, rfl, hentries, Index.addAll_of_hasKey hentries [], ?_⟩
      exact Index.lastWins_nil.update fun e he => (hentries e he).2
    · obtain ⟨k, hk⟩ := hkeys a (List.mem_append_right _ List.mem_cons_self)
      exact absurd hk (Index.not_hasKey_of_lacksKey hf k)
  · rw [indexBy, Index.addAll_append]
    refine congrArg _ (funext fun index => ?_)
    rw [Index.addAll_eq_bind]
    cases indexBy key later <;> rfl

/-- A whole number, a double and a truth value that are one key, and a text between them. -/
theorem indexBy_lastWins_of_numbers :
    let key : Value × String → Except KeyFault Value := fun a => .ok a.1
    let items : List (Value × String) :=
      [(.int 1, "whole"), (.str "k".toList, "text"), (.float 1.0, "double"), (.bool true, "truth")]
    let index : Index (Value × String) :=
      [(.int 1, (.bool true, "truth")), (.str "k".toList, (.str "k".toList, "text"))]
    (∀ a ∈ items, ∃ k, HasKey key a k) ∧ indexBy key items = .ok index ∧
      ∃ entries : List (Value × (Value × String)), entries.map (·.2) = items ∧ index.LastWins entries := by
  intro key items index
  have hkeys : ∀ a ∈ items, ∃ k, HasKey key a k := by
    simp only [items, List.forall_mem_cons, List.not_mem_nil, false_implies, implies_true, and_true]
    exact ⟨⟨_, rfl, rfl⟩, ⟨_, rfl, rfl⟩, ⟨_, rfl, rfl⟩, ⟨_, rfl, rfl⟩⟩
  have hrun : indexBy key items = .ok index := by rfl
  obtain ⟨-, -, hall, -⟩ := indexBy_lastWins key items
  obtain ⟨entries, index', hitems, -, hindex, hlast⟩ := hall hkeys
  obtain rfl := Except.ok.inj (hrun.symm.trans hindex)
  exact ⟨hkeys, hrun, entries, hitems, hlast⟩

end TagDoc

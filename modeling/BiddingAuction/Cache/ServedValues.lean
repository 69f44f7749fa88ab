import BiddingAuction.Cache.BatchInsert

/-!
# What a cache serves

`Insert` looks for the keys of its batch only after it has made room, and refreshes those that
are still there without their values. So what is served of a key is what came with the batch
that brought the key in, and no later batch changes it while the key stays. `Held` says this
of the history of a run; `query_serves_held` that it is what `Query` answers.
-/

namespace BiddingAuction

open Foundation Cache

variable {K V : Type} [DecidableEq K]

/-! ## The history of a key -/

/-- The entries that an action looks its keys up in: `Insert` makes room first. -/
def CacheSystem.lookedUp (s : CacheSystem K V) : CacheAction K V → Option (Cache K V)
  | .insert entries => s.cache.makeRoom entries
  | _ => some s.cache

def CacheAction.batch : CacheAction K V → FlatHashMap K V
  | .insert entries => entries
  | _ => ∅

/-- The last batch that brought the key in, rather than refreshed it, had `v` for it, and the
key has stayed since. -/
inductive Held (cap : ℤ) (ttl : ℕ) (k : K) (v : V) :
    List (CacheAction K V) → CacheSystem K V → Prop
  | brought {trace s a s' c} : (cacheSystem K V cap ttl).Run trace s →
      (cacheSystem K V cap ttl).step s a s' → s.lookedUp a = some c → c.valueOf k = none →
      a.batch.lookup k = some v → s'.cache.valueOf k ≠ none → Held cap ttl k v (a :: trace) s'
  | stayed {trace s a s' c} : Held cap ttl k v trace s → (cacheSystem K V cap ttl).step s a s' →
      s.lookedUp a = some c → c.valueOf k ≠ none → s'.cache.valueOf k ≠ none →
      Held cap ttl k v (a :: trace) s'

theorem Held.run {cap : ℤ} {ttl : ℕ} {k : K} {v : V} {trace : List (CacheAction K V)}
    {s : CacheSystem K V} (h : Held cap ttl k v trace s) :
    (cacheSystem K V cap ttl).Run trace s := by
  induction h with
  | brought run hstep => exact .next run trivial hstep
  | stayed _ hstep _ _ _ ih => exact .next ih trivial hstep

/-! ## Values -/

theorem Cache.Stores.valueOf_eq_some {c : Cache K V} {es : List (CacheHashData K V)}
    (h : c.Stores es) {k : K} {v : V} :
    c.valueOf k = some v ↔ ∃ d ∈ es, d.key = k ∧ d.value = v := by
  rw [h.valueOf, Option.map_eq_some_iff]
  constructor
  · rintro ⟨d, hentry, rfl⟩
    exact ⟨d, mem_of_entryAt hentry, key_of_entryAt hentry, rfl⟩
  · rintro ⟨d, hd, rfl, rfl⟩
    exact ⟨d, entryAt_of_mem h.keys_nodup hd, rfl⟩

/-- What an entry of `Insert` holds: what was there when its key was looked up, or else what
the batch has. -/
theorem value_of_mem_afterInsert {c : Cache K V} {cap : ℤ} {now : ℕ}
    {entries : FlatHashMap K V} {es : List (CacheHashData K V)}
    (hroom : c.Stores (es.take (cap - entries.entries.length).toNat))
    {d : CacheHashData K V} (hd : d ∈ afterInsert cap now entries.entries es) :
    c.valueOf d.key = some d.value ∨
      c.valueOf d.key = none ∧ entries.lookup d.key = some d.value := by
  rw [afterInsert_eq cap now entries.nodupKeys, List.mem_append, List.mem_reverse, List.mem_map,
    List.mem_filter] at hd
  rcases hd with ⟨entry, hentry, rfl⟩ | ⟨hd, -⟩
  · have hbatch : entries.lookup entry.1 = some entry.2 :=
      AList.mem_lookup_iff.mpr ((handled_sublist ..).subset hentry)
    rw [key_settled (key_rearm now), show (freshEntry now entry).key = entry.1 from rfl,
      hroom.valueOf, hbatch]
    unfold settled
    rw [show (freshEntry now entry).key = entry.1 from rfl]
    cases entryAt CacheHashData.key entry.1 (es.take (cap - entries.entries.length).toNat) with
    | none => exact .inr ⟨rfl, rfl⟩
    | some old => exact .inl rfl
  · exact .inl (hroom.valueOf_eq_some.mpr ⟨d, hd, rfl, rfl⟩)

/-- The step lemma: a value after an action was there when the action looked the key up, or
came with its batch; and what was there then was there before. -/
theorem value_of_step {cap : ℤ} {ttl : ℕ} {trace : List (CacheAction K V)}
    {s s' : CacheSystem K V} (run : (cacheSystem K V cap ttl).Run trace s) {a : CacheAction K V}
    (hstep : (cacheSystem K V cap ttl).step s a s') :
    ∃ c, s.lookedUp a = some c ∧ ∀ k v,
      (c.valueOf k = some v → s.cache.valueOf k = some v) ∧
      (s'.cache.valueOf k = some v → c.valueOf k = some v ∨
        c.valueOf k = none ∧ a.batch.lookup k = some v) := by
  obtain ⟨es, inv⟩ := cacheInv_of_run run
  obtain ⟨es', heffect, inv'⟩ := inv.step hstep.1 hstep.2
  have hes := inv.stores
  have hes' := inv'.stores
  have hkeep (hold : ∀ d ∈ es', ∃ old ∈ es, old.key = d.key ∧ old.value = d.value) (k : K) (v : V)
      (h : s'.cache.valueOf k = some v) : s.cache.valueOf k = some v := by
    obtain ⟨d, hd, rfl, rfl⟩ := hes'.valueOf_eq_some.mp h
    exact hes.valueOf_eq_some.mpr (hold d hd)
  cases heffect with
  | insert entries cache hframe =>
    obtain ⟨c, hroom, -, hc⟩ := makeRoom_spec hes inv.capacity entries
    refine ⟨c, hroom, fun k v => ⟨fun h => ?_, fun h => ?_⟩⟩
    · obtain ⟨d, hd, hkey⟩ := hc.valueOf_eq_some.mp h
      exact hes.valueOf_eq_some.mpr ⟨d, List.mem_of_mem_take hd, hkey⟩
    · obtain ⟨d, hd, rfl, rfl⟩ := hes'.valueOf_eq_some.mp h
      exact value_of_mem_afterInsert hc hd
  | query keys cache hframe =>
    refine ⟨s.cache, rfl, fun k v => ⟨id, fun h => .inl (hkeep ?_ k v h)⟩⟩
    exact fun d hd => ⟨d, mem_of_mem_promoted hd, rfl, rfl⟩
  | advance duration =>
    exact ⟨s.cache, rfl, fun k v => ⟨id, .inl⟩⟩
  | fire node cache pre post d heq hdue hcapacity hexpiry hexecutor =>
    refine ⟨s.cache, rfl, fun k v => ⟨id, fun h => .inl (hkeep ?_ k v h)⟩⟩
    subst heq
    intro e he
    rcases List.mem_append.mp he with he | he
    · exact ⟨e, List.mem_append_left _ he, rfl, rfl⟩
    · rcases List.mem_cons.mp he with rfl | he
      · exact ⟨d, List.mem_append_right _ List.mem_cons_self, rfl, rfl⟩
      · exact ⟨e, List.mem_append_right _ (List.mem_cons_of_mem _ he), rfl, rfl⟩
  | run i w cache hw hframe =>
    refine ⟨s.cache, rfl, fun k v => ⟨id, fun h => .inl (hkeep ?_ k v h)⟩⟩
    intro e he
    split at he
    · exact ⟨e, List.mem_of_mem_filter he, rfl, rfl⟩
    · exact ⟨e, he, rfl, rfl⟩

/-- The run lemma: what is stored for a key is what its history says. -/
theorem valueOf_iff_held {cap : ℤ} {ttl : ℕ} {trace : List (CacheAction K V)}
    {s : CacheSystem K V} (run : (cacheSystem K V cap ttl).Run trace s) (k : K) (v : V) :
    s.cache.valueOf k = some v ↔ Held cap ttl k v trace s := by
  constructor
  · intro hvalue
    induction run with
    | start hinit =>
      cases hinit
      cases hvalue
    | next run _ hstep ih =>
      have hstored := Option.ne_none_iff_exists'.mpr ⟨v, hvalue⟩
      obtain ⟨c, hc, hvalues⟩ := value_of_step run hstep
      rcases (hvalues k v).2 hvalue with hthere | ⟨hmissing, hbatch⟩
      · exact .stayed (ih ((hvalues k v).1 hthere)) hstep hc
          (Option.ne_none_iff_exists'.mpr ⟨v, hthere⟩) hstored
      · exact .brought run hstep hc hmissing hbatch hstored
  · intro hheld
    clear run
    induction hheld with
    | brought run hstep hc hmissing hbatch hstored =>
      obtain ⟨v', hv'⟩ := Option.ne_none_iff_exists'.mp hstored
      obtain ⟨c', hc', hvalues⟩ := value_of_step run hstep
      cases hc.symm.trans hc'
      rcases (hvalues k v').2 hv' with hthere | ⟨-, hbatch'⟩
      · rw [hmissing] at hthere
        cases hthere
      · cases hbatch.symm.trans hbatch'
        exact hv'
    | stayed hheld hstep hc hthere hstored ih =>
      obtain ⟨v', hv'⟩ := Option.ne_none_iff_exists'.mp hstored
      obtain ⟨c', hc', hvalues⟩ := value_of_step hheld.run hstep
      cases hc.symm.trans hc'
      rcases (hvalues k v').2 hv' with hthere' | ⟨hmissing, -⟩
      · cases ih.symm.trans ((hvalues k v').1 hthere')
        exact hv'
      · exact absurd hmissing hthere

/-! ## `Query` -/

theorem valueOf_promote {c c' : Cache K V} {es : List (CacheHashData K V)} (hes : c.Stores es)
    {k₀ : K} (hes' : c'.Stores (promote CacheHashData.key id k₀ es)) (k : K) :
    c'.valueOf k = c.valueOf k := by
  refine Option.ext fun v => ?_
  rw [hes'.valueOf_eq_some, hes.valueOf_eq_some]
  constructor
  · rintro ⟨d, hd, hkey⟩
    exact ⟨d, promote_subset k₀ es hd, hkey⟩
  · rintro ⟨d, hd, rfl, rfl⟩
    refine ⟨d, ?_, rfl, rfl⟩
    unfold promote
    cases hentry : entryAt CacheHashData.key k₀ es with
    | none => exact hd
    | some e =>
      by_cases hkey : d.key = k₀
      · rw [← hkey, entryAt_of_mem hes.keys_nodup hd] at hentry
        cases hentry
        exact List.mem_cons_self
      · exact List.mem_cons_of_mem _ (List.mem_filter.mpr ⟨hd, by simpa using hkey⟩)

theorem lookup_queried {c : Cache K V} {es : List (CacheHashData K V)} (hes : c.Stores es)
    (keys : List K) (found : FlatHashMap K V) :
    ∃ c' found', keys.foldlM queryKey (c, found) = some (c', found') ∧
      ∀ k, found'.lookup k =
        if k ∈ keys then (c.valueOf k).or (found.lookup k) else found.lookup k := by
  induction keys generalizing c es found with
  | nil => exact ⟨c, found, rfl, fun k => rfl⟩
  | cons key keys ih =>
    obtain ⟨c₁, hturn, -, hes₁⟩ := queryKey_spec hes found key
    obtain ⟨c', found', hrest, hfound⟩ := ih hes₁ _
    refine ⟨c', found', by rw [List.foldlM_cons, hturn]; exact hrest, fun k => ?_⟩
    rw [hfound k, valueOf_promote hes hes₁, hes.valueOf]
    by_cases hk : k = key
    · subst hk
      cases hentry : entryAt CacheHashData.key k es with
      | none => simp
      | some d => simp
    · have hother : (((entryAt CacheHashData.key key es).elim found
          fun d => found.insert key d.value).lookup k) = found.lookup k := by
        cases entryAt CacheHashData.key key es with
        | none => rfl
        | some d => exact AList.lookup_insert_ne hk
      rw [hother]
      simp [hk]

/-- In every reachable state `Query` runs, and what it answers for a key it was asked for is what
the key's history says: what came with the batch that brought the key in, since when it has
stayed. -/
theorem query_serves_held {cap : ℤ} {ttl : ℕ} {trace : List (CacheAction K V)}
    {s : CacheSystem K V} (run : (cacheSystem K V cap ttl).Run trace s) (keys : FlatHashSet K) :
    ∃ c' found, s.cache.query keys = some (c', found) ∧
      ∀ k v, found.lookup k = some v ↔ k ∈ keys.elems ∧ Held cap ttl k v trace s := by
  obtain ⟨es, inv⟩ := cacheInv_of_run run
  obtain ⟨c', found, hrun, hfound⟩ := lookup_queried inv.stores keys.elems ∅
  refine ⟨c', found, hrun, fun k v => ?_⟩
  rw [hfound k, ← valueOf_iff_held run, AList.lookup_empty, Option.or_none]
  by_cases hk : k ∈ keys.elems
  · rw [if_pos hk]
    exact ⟨fun h => ⟨hk, h⟩, And.right⟩
  · rw [if_neg hk]
    exact iff_of_false (fun h => nomatch h) fun h => hk h.1

/-- A batch with a new value for a key that is there. -/
theorem query_serves_held_refreshed :
    ∃ (s : CacheSystem ℕ ℕ) (c' : Cache ℕ ℕ) (found : FlatHashMap ℕ ℕ),
      s.cache.query ⟨[1], by decide⟩ = some (c', found) ∧ found.lookup 1 = some 10 := by
  have run : (cacheSystem ℕ ℕ 4 5).Run
      [.insert (AList.singleton 1 20), .insert (AList.singleton 1 10)] _ :=
    .next (.next (.start rfl) trivial ⟨trivial, rfl⟩) trivial ⟨trivial, rfl⟩
  obtain ⟨c', found, hquery, hfound⟩ := query_serves_held run ⟨[1], by decide⟩
  exact ⟨_, c', found, hquery, (hfound 1 10).mpr ⟨by decide, (valueOf_iff_held run 1 10).mp rfl⟩⟩

end BiddingAuction

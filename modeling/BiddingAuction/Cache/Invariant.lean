import BiddingAuction.Cache.Representation

/-!
# The cache over whole runs

`CacheEffect` says what one action does to the stored entries, `exec_effect`
that every enabled action runs and has that effect. `CacheInv` is the invariant
of the runs: it ties the stored entries to the history of the run, their order
to the order of use and their timers to the last time each key was inserted.
-/

namespace BiddingAuction

open Foundation Cache

variable {K V : Type} [DecidableEq K]

/-! ## The history of a run -/

def CacheAction.usedKeys : CacheAction K V → List K
  | .insert entries => entries.keys.reverse
  | .query keys => keys.elems.reverse
  | _ => []

def recencyLog (trace : List (CacheAction K V)) : List K := trace.flatMap CacheAction.usedKeys

def clock : List (CacheAction K V) → ℕ
  | [] => 0
  | .advance duration :: trace => clock trace + duration
  | _ :: trace => clock trace

def lastInsert (k : K) : List (CacheAction K V) → Option ℕ
  | [] => none
  | .insert entries :: trace => if k ∈ entries.keys then some (clock trace) else lastInsert k trace
  | _ :: trace => lastInsert k trace

/-! ## The effect of one action -/

/-- What an action does to the stored entries, the clock and the queued expiries. -/
inductive CacheEffect (cap : ℤ) (s : CacheSystem K V) (es : List (CacheHashData K V)) :
    CacheAction K V → CacheSystem K V → List (CacheHashData K V) → Prop
  | insert (entries : FlatHashMap K V) (cache : Cache K V) :
      s.cache.Frame cache →
      CacheEffect cap s es (.insert entries) { s with cache }
        (afterInsert cap s.now entries.entries es)
  | query (keys : FlatHashSet K) (cache : Cache K V) :
      s.cache.Frame cache →
      CacheEffect cap s es (.query keys) { s with cache }
        (keys.elems.foldl (fun es k => promote CacheHashData.key id k es) es)
  | advance (duration : ℕ) :
      CacheEffect cap s es (.advance duration) { s with now := s.now + duration } es
  | fire (node : Ptr) (cache : Cache K V) (pre post : List (CacheHashData K V))
      (d : CacheHashData K V) :
      es = pre ++ d :: post → d.timerEvent.addedAt + s.cache.expiry ≤ s.now →
      cache.capacity = s.cache.capacity → cache.expiry = s.cache.expiry →
      cache.executor = s.cache.executor ++ [⟨d.key, .timeout⟩] →
      CacheEffect cap s es (.fire node) { s with cache } (pre ++ disarm d :: post)
  | run (i : ℕ) (w : ExpiryWork K) (cache : Cache K V) :
      s.cache.executor[i]? = some w →
      Frame { s.cache with executor := s.cache.executor.eraseIdx i } cache →
      CacheEffect cap s es (.run i) { s with cache }
        (if w.eventType = .timeout then withoutKey CacheHashData.key w.key es else es)

/-- Every enabled action runs, never following a null or freed pointer, and has
its effect. -/
theorem exec_effect {cap : ℤ} {s : CacheSystem K V}
    {es : List (CacheHashData K V)} (hes : s.cache.Stores es) (hcap : s.cache.capacity = cap)
    {a : CacheAction K V} (henabled : s.Enabled a) :
    ∃ s' es', s.exec a = some s' ∧ s'.cache.Stores es' ∧ CacheEffect cap s es a s' es' := by
  cases a with
  | insert entries =>
    obtain ⟨c, hrun, hframe, hes'⟩ := insert_spec hes s.now hcap entries
    exact ⟨_, _, by rw [CacheSystem.exec, hrun]; rfl, hes', .insert entries c hframe⟩
  | query keys =>
    obtain ⟨c, found, hrun, hframe, hes', -⟩ := query_spec hes keys.elems ∅
    refine ⟨{ s with cache := c }, _, ?_, hes', .query keys c hframe⟩
    rw [CacheSystem.exec, Cache.query, hrun]
    rfl
  | advance duration => exact ⟨_, _, rfl, hes, .advance duration⟩
  | fire node =>
    obtain ⟨d, hdata, -, hdue⟩ := henabled
    obtain ⟨c, pre, post, hrun, heq, hes', hcapacity, hexpiry, hexecutor⟩ := fire_spec hes hdata
    exact ⟨_, _, by rw [CacheSystem.exec, hrun]; rfl, hes',
      .fire node c pre post d heq hdue hcapacity hexpiry hexecutor⟩
  | run i =>
    have hw : s.cache.executor[i]? = some s.cache.executor[i] := List.getElem?_eq_getElem henabled
    have hes₀ : Stores { s.cache with executor := s.cache.executor.eraseIdx i } es := by
      obtain ⟨cells, rep, heq⟩ := hes
      exact ⟨cells, ⟨rep.holds, rep.keys_nodup, rep.mapped, rep.counted⟩, heq⟩
    obtain ⟨c, hrun, hframe, hes'⟩ := runWork_spec hes₀ s.cache.executor[i]
    refine ⟨{ s with cache := c }, _, ?_, hes', .run i _ c hw hframe⟩
    rw [CacheSystem.exec, hw]
    simp only [Option.bind_eq_bind, Option.bind_some, hrun]
    rfl

theorem CacheSystem.enabled_run {s s' : CacheSystem K V} {i : ℕ}
    (hexec : s.exec (.run i) = some s') : s.Enabled (.run i) := by
  by_contra hbeyond
  have hnone : s.cache.executor[i]? = none := List.getElem?_eq_none (Nat.le_of_not_lt hbeyond)
  rw [CacheSystem.exec, hnone] at hexec
  cases hexec

/-! ## What the effects preserve -/

/-- An entry after `Insert` is armed now under a key of the batch, or was there
before under another key. -/
theorem mem_afterInsert {cap : ℤ} {now : ℕ} {entries : List (Sigma fun _ : K => V)}
    (hnodup : (entries.map Sigma.fst).Nodup) {es : List (CacheHashData K V)}
    {d : CacheHashData K V} (hd : d ∈ afterInsert cap now entries es) :
    (d.key ∈ entries.map Sigma.fst ∧ d.timerEvent = ⟨now, true⟩) ∨
      (d.key ∉ entries.map Sigma.fst ∧ d ∈ es) := by
  rw [afterInsert_eq cap now hnodup, List.mem_append, List.mem_reverse, List.mem_map,
    List.mem_filter] at hd
  rcases hd with ⟨entry, hentry, rfl⟩ | ⟨hd, hout⟩
  · refine .inl ⟨?_, ?_⟩
    · rw [key_settled (key_rearm now)]
      exact List.mem_map_of_mem ((handled_sublist ..).subset hentry)
    · rw [settled]
      cases entryAt CacheHashData.key (freshEntry now entry).key
        (es.take (cap - entries.length).toNat) <;> rfl
  · exact .inr ⟨by simpa using hout, List.mem_of_mem_take hd⟩

/-- The keys after `Insert`. -/
theorem map_key_afterInsert (cap : ℤ) (now : ℕ) {entries : List (Sigma fun _ : K => V)}
    (hnodup : (entries.map Sigma.fst).Nodup) (es : List (CacheHashData K V)) :
    (afterInsert cap now entries es).map CacheHashData.key =
      ((handled cap entries).map Sigma.fst).reverse ++
        ((es.take (cap - entries.length).toNat).map CacheHashData.key).filter
          fun k => k ∉ entries.map Sigma.fst := by
  rw [afterInsert_eq cap now hnodup, List.map_append, List.map_reverse, List.map_map,
    List.filter_map]
  congr 2
  exact List.map_congr_left fun entry _ => key_settled (key_rearm now) _ _

/-- `Query` neither adds nor rewrites entries. -/
theorem mem_of_mem_promoted {keys : List K} {es : List (CacheHashData K V)}
    {d : CacheHashData K V}
    (hd : d ∈ keys.foldl (fun es k => promote CacheHashData.key id k es) es) : d ∈ es := by
  induction keys generalizing es with
  | nil => exact hd
  | cons k keys ih => exact promote_subset k es (ih hd)

/-- The keys after `Query`. -/
theorem map_key_promotedKeys {keys : List K} (hnodup : keys.Nodup)
    (es : List (CacheHashData K V)) :
    (keys.foldl (fun es k => promote CacheHashData.key id k es) es).map CacheHashData.key =
      (keys.filter fun k => k ∈ es.map CacheHashData.key).reverse ++
        (es.map CacheHashData.key).filter fun k => k ∉ keys := by
  rw [foldl_promote (f := id) (fun _ => rfl) hnodup, List.map_append, List.map_reverse,
    map_key_promoted (f := id) (fun _ => rfl), List.filter_map]
  rfl

/-! ## The invariant -/

/-- The invariant of the runs of a cache of capacity `cap` and ttl `ttl`. -/
structure CacheInv (cap : ℤ) (ttl : ℕ) (trace : List (CacheAction K V)) (s : CacheSystem K V)
    (es : List (CacheHashData K V)) : Prop where
  stores : s.cache.Stores es
  capacity : s.cache.capacity = cap
  expiry : s.cache.expiry = ttl
  bounded : 0 < cap → es.length ≤ cap
  recent : RecencyOrdered (recencyLog trace) (es.map CacheHashData.key)
  time : s.now = clock trace
  armed : ∀ d ∈ es, lastInsert d.key trace = some d.timerEvent.addedAt

omit [DecidableEq K] in
/-- Entries with distinct keys among those of `es` are no more than `es`. -/
theorem length_le_of_keys_subset {es es' : List (CacheHashData K V)}
    (hnodup : (es'.map CacheHashData.key).Nodup)
    (hsub : es'.map CacheHashData.key ⊆ es.map CacheHashData.key) : es'.length ≤ es.length := by
  have := (List.subperm_of_subset hnodup hsub).length_le
  simpa using this

theorem CacheInv.effect {cap : ℤ} {ttl : ℕ} {trace : List (CacheAction K V)}
    {s s' : CacheSystem K V} {es es' : List (CacheHashData K V)} (inv : CacheInv cap ttl trace s es)
    {a : CacheAction K V} (heffect : CacheEffect cap s es a s' es')
    (hes' : s'.cache.Stores es') : CacheInv cap ttl (a :: trace) s' es' := by
  cases heffect with
  | insert entries cache hframe =>
    have hnodup : (entries.entries.map Sigma.fst).Nodup := entries.nodupKeys
    have hkeys := map_key_afterInsert cap s.now hnodup es
    refine ⟨hes', hframe.capacity.trans inv.capacity, hframe.expiry.trans inv.expiry, ?_, ?_,
      inv.time, ?_⟩
    · -- the batch's entries and the kept ones fit, whichever of the two is short
      intro hpos
      have hlength := congrArg List.length hkeys
      have hfilter := List.length_filter_le (fun k => decide (k ∉ entries.entries.map Sigma.fst))
        ((es.take (cap - entries.entries.length).toNat).map CacheHashData.key)
      rw [handled, if_pos hpos] at hlength
      simp only [List.length_map, List.length_append, List.length_reverse, List.length_take]
        at hlength hfilter
      omega
    · rw [hkeys]
      refine RecencyOrdered.batch (inv.recent.sublist ?_) hnodup ?_
      · exact (List.take_sublist ..).map _
      · exact (handled_sublist ..).map _
    · intro d hd
      rcases mem_afterInsert hnodup hd with ⟨hin, harmed⟩ | ⟨hout, hold⟩
      · rw [lastInsert, if_pos (show d.key ∈ entries.keys from hin), harmed, inv.time]
      · rw [lastInsert, if_neg (show d.key ∉ entries.keys from hout)]
        exact inv.armed d hold
  | query keys cache hframe =>
    have hkeys := map_key_promotedKeys keys.nodup es
    refine ⟨hes', hframe.capacity.trans inv.capacity, hframe.expiry.trans inv.expiry, ?_, ?_,
      inv.time, ?_⟩
    · -- promoting moves entries about
      intro hpos
      refine Int.le_trans (Int.ofNat_le.mpr (length_le_of_keys_subset hes'.keys_nodup ?_))
        (inv.bounded hpos)
      intro k hk
      obtain ⟨d, hd, rfl⟩ := List.mem_map.mp hk
      exact List.mem_map_of_mem (mem_of_mem_promoted hd)
    · rw [hkeys]
      exact inv.recent.batch keys.nodup (List.filter_sublist ..)
    · intro d hd
      exact inv.armed d (mem_of_mem_promoted hd)
  | advance duration =>
    exact ⟨hes', inv.capacity, inv.expiry, inv.bounded, inv.recent,
      congrArg (· + duration) inv.time, inv.armed⟩
  | fire node cache pre post d heq hdue hcapacity hexpiry hexecutor =>
    subst heq
    refine ⟨hes', hcapacity.trans inv.capacity, hexpiry.trans inv.expiry, ?_, ?_, inv.time, ?_⟩
    · simpa using inv.bounded
    · simpa [recencyLog, CacheAction.usedKeys, disarm] using inv.recent
    · -- going off does not change when the timer was added
      intro e he
      rcases List.mem_append.mp he with he | he
      · exact inv.armed e (by simp [he])
      · rcases List.mem_cons.mp he with rfl | he
        · exact inv.armed d (by simp)
        · exact inv.armed e (by simp [he])
  | run i w cache hw hframe =>
    have hsub : (if w.eventType = .timeout then withoutKey CacheHashData.key w.key es
        else es).Sublist es := by
      split
      · exact List.filter_sublist ..
      · exact List.Sublist.refl es
    exact ⟨hes', hframe.capacity.trans inv.capacity, hframe.expiry.trans inv.expiry,
      fun hpos => Int.le_trans (Int.ofNat_le.mpr hsub.length_le) (inv.bounded hpos),
      inv.recent.sublist (hsub.map _), inv.time, fun d hd => inv.armed d (hsub.subset hd)⟩

theorem cacheInv_init (cap : ℤ) (ttl : ℕ) :
    CacheInv cap ttl [] ⟨(.new cap ttl : Cache K V), 0⟩ [] :=
  ⟨⟨[], new_rep .., rfl⟩, rfl, rfl, Int.le_of_lt, .nil _, rfl, by simp⟩

theorem CacheInv.step {cap : ℤ} {ttl : ℕ} {trace : List (CacheAction K V)}
    {s s' : CacheSystem K V} {es : List (CacheHashData K V)} (inv : CacheInv cap ttl trace s es)
    {a : CacheAction K V} (henabled : s.Enabled a) (hexec : s.exec a = some s') :
    ∃ es', CacheEffect cap s es a s' es' ∧ CacheInv cap ttl (a :: trace) s' es' := by
  obtain ⟨t, es', hrun, hes', heffect⟩ := exec_effect inv.stores inv.capacity henabled
  obtain rfl : t = s' := Option.some.inj (hrun.symm.trans hexec)
  exact ⟨es', heffect, inv.effect heffect hes'⟩

/-- What holds initially and is preserved by every admitted effect under the
invariant holds, with the invariant, after every admitted run. -/
theorem cacheInv_with {cap : ℤ} {ttl : ℕ} {C : CacheSystem K V → CacheAction K V → Prop}
    {J : CacheSystem K V → List (CacheHashData K V) → Prop}
    (init : J ⟨.new cap ttl, 0⟩ [])
    (step : ∀ trace s es a s' es', CacheInv cap ttl trace s es → J s es → C s a →
      CacheEffect cap s es a s' es' → J s' es')
    {trace : List (CacheAction K V)} {s : CacheSystem K V}
    (run : (cacheSystem K V cap ttl).RunWhere C trace s) :
    ∃ es, CacheInv cap ttl trace s es ∧ J s es := by
  refine run.invariant (I := fun trace s => ∃ es, CacheInv cap ttl trace s es ∧ J s es) ?_ ?_
  · rintro s rfl
    exact ⟨[], cacheInv_init cap ttl, init⟩
  · rintro trace s a s' ⟨es, inv, hJ⟩ hadmitted ⟨henabled, hexec⟩
    obtain ⟨es', heffect, inv'⟩ := inv.step henabled hexec
    exact ⟨es', inv', step trace s es a s' es' inv hJ hadmitted heffect⟩

theorem cacheInv_of_run {cap : ℤ} {ttl : ℕ} {trace : List (CacheAction K V)}
    {s : CacheSystem K V} (run : (cacheSystem K V cap ttl).Run trace s) :
    ∃ es, CacheInv cap ttl trace s es := by
  obtain ⟨es, inv, -⟩ := cacheInv_with (J := fun _ _ => True) trivial
    (fun _ _ _ _ _ _ _ _ _ _ => trivial) run
  exact ⟨es, inv⟩

/-! ## The representation invariant -/

/-- List, map and counter hold the same entries: `cells`, in list order. -/
structure Cache.Consistent (c : Cache K V) (cells : List (DoublyLinkedList.Cell K V)) : Prop where
  linked : c.dll.links.Path (c.dll.head :: (cells.map Prod.fst ++ [c.dll.tail]))
  nodes : ∀ p d, c.dll.data p = some d ↔ (p, d) ∈ cells
  mapped : ∀ k p, c.hashToNode.lookup k = some p ↔ ∃ d, (p, d) ∈ cells ∧ d.key = k
  distinct : (cells.map cellKey).Nodup
  map_size : c.hashToNode.keys.length = cells.length
  counted : c.numEntries = cells.length

theorem Cache.Rep.consistent {c : Cache K V} {cells : List (DoublyLinkedList.Cell K V)}
    (rep : c.Rep cells) : c.Consistent cells := by
  have hmapped : ∀ k p, c.hashToNode.lookup k = some p ↔ ∃ d, (p, d) ∈ cells ∧ d.key = k := by
    intro k p
    rw [rep.mapped, Option.map_eq_some_iff]
    constructor
    · rintro ⟨⟨p, d⟩, hentry, rfl⟩
      have hkey : cellKey (p, d) = k := key_of_entryAt hentry
      exact ⟨d, mem_of_entryAt hentry, hkey⟩
    · rintro ⟨d, hmem, rfl⟩
      exact ⟨(p, d), entryAt_of_mem rep.keys_nodup hmem, rfl⟩
  refine ⟨rep.holds.path, fun p d => (rep.holds.payload (p, d)).symm, hmapped, rep.keys_nodup, ?_,
    rep.counted⟩
  have hperm : c.hashToNode.keys.Perm (cells.map cellKey) := by
    refine (List.perm_ext_iff_of_nodup c.hashToNode.keys_nodup rep.keys_nodup).mpr ?_
    intro k
    rw [← AList.mem_keys, ← not_iff_not, ← AList.lookup_eq_none, rep.lookup_eq_none,
      entryAt_eq_none]
  simpa using hperm.length_eq

end BiddingAuction

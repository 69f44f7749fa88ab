import BiddingAuction.Cache.Invariant
import Mathlib.Data.Finset.Card

/-!
# What `Insert` makes of a batch

The law of a batch insert: every key of the batch maps to its inserted value,
and the entries outside the batch that leave are the least recently used ones,
as many as the union of old keys and batch exceeds the capacity. `Insert` makes
room before it looks which keys of the batch exist, and an existing entry keeps
its value, so the law holds exactly when `OverlapHarmless` does.
-/

namespace BiddingAuction

open Foundation Cache

variable {K V : Type} [DecidableEq K]

def Cache.valueOf (c : Cache K V) (k : K) : Option V := (c.payload k).map CacheHashData.value

theorem Cache.Stores.valueOf {c : Cache K V} {es : List (CacheHashData K V)} (h : c.Stores es)
    (k : K) : c.valueOf k = (entryAt CacheHashData.key k es).map CacheHashData.value := by
  rw [Cache.valueOf, h.payload]

/-! ## The law and when it holds -/

/-- The keys stored outside a batch, most recently used first. -/
def outsideBatch (entries : FlatHashMap K V) (es : List (CacheHashData K V)) : List K :=
  (es.map CacheHashData.key).filter fun k => k ∉ entries

/-- The law of `Insert(entries)` on a cache of capacity `cap` storing `es`. -/
structure BatchInserted (cap : ℕ) (entries : FlatHashMap K V) (es : List (CacheHashData K V))
    (c' : Cache K V) : Prop where
  values : ∀ k v, entries.lookup k = some v → c'.valueOf k = some v
  evicted : (outsideBatch entries es).filter (fun k => (c'.valueOf k).isNone) =
    (outsideBatch entries es).drop ((outsideBatch entries es).length -
      (((es.map CacheHashData.key).toFinset ∪ entries.keys.toFinset).card - cap))

/-- Of the entries `es`, the batch meets the `cap - b` most recently used ones in
no key or meets all the others, where `b` is its size; and those it meets among
the former have the value it inserts. -/
structure OverlapHarmless (cap : ℕ) (entries : FlatHashMap K V)
    (es : List (CacheHashData K V)) : Prop where
  keys : (∀ d ∈ es.take (cap - entries.keys.length), d.key ∉ entries) ∨
    ∀ d ∈ es.drop (cap - entries.keys.length), d.key ∈ entries
  values : ∀ d ∈ es.take (cap - entries.keys.length), ∀ v,
    entries.lookup d.key = some v → d.value = v

/-! ## Proof -/

section Proof

variable {cap now : ℕ} {entries : FlatHashMap K V} {es : List (CacheHashData K V)} {c' : Cache K V}

/-- `afterInsert` for a batch within the capacity. -/
theorem afterInsert_of_fits (now : ℕ) (hfits : entries.keys.length ≤ cap)
    (es : List (CacheHashData K V)) :
    afterInsert cap now entries.entries es =
      (entries.entries.map fun entry => settled CacheHashData.key (rearm now)
        (es.take (cap - entries.keys.length)) (freshEntry now entry)).reverse ++
      (es.take (cap - entries.keys.length)).filter fun d => d.key ∉ entries := by
  have hsize : entries.entries.length = entries.keys.length := (List.length_map _).symm
  have hall : handled cap entries.entries = entries.entries := by
    unfold handled
    split
    · exact List.take_of_length_le (by omega)
    · rfl
  rw [afterInsert_eq cap now entries.nodupKeys, hall, hsize, Int.toNat_sub]
  congr 1
  exact List.filter_congr fun d _ => decide_eq_decide.mpr Iff.rfl

theorem valueOf_batch (hfits : entries.keys.length ≤ cap)
    (hes' : c'.Stores (afterInsert cap now entries.entries es)) {k : K} {v : V}
    (hkv : entries.lookup k = some v) :
    c'.valueOf k = some (((entryAt CacheHashData.key k
      (es.take (cap - entries.keys.length))).map CacheHashData.value).getD v) := by
  have hmem : (⟨k, v⟩ : Sigma fun _ : K => V) ∈ entries.entries := AList.mem_lookup_iff.mp hkv
  let e := settled CacheHashData.key (rearm now) (es.take (cap - entries.keys.length))
    (freshEntry now ⟨k, v⟩)
  have hkey : e.key = k := key_settled (key_rearm now) _ _
  have he : e ∈ afterInsert cap now entries.entries es := by
    rw [afterInsert_of_fits now hfits]
    refine List.mem_append_left _ (List.mem_reverse.mpr ?_)
    exact List.mem_map_of_mem (f := fun entry => settled CacheHashData.key (rearm now)
      (es.take (cap - entries.keys.length)) (freshEntry now entry)) hmem
  rw [hes'.valueOf, ← hkey, entryAt_of_mem hes'.keys_nodup he, hkey, Option.map_some]
  show some (((entryAt CacheHashData.key k _).map (rearm now)).getD _).value = _
  cases entryAt CacheHashData.key k (es.take (cap - entries.keys.length)) <;> rfl

theorem valueOf_outside (hfits : entries.keys.length ≤ cap)
    (hes' : c'.Stores (afterInsert cap now entries.entries es)) {k : K} (hout : k ∉ entries) :
    c'.valueOf k = none ↔ k ∉ (es.take (cap - entries.keys.length)).map CacheHashData.key := by
  have hfront : k ∉ ((entries.entries.map fun entry => settled CacheHashData.key (rearm now)
      (es.take (cap - entries.keys.length)) (freshEntry now entry)).reverse).map
        CacheHashData.key := by
    rw [List.map_reverse, List.mem_reverse, List.map_map]
    rintro hmem
    obtain ⟨entry, hentry, rfl⟩ := List.mem_map.mp hmem
    refine hout ?_
    rw [Function.comp_apply, key_settled (key_rearm now)]
    exact AList.mem_keys.mpr (List.mem_map_of_mem (f := Sigma.fst) hentry)
  rw [hes'.valueOf, Option.map_eq_none_iff, afterInsert_of_fits now hfits, entryAt_append hfront,
    entryAt_filter (p := fun k => k ∉ entries) (by simpa using hout), entryAt_eq_none]

theorem card_union_batch (hnodup : (es.map CacheHashData.key).Nodup) :
    ((es.map CacheHashData.key).toFinset ∪ entries.keys.toFinset).card =
      (outsideBatch entries es).length + entries.keys.length := by
  have hunion : (es.map CacheHashData.key).toFinset ∪ entries.keys.toFinset =
      (outsideBatch entries es ++ entries.keys).toFinset := by
    ext k
    simp only [outsideBatch, Finset.mem_union, List.mem_toFinset, List.mem_append,
      List.mem_filter, decide_eq_true_eq, ← AList.mem_keys]
    tauto
  have hdistinct : (outsideBatch entries es ++ entries.keys).Nodup := by
    refine List.nodup_append.mpr ⟨hnodup.filter _, entries.keys_nodup, ?_⟩
    rintro k hk _ hk' rfl
    have hout : k ∉ entries := by simpa using List.of_mem_filter hk
    exact hout (AList.mem_keys.mpr hk')
  rw [hunion, List.toFinset_card_of_nodup hdistinct, List.length_append]

theorem outsideBatch_append (es₁ es₂ : List (CacheHashData K V)) :
    outsideBatch entries (es₁ ++ es₂) = outsideBatch entries es₁ ++ outsideBatch entries es₂ := by
  rw [outsideBatch, List.map_append, List.filter_append]
  rfl

omit [DecidableEq K] in
private theorem forall_mem_keys (p : K → Prop) (es : List (CacheHashData K V)) :
    (∀ k ∈ es.map CacheHashData.key, p k) ↔ ∀ d ∈ es, p d.key := by
  simp

theorem outsideBatch_length_le (entries : FlatHashMap K V) (es : List (CacheHashData K V)) :
    (outsideBatch entries es).length ≤ es.length :=
  (List.length_filter_le ..).trans (List.length_map _).le

theorem outsideBatch_length_eq :
    (outsideBatch entries es).length = es.length ↔ ∀ d ∈ es, d.key ∉ entries := by
  rw [← (List.length_map CacheHashData.key : (es.map _).length = es.length), outsideBatch,
    List.length_filter_eq_length_iff, ← forall_mem_keys fun k => k ∉ entries]
  simp only [decide_eq_true_eq]

theorem outsideBatch_length_eq_zero :
    (outsideBatch entries es).length = 0 ↔ ∀ d ∈ es, d.key ∈ entries := by
  rw [List.length_eq_zero_iff, outsideBatch, List.filter_eq_nil_iff,
    ← forall_mem_keys fun k => k ∈ entries]
  simp only [decide_eq_true_eq, not_not]

theorem evicted_eq (hnodup : (es.map CacheHashData.key).Nodup)
    (hfits : entries.keys.length ≤ cap)
    (hes' : c'.Stores (afterInsert cap now entries.entries es)) :
    (outsideBatch entries es).filter (fun k => (c'.valueOf k).isNone) =
      outsideBatch entries (es.drop (cap - entries.keys.length)) := by
  have hsplit := List.take_append_drop (cap - entries.keys.length) es
  rw [← hsplit, List.map_append, List.nodup_append] at hnodup
  -- room is made for the whole batch, so `take` keeps and `drop` loses
  have hgone : ∀ k ∉ entries, ((c'.valueOf k).isNone = true ↔
      k ∉ (es.take (cap - entries.keys.length)).map CacheHashData.key) := by
    intro k hout
    rw [Option.isNone_iff_eq_none, valueOf_outside hfits hes' hout]
  have hkept : (outsideBatch entries (es.take (cap - entries.keys.length))).filter
      (fun k => (c'.valueOf k).isNone) = [] := by
    refine List.filter_eq_nil_iff.mpr ?_
    intro k hk hnone
    have hout : k ∉ entries := by simpa using List.of_mem_filter hk
    exact (hgone k hout).mp hnone (List.mem_of_mem_filter hk)
  have hdropped : (outsideBatch entries (es.drop (cap - entries.keys.length))).filter
      (fun k => (c'.valueOf k).isNone) =
        outsideBatch entries (es.drop (cap - entries.keys.length)) := by
    refine List.filter_eq_self.mpr ?_
    intro k hk
    have hout : k ∉ entries := by simpa using List.of_mem_filter hk
    exact (hgone k hout).mpr fun h => hnodup.2.2 k h k (List.mem_of_mem_filter hk) rfl
  calc (outsideBatch entries es).filter (fun k => (c'.valueOf k).isNone)
      = (outsideBatch entries (es.take (cap - entries.keys.length)) ++
          outsideBatch entries (es.drop (cap - entries.keys.length))).filter
            (fun k => (c'.valueOf k).isNone) := by rw [← outsideBatch_append, hsplit]
    _ = outsideBatch entries (es.drop (cap - entries.keys.length)) := by
        rw [List.filter_append, hkept, hdropped, List.nil_append]

theorem evicted_iff (hnodup : (es.map CacheHashData.key).Nodup)
    (hfits : entries.keys.length ≤ cap)
    (hes' : c'.Stores (afterInsert cap now entries.entries es)) :
    (outsideBatch entries es).filter (fun k => (c'.valueOf k).isNone) =
        (outsideBatch entries es).drop ((outsideBatch entries es).length -
          (((es.map CacheHashData.key).toFinset ∪ entries.keys.toFinset).card - cap)) ↔
      (∀ d ∈ es.take (cap - entries.keys.length), d.key ∉ entries) ∨
        ∀ d ∈ es.drop (cap - entries.keys.length), d.key ∈ entries := by
  have hsplit := List.take_append_drop (cap - entries.keys.length) es
  rw [evicted_eq hnodup hfits hes', card_union_batch hnodup]
  have happend : outsideBatch entries es =
      outsideBatch entries (es.take (cap - entries.keys.length)) ++
        outsideBatch entries (es.drop (cap - entries.keys.length)) := by
    rw [← outsideBatch_append, hsplit]
  have hle := outsideBatch_length_le entries (es.take (cap - entries.keys.length))
  have hle' := outsideBatch_length_le entries (es.drop (cap - entries.keys.length))
  rw [← outsideBatch_length_eq, ← outsideBatch_length_eq_zero, happend]
  rw [List.length_take] at hle ⊢
  rw [List.length_drop] at hle'
  generalize outsideBatch entries (es.take (cap - entries.keys.length)) = X at *
  generalize outsideBatch entries (es.drop (cap - entries.keys.length)) = Y at *
  -- a suffix is found by its length, which leaves arithmetic
  have hdrop : Y = (X ++ Y).drop ((X ++ Y).length -
      ((X ++ Y).length + entries.keys.length - cap)) ↔
        (X ++ Y).length - ((X ++ Y).length + entries.keys.length - cap) = X.length := by
    constructor
    · intro h
      have hlength := congrArg List.length h
      rw [List.length_drop, List.length_append] at hlength
      rw [List.length_append]
      omega
    · intro h
      rw [h, List.drop_left]
  rw [hdrop, List.length_append]
  omega

end Proof

/-- On every reachable state and for every batch of at most `cap` keys, `Insert`
obeys its law exactly when the overlap of batch and cache is harmless. -/
theorem batchInserted_iff {cap ttl : ℕ} {trace : List (CacheAction K V)} {s : CacheSystem K V}
    (run : (cacheSystem K V cap ttl).Run trace s) (entries : FlatHashMap K V)
    (hfits : entries.keys.length ≤ cap) :
    ∃ es c', s.cache.Stores es ∧ RecencyOrdered (recencyLog trace) (es.map CacheHashData.key) ∧
      s.cache.insert s.now entries = some c' ∧
      (BatchInserted cap entries es c' ↔ OverlapHarmless cap entries es) := by
  obtain ⟨es, inv⟩ := cacheInv_of_run run
  obtain ⟨c', hrun, -, hes'⟩ := insert_spec inv.stores s.now inv.capacity entries
  refine ⟨es, c', inv.stores, inv.recent, hrun, ?_⟩
  have hnodup := inv.stores.keys_nodup
  have hevicted := evicted_iff hnodup hfits hes'
  have hvalues : (∀ k v, entries.lookup k = some v → c'.valueOf k = some v) ↔
      ∀ d ∈ es.take (cap - entries.keys.length), ∀ v,
        entries.lookup d.key = some v → d.value = v := by
    have hkept : ((es.take (cap - entries.keys.length)).map CacheHashData.key).Nodup :=
      hnodup.sublist ((List.take_sublist ..).map _)
    constructor
    · -- an entry that is kept keeps its value, so it must have had the batch's
      intro h d hd v hv
      have hvalue := h d.key v hv
      rw [valueOf_batch hfits hes' hv, entryAt_of_mem hkept hd] at hvalue
      exact Option.some.inj hvalue
    · intro h k v hv
      rw [valueOf_batch hfits hes' hv]
      cases hentry : entryAt CacheHashData.key k (es.take (cap - entries.keys.length)) with
      | none => rfl
      | some d =>
        obtain ⟨hd, rfl⟩ := (entryAt_eq_some hkept).mp hentry
        exact congrArg some (h d hd v hv)
  constructor
  · intro law
    exact ⟨hevicted.mp law.evicted, hvalues.mp law.values⟩
  · intro harmless
    exact ⟨hvalues.mpr harmless.values, hevicted.mpr harmless.keys⟩

/-- A full cache of capacity 2 loses its other key when one it holds is inserted
again, although nothing had to go. -/
theorem batchInserted_fails_on_overlap :
    ∃ trace s es c', (cacheSystem ℕ ℕ 2 5).Run trace s ∧ s.cache.Stores es ∧
      (AList.singleton 2 20 : FlatHashMap ℕ ℕ).keys.length ≤ 2 ∧
      s.cache.insert s.now (AList.singleton 2 20) = some c' ∧
      ¬ BatchInserted 2 (AList.singleton 2 20) es c' := by
  have hempty : (Cache.new 2 5 : Cache ℕ ℕ).Stores [] := ⟨[], new_rep 2 5, rfl⟩
  obtain ⟨c₁, h₁, hframe₁, hes₁⟩ :=
    insert_spec hempty 0 rfl (AList.singleton 1 10)
  obtain ⟨c₂, h₂, hframe₂, hes₂⟩ :=
    insert_spec hes₁ 0 hframe₁.capacity (AList.singleton 2 20)
  obtain ⟨c₃, h₃, -, hes₃⟩ := insert_spec hes₂ 0
    (hframe₂.capacity.trans hframe₁.capacity) (AList.singleton 2 20)
  have run₁ : (cacheSystem ℕ ℕ 2 5).Run [.insert (AList.singleton 1 10)] ⟨c₁, 0⟩ :=
    .next (.start rfl) trivial ⟨trivial, by rw [CacheSystem.exec, h₁]; rfl⟩
  have run₂ : (cacheSystem ℕ ℕ 2 5).Run
      [.insert (AList.singleton 2 20), .insert (AList.singleton 1 10)] ⟨c₂, 0⟩ :=
    .next run₁ trivial ⟨trivial, by rw [CacheSystem.exec, h₂]; rfl⟩
  refine ⟨_, _, _, c₃, run₂, hes₂, by decide, h₃, ?_⟩
  intro law
  have hgone := law.evicted
  simp only [hes₃.valueOf] at hgone
  revert hgone
  decide

theorem batchInserted_iff_disjoint :
    ∃ (s : CacheSystem ℕ ℕ) (es : _) (c' : _), s.cache.Stores es ∧
      s.cache.insert s.now (AList.singleton 3 30 : FlatHashMap ℕ ℕ) = some c' ∧
      (BatchInserted 2 (AList.singleton 3 30) es c' ↔
        OverlapHarmless 2 (AList.singleton 3 30) es) := by
  have run : (cacheSystem ℕ ℕ (2 : ℕ) 5).Run [.insert (AList.singleton 1 10)] _ :=
    .next (.start rfl) trivial ⟨trivial, rfl⟩
  obtain ⟨es, c', hes, -, hrun, hiff⟩ :=
    batchInserted_iff run (AList.singleton 3 30) (by decide)
  exact ⟨_, es, c', hes, hrun, hiff⟩

end BiddingAuction

import BiddingAuction.Cache.Expiry
import BiddingAuction.KAnon.Manager

/-!
# What a reported hash rests on

A hash is reported because the reply to this very call listed it, or because
the k-anon cache held it when the call looked it up. What the cache holds was
written there by a reply that listed it or by a call that wrote its own hits
back; the write starts a new ttl, the look-up does not. So trust always goes
back to a listing, but through write-backs it can outlive the ttl of that
listing.
-/

namespace BiddingAuction

open Foundation Cache

/-! ## The law and what holds instead -/

namespace KAnonSystem

/-- The service listed the hash in a reply by time `t`. -/
def ListedBy (s : KAnonSystem) (h : Hash) (t : ℕ) : Prop :=
  ∃ l ∈ s.listings, h ∈ l.hashes ∧ l.time ≤ t

/-- The freshness law: each reported hash was listed within the last `ttl`. -/
def FreshReports (s : KAnonSystem) (ttl : ℕ) : Prop :=
  ∀ r ∈ s.reports, ∀ h ∈ r.hashes, ∃ l ∈ s.listings, h ∈ l.hashes ∧ l.time ≤ r.time ∧
    r.time ≤ l.time + ttl

instance (s : KAnonSystem) (ttl : ℕ) : Decidable (s.FreshReports ttl) :=
  inferInstanceAs (Decidable (∀ r ∈ s.reports, ∀ h ∈ r.hashes, ∃ l ∈ s.listings,
    h ∈ l.hashes ∧ l.time ≤ r.time ∧ r.time ≤ l.time + ttl))

/-- What a cache hit rests on: a write to the k-anon cache less than `ttl` before
the look-up, unless the expiry of the entry was overdue. -/
structure HitHeld (s : KAnonSystem) (ttl : ℕ) (hit : Hit) : Prop where
  written : ∃ w ∈ s.writes, hit.hash ∈ w.hashes ∧ w.time = hit.written
  ordered : hit.written ≤ hit.lookedUp
  fresh : hit.overdue = false → hit.lookedUp < hit.written + ttl

structure ReportHeld (s : KAnonSystem) (ttl : ℕ) (r : Report) : Prop where
  listed : ∀ h ∈ r.listed, ∃ l ∈ s.listings, h ∈ l.hashes ∧ l.time = r.time
  hits : ∀ hit ∈ r.hits, s.HitHeld ttl hit ∧ hit.lookedUp ≤ r.time

/-! ## Growth of the history -/

structure Grows (s s' : KAnonSystem) : Prop where
  now : s.now ≤ s'.now
  listings : s.listings ⊆ s'.listings
  writes : s.writes ⊆ s'.writes

theorem ListedBy.grow {s s' : KAnonSystem} (grows : s.Grows s') {h : Hash} {t t' : ℕ}
    (htime : t ≤ t') (listed : s.ListedBy h t) : s'.ListedBy h t' := by
  obtain ⟨l, hl, hmem, hle⟩ := listed
  exact ⟨l, grows.listings hl, hmem, hle.trans htime⟩

theorem HitHeld.grow {s s' : KAnonSystem} (grows : s.Grows s') {ttl : ℕ} {hit : Hit}
    (held : s.HitHeld ttl hit) : s'.HitHeld ttl hit := by
  obtain ⟨w, hw, hmem, htime⟩ := held.written
  exact ⟨⟨w, grows.writes hw, hmem, htime⟩, held.ordered, held.fresh⟩

theorem ReportHeld.grow {s s' : KAnonSystem} (grows : s.Grows s') {ttl : ℕ} {r : Report}
    (held : s.ReportHeld ttl r) : s'.ReportHeld ttl r := by
  refine ⟨?_, fun hit hhit => ⟨(held.hits hit hhit).1.grow grows, (held.hits hit hhit).2⟩⟩
  intro h hh
  obtain ⟨l, hl, hmem, htime⟩ := held.listed h hh
  exact ⟨l, grows.listings hl, hmem, htime⟩

/-! ## The invariant -/

def CallHeld (s : KAnonSystem) (ttl : ℕ) : Call → Prop
  | .querying _ _ _ kAnonHits _ | .waiting _ _ kAnonHits =>
    ∀ hit ∈ kAnonHits, s.HitHeld ttl hit ∧ hit.lookedUp ≤ s.now
  | .inserting todo => ∀ op ∈ todo, op.kind = .kAnon → ∀ h ∈ op.hashes, s.ListedBy h s.now

theorem CallHeld.grow {s s' : KAnonSystem} (grows : s.Grows s') {ttl : ℕ} {call : Call}
    (held : s.CallHeld ttl call) : s'.CallHeld ttl call := by
  cases call with
  | querying setType hashes todo kAnonHits nonKAnonHits =>
    intro hit hhit
    exact ⟨(held hit hhit).1.grow grows, (held hit hhit).2.trans grows.now⟩
  | waiting setType unresolved kAnonHits =>
    intro hit hhit
    exact ⟨(held hit hhit).1.grow grows, (held hit hhit).2.trans grows.now⟩
  | inserting todo =>
    intro op hop hkind h hh
    exact (held op hop hkind h hh).grow grows grows.now

/-- A cache of the manager is in a state of its own runs, and the last insertion
of each key of a k-anon cache is a recorded write. -/
def ShardHeld (s : KAnonSystem) (kind : CacheKind) (cap : ℤ) (ttl : ℕ) (c : Cache Hash Hash) :
    Prop :=
  ∃ trace, (cacheSystem Hash Hash cap ttl).Run trace ⟨c, s.now⟩ ∧
    (kind = .kAnon → ∀ h t, lastInsert h trace = some t →
      ∃ w ∈ s.writes, h ∈ w.hashes ∧ w.time = t)

/-- The invariant of the runs of a manager. -/
structure Inv (cap : CacheKind → ℤ) (ttl : CacheKind → ℕ) (s : KAnonSystem) : Prop where
  shards : ∀ kind, ∀ c ∈ s.manager.caches kind, s.ShardHeld kind (cap kind) (ttl kind) c
  writes : ∀ w ∈ s.writes, w.time ≤ s.now ∧ ∀ h ∈ w.hashes, s.ListedBy h w.time
  calls : ∀ call ∈ s.calls, s.CallHeld (ttl .kAnon) call
  reports : ∀ r ∈ s.reports, s.ReportHeld (ttl .kAnon) r

variable {cap : CacheKind → ℤ} {ttl : CacheKind → ℕ} {s s' : KAnonSystem}

/-- The invariant extends to a later state whose new writes, calls and reports
are held. -/
theorem Inv.extend (inv : s.Inv cap ttl) (grows : s.Grows s')
    (shards : ∀ kind, ∀ c ∈ s'.manager.caches kind, s'.ShardHeld kind (cap kind) (ttl kind) c)
    (writes : ∀ w ∈ s'.writes,
      w ∈ s.writes ∨ (w.time ≤ s'.now ∧ ∀ h ∈ w.hashes, s'.ListedBy h w.time))
    (calls : ∀ call ∈ s'.calls, call ∈ s.calls ∨ s'.CallHeld (ttl .kAnon) call)
    (reports : ∀ r ∈ s'.reports, r ∈ s.reports ∨ s'.ReportHeld (ttl .kAnon) r) :
    s'.Inv cap ttl := by
  refine ⟨shards, ?_, ?_, ?_⟩
  · intro w hw
    rcases writes w hw with hold | hnew
    · obtain ⟨htime, hlisted⟩ := inv.writes w hold
      exact ⟨htime.trans grows.now, fun h hh => (hlisted h hh).grow grows le_rfl⟩
    · exact hnew
  · intro call hcall
    rcases calls call hcall with hold | hnew
    · exact (inv.calls call hold).grow grows
    · exact hnew
  · intro r hr
    rcases reports r hr with hold | hnew
    · exact (inv.reports r hold).grow grows
    · exact hnew

theorem ShardHeld.grow (hnow : s'.now = s.now) (hwrites : s.writes ⊆ s'.writes)
    {kind : CacheKind} {cap : ℤ} {ttl : ℕ} {c : Cache Hash Hash}
    (held : s.ShardHeld kind cap ttl c) : s'.ShardHeld kind cap ttl c := by
  obtain ⟨trace, run, hwritten⟩ := held
  refine ⟨trace, hnow ▸ run, fun hkind h t ht => ?_⟩
  obtain ⟨w, hw, hmem, htime⟩ := hwritten hkind h t ht
  exact ⟨w, hwrites hw, hmem, htime⟩

theorem mem_setCache {m : KAnonCacheManager} {kind kind' : CacheKind} {shard : ℕ}
    {c c' : Cache Hash Hash} (hc : c ∈ (m.setCache kind shard c').caches kind') :
    (kind' = kind ∧ c = c') ∨ c ∈ m.caches kind' := by
  cases kind <;> cases kind'
  · exact (List.mem_or_eq_of_mem_set hc).symm.imp_left fun h => ⟨rfl, h⟩
  · exact .inr hc
  · exact .inr hc
  · exact (List.mem_or_eq_of_mem_set hc).symm.imp_left fun h => ⟨rfl, h⟩

theorem getElem?_setCache {m : KAnonCacheManager} {kind kind' : CacheKind} {shard shard' : ℕ}
    {c c' : Cache Hash Hash} (hc : ((m.setCache kind shard c').caches kind')[shard']? = some c) :
    (kind' = kind ∧ shard' = shard ∧ c = c') ∨ (m.caches kind')[shard']? = some c := by
  have hset : ∀ l : List (Cache Hash Hash), (l.set shard c')[shard']? = some c →
      (shard' = shard ∧ c = c') ∨ l[shard']? = some c := by
    intro l hl
    rw [List.getElem?_set] at hl
    split at hl
    · rename_i heq
      split at hl
      · exact .inl ⟨heq.symm, (Option.some.inj hl).symm⟩
      · cases hl
    · exact .inr hl
  cases kind <;> cases kind'
  · exact (hset _ hc).imp_left fun h => ⟨rfl, h⟩
  · exact .inr hc
  · exact .inr hc
  · exact (hset _ hc).imp_left fun h => ⟨rfl, h⟩

theorem mem_shardOps {m : KAnonCacheManager} {kind : CacheKind} {hashes : FlatHashSet Hash}
    {op : ShardOp} (hop : op ∈ m.shardOps kind hashes) :
    op.kind = kind ∧ ∀ h ∈ op.hashes, h ∈ hashes := by
  obtain ⟨⟨mapped, shard⟩, hmapped, rfl⟩ := List.mem_map.mp hop
  refine ⟨rfl, ?_⟩
  have hmem : mapped ∈ mapHashToShardedCache hashes (m.caches kind).length :=
    List.fst_mem_of_mem_zipIdx hmapped
  unfold mapHashToShardedCache at hmem
  split at hmem
  · obtain rfl := List.mem_singleton.mp hmem
    intro h hh
    exact hh
  · obtain ⟨i, -, rfl⟩ := List.mem_map.mp hmem
    intro h hh
    exact (FlatHashSet.mem_filter.mp hh).1

/-! ## One step at a time -/

theorem ShardHeld.step {kind : CacheKind} {cap : ℤ} {ttl : ℕ} {c c' : Cache Hash Hash}
    (held : s.ShardHeld kind cap ttl c) {a : CacheAction Hash Hash}
    (henabled : (⟨c, s.now⟩ : CacheSystem Hash Hash).Enabled a)
    (hexec : (⟨c, s.now⟩ : CacheSystem Hash Hash).exec a = some ⟨c', s'.now⟩)
    (hwrites : s.writes ⊆ s'.writes)
    (hinsert : kind = .kAnon → ∀ entries, a = .insert entries → ∃ w ∈ s'.writes,
      w.time = s.now ∧ ∀ h ∈ entries, h ∈ w.hashes) : s'.ShardHeld kind cap ttl c' := by
  obtain ⟨trace, run, hwritten⟩ := held
  refine ⟨a :: trace, .next run trivial ⟨henabled, hexec⟩, fun hkind h t ht => ?_⟩
  have hold : lastInsert h trace = some t → ∃ w ∈ s'.writes, h ∈ w.hashes ∧ w.time = t := by
    intro ht
    obtain ⟨w, hw, hmem, htime⟩ := hwritten hkind h t ht
    exact ⟨w, hwrites hw, hmem, htime⟩
  cases a with
  | insert entries =>
    rw [lastInsert] at ht
    split at ht
    · rename_i hmem
      obtain ⟨w, hw, htime, hall⟩ := hinsert hkind entries rfl
      obtain ⟨es, inv⟩ := cacheInv_of_run run
      exact ⟨w, hw, hall h (AList.mem_keys.mpr hmem),
        htime.trans (inv.time.trans (Option.some.inj ht))⟩
    · exact hold ht
  | query keys => exact hold ht
  | advance duration => exact hold ht
  | fire node => exact hold ht
  | run i => exact hold ht

theorem Inv.areKAnonymous (inv : s.Inv cap ttl) (setType : String) (hashes : FlatHashSet Hash) :
    (s.areKAnonymous setType hashes).Inv cap ttl := by
  have grows : s.Grows (s.areKAnonymous setType hashes) :=
    ⟨le_rfl, List.Subset.refl _, List.Subset.refl _⟩
  refine inv.extend grows (fun kind c hc => (inv.shards kind c hc).grow rfl grows.writes)
    (fun w hw => .inl hw) ?_ (fun r hr => .inl hr)
  intro call hcall
  rcases List.mem_append.mp hcall with hold | hnew
  · exact .inl hold
  · rw [List.mem_singleton.mp hnew]
    right
    split
    · intro hit hhit
      exact absurd hhit List.not_mem_nil
    · intro hit hhit
      exact absurd hhit List.not_mem_nil

theorem ShardHeld.hits {cap : ℤ} {ttl : ℕ} {c c' : Cache Hash Hash}
    (held : s.ShardHeld .kAnon cap ttl c) (hwrites : ∀ w ∈ s.writes, w.time ≤ s.now)
    {keys : FlatHashSet Hash} {found : FlatHashMap Hash Hash}
    (hquery : c.query keys = some (c', found)) :
    ∀ hit ∈ KAnonCacheManager.hitsOf c s.now found,
      s.HitHeld ttl hit ∧ hit.lookedUp ≤ s.now := by
  obtain ⟨trace, run, hwritten⟩ := held
  obtain ⟨es, inv, expiring⟩ := willExpire_of_run run
  obtain ⟨c₁, found₁, hrun, -, -, hfound⟩ := query_spec inv.stores keys.elems ∅
  obtain ⟨-, rfl⟩ : c₁ = c' ∧ found₁ = found := by
    simpa using hrun.symm.trans hquery
  intro hit hhit
  obtain ⟨h, hh, rfl⟩ := List.mem_map.mp hhit
  have hstored : h ∈ es.map CacheHashData.key :=
    (hfound h (AList.mem_keys.mpr hh)).resolve_left (AList.notMem_empty h)
  obtain ⟨d, hd, rfl⟩ := List.mem_map.mp hstored
  have hpayload : c.payload d.key = some d :=
    (inv.stores.payload d.key).trans (entryAt_of_mem inv.stores.keys_nodup hd)
  obtain ⟨w, hw, hmem, htime⟩ := hwritten rfl d.key _ (inv.armed d hd)
  refine ⟨⟨⟨w, hw, hmem, ?_⟩, ?_, ?_⟩, le_rfl⟩
  · simp [hpayload, htime]
  · simp only [hpayload, Option.map_some, Option.getD_some]
    exact htime ▸ hwrites w hw
  · -- a pending timer that is not overdue has its deadline ahead
    intro hnot
    simp only [hpayload, Option.map_some, Option.getD_some, KAnonCacheManager.isOverdue,
      Bool.or_eq_false_iff, Bool.and_eq_false_iff, decide_eq_false_iff_not] at hnot ⊢
    obtain ⟨hdue, hqueued⟩ := hnot
    have hpending := (expiring d hd).resolve_right hqueued
    have hexpiry : c.expiry = ttl := inv.expiry
    rcases hdue with hfired | hdue
    · rw [hpending] at hfired
      cases hfired
    · omega

theorem Inv.queryShard (inv : s.Inv cap ttl) {call : ℕ} (h : s.queryShard call = some s') :
    s'.Inv cap ttl := by
  simp only [KAnonSystem.queryShard, Option.bind_eq_bind, Option.bind_eq_some_iff] at h
  obtain ⟨stage, hcall, h⟩ := h
  split at h
  -- a call at another stage does not query
  case h_2 => cases h
  rename_i setType hashes op todo kAnonHits nonKAnonHits
  simp only [Option.bind_eq_some_iff] at h
  obtain ⟨c, hc, ⟨c', found⟩, hquery, h⟩ := h
  have hs' := Option.some.inj h
  have hcalls : s'.calls = s.calls.set call (addHits setType hashes todo kAnonHits nonKAnonHits
    (KAnonCacheManager.hitsOf c s.now found) op.kind) := by rw [← hs']
  have hmanager : s'.manager = s.manager.setCache op.kind op.shard c' := by rw [← hs']
  have hnow : s'.now = s.now := by rw [← hs']
  have hreports : s'.reports = s.reports := by rw [← hs']
  have hwrites : s'.writes = s.writes := by rw [← hs']
  have grows : s.Grows s' :=
    ⟨hnow.ge, hs' ▸ List.Subset.refl _, hwrites ▸ List.Subset.refl _⟩
  have held := inv.shards op.kind c (List.mem_of_getElem? hc)
  have hhits := (inv.calls _ (List.mem_of_getElem? hcall)).grow grows
  have hexec : (⟨c, s.now⟩ : CacheSystem Hash Hash).exec (.query op.hashes) =
      some ⟨c', s'.now⟩ := by
    rw [CacheSystem.exec, hquery, hnow]
    rfl
  refine inv.extend grows ?_ (fun w hw => .inl (hwrites ▸ hw)) ?_ (fun r hr => .inl (hreports ▸ hr))
  · intro kind c₁ hc₁
    rcases mem_setCache (hmanager ▸ hc₁) with ⟨rfl, rfl⟩ | hold
    · -- the cache that was queried goes on in its own run
      exact held.step (a := .query op.hashes) trivial hexec grows.writes (fun _ _ ha => by cases ha)
    · exact (inv.shards kind c₁ hold).grow hnow grows.writes
  · intro call₁ hcall₁
    rcases List.mem_or_eq_of_mem_set (hcalls ▸ hcall₁) with hold | rfl
    · exact .inl hold
    · right
      cases hkind : op.kind with
      | nonKAnon => exact hhits
      | kAnon =>
        rw [hkind] at held
        intro hit hhit
        rcases List.mem_append.mp hhit with hold | hnew
        · exact hhits hit hold
        · obtain ⟨hheld, htime⟩ := held.hits (fun w hw => (inv.writes w hw).1) hquery hit hnew
          exact ⟨hheld.grow grows, htime.trans hnow.ge⟩

theorem Inv.reportHits (inv : s.Inv cap ttl) (call : ℕ) {kAnonHits : List Hit}
    (hhits : ∀ hit ∈ kAnonHits, s.HitHeld (ttl .kAnon) hit ∧ hit.lookedUp ≤ s.now) :
    (s.reportHits call kAnonHits).Inv cap ttl := by
  have grows : s.Grows (s.reportHits call kAnonHits) :=
    ⟨le_rfl, List.Subset.refl _, List.Subset.refl _⟩
  refine inv.extend grows (fun kind c hc => (inv.shards kind c hc).grow rfl grows.writes)
    (fun w hw => .inl hw) (fun call₁ hcall₁ => .inl (List.mem_of_mem_eraseIdx hcall₁)) ?_
  intro r hr
  rcases List.mem_cons.mp hr with rfl | hold
  · refine .inr ⟨fun h hh => absurd (FlatHashSet.mem_ofList.mp hh) List.not_mem_nil, ?_⟩
    intro hit hhit
    exact ⟨(hhits hit hhit).1.grow grows, (hhits hit hhit).2⟩
  · exact .inl hold

theorem Inv.resolve (inv : s.Inv cap ttl) {call : ℕ} (h : s.resolve call = some s') :
    s'.Inv cap ttl := by
  simp only [KAnonSystem.resolve, Option.bind_eq_bind, Option.bind_eq_some_iff] at h
  obtain ⟨stage, hcall, h⟩ := h
  split at h
  case h_2 => cases h
  rename_i setType hashes kAnonHits nonKAnonHits
  have hhits := inv.calls _ (List.mem_of_getElem? hcall)
  split at h
  · exact Option.some.inj h ▸ inv.reportHits call hhits
  · have hs' := Option.some.inj h
    have grows : s.Grows s' := hs' ▸ ⟨le_rfl, List.Subset.refl _, List.Subset.refl _⟩
    have hheld := CallHeld.grow grows hhits
    refine inv.extend grows ?_ (fun w hw => .inl (by rwa [← hs'] at hw)) ?_
      (fun r hr => .inl (by rwa [← hs'] at hr))
    · intro kind c hc
      rw [← hs'] at hc
      exact (inv.shards kind c hc).grow (by rw [← hs']) grows.writes
    · intro call₁ hcall₁
      rw [← hs'] at hcall₁
      rcases List.mem_or_eq_of_mem_set hcall₁ with hold | rfl
      · exact .inl hold
      · exact .inr hheld

theorem Inv.hit_listed (inv : s.Inv cap ttl) {hit : Hit} (held : s.HitHeld (ttl .kAnon) hit) :
    s.ListedBy hit.hash hit.written := by
  obtain ⟨w, hw, hmem, htime⟩ := held.written
  exact htime ▸ (inv.writes w hw).2 hit.hash hmem

theorem mem_writesFor {m : KAnonCacheManager} {unresolved resolved : FlatHashSet Hash}
    {op : ShardOp} (hop : op ∈ m.writesFor unresolved resolved) (hkind : op.kind = .kAnon) :
    ∀ h ∈ op.hashes, h ∈ resolved := by
  unfold KAnonCacheManager.writesFor at hop
  split at hop
  · rcases List.mem_append.mp hop with hop | hop
    · exact (mem_shardOps hop).2
    · have := (mem_shardOps hop).1.symm.trans hkind
      cases this
  · exact absurd hop List.not_mem_nil

theorem Inv.reply (inv : s.Inv cap ttl) {call : ℕ} {response : Response}
    (h : s.reply call response = some s') : s'.Inv cap ttl := by
  simp only [KAnonSystem.reply, Option.bind_eq_bind, Option.bind_eq_some_iff] at h
  obtain ⟨stage, hcall, h⟩ := h
  split at h
  case h_2 => cases h
  rename_i setType unresolved kAnonHits
  have hhits := inv.calls _ (List.mem_of_getElem? hcall)
  split at h
  · exact Option.some.inj h ▸ inv.reportHits call hhits
  · exact Option.some.inj h ▸ inv.reportHits call hhits
  · rename_i kAnonymousSets _
    let listed := listedHashes setType kAnonymousSets
    let resolved := FlatHashSet.ofList (listed.elems ++ kAnonHits.map Hit.hash)
    have hs' := Option.some.inj h
    have hcalls : s'.calls = s.calls.set call
      (.inserting (s.manager.writesFor unresolved resolved)) := by rw [← hs']
    have hlistings : s'.listings = ⟨s.now, listed⟩ :: s.listings := by rw [← hs']
    have hreports : s'.reports = ⟨s.now, listed, kAnonHits⟩ :: s.reports := by rw [← hs']
    have hmanager : s'.manager = s.manager := by rw [← hs']
    have hwrites : s'.writes = s.writes := by rw [← hs']
    have hnow : s'.now = s.now := by rw [← hs']
    have grows : s.Grows s' := ⟨hnow.ge, hlistings ▸ List.subset_cons_self _ _,
      hwrites ▸ List.Subset.refl _⟩
    have hnew : ∀ h ∈ listed, ∃ l ∈ s'.listings, h ∈ l.hashes ∧ l.time = s.now :=
      fun h hh => ⟨⟨s.now, listed⟩, hlistings ▸ List.mem_cons_self, hh, rfl⟩
    refine inv.extend grows ?_ (fun w hw => .inl (hwrites ▸ hw)) ?_ ?_
    · intro kind c hc
      exact (inv.shards kind c (hmanager ▸ hc)).grow hnow grows.writes
    · intro call₁ hcall₁
      rcases List.mem_or_eq_of_mem_set (hcalls ▸ hcall₁) with hold | rfl
      · exact .inl hold
      · -- what will be written was just listed, or is a hit and was listed before
        refine .inr fun op hop hkind h hh => ?_
        have hresolved := FlatHashSet.mem_ofList.mp (mem_writesFor hop hkind h hh)
        rcases List.mem_append.mp hresolved with hlisted | hhit
        · obtain ⟨l, hl, hmem, htime⟩ := hnew h hlisted
          exact ⟨l, hl, hmem, (htime.trans hnow.symm).le⟩
        · obtain ⟨hit, hmem, rfl⟩ := List.mem_map.mp hhit
          obtain ⟨held, htime⟩ := hhits hit hmem
          exact (inv.hit_listed held).grow grows ((held.ordered.trans htime).trans hnow.ge)
    · intro r hr
      rcases List.mem_cons.mp (hreports ▸ hr) with rfl | hold
      · refine .inr ⟨hnew, fun hit hhit => ?_⟩
        exact ⟨(hhits hit hhit).1.grow grows, (hhits hit hhit).2⟩
      · exact .inl hold

theorem Inv.insertShard (inv : s.Inv cap ttl) {call : ℕ} (h : s.insertShard call = some s') :
    s'.Inv cap ttl := by
  simp only [KAnonSystem.insertShard, Option.bind_eq_bind, Option.bind_eq_some_iff] at h
  obtain ⟨stage, hcall, h⟩ := h
  split at h
  case h_2 => cases h
  rename_i op todo
  simp only [Option.bind_eq_some_iff] at h
  obtain ⟨c, hc, c', hinsert, h⟩ := h
  have hs' := Option.some.inj h
  have hcalls : s'.calls = s.calls.set call (.inserting todo) := by rw [← hs']
  have hmanager : s'.manager = s.manager.setCache op.kind op.shard c' := by rw [← hs']
  have hwrites : s'.writes = s.recordWrite op := by rw [← hs']
  have hreports : s'.reports = s.reports := by rw [← hs']
  have hnow : s'.now = s.now := by rw [← hs']
  have hsub : s.writes ⊆ s'.writes := by
    rw [hwrites, recordWrite]
    split
    · exact List.subset_cons_self _ _
    · exact List.Subset.refl _
  have grows : s.Grows s' := ⟨hnow.ge, hs' ▸ List.Subset.refl _, hsub⟩
  have held := inv.shards op.kind c (List.mem_of_getElem? hc)
  have hlisted := (inv.calls _ (List.mem_of_getElem? hcall)).grow grows
  have hexec : (⟨c, s.now⟩ : CacheSystem Hash Hash).exec (.insert (setToMap op.hashes)) =
      some ⟨c', s'.now⟩ := by
    rw [CacheSystem.exec, hinsert, hnow]
    rfl
  refine inv.extend grows ?_ ?_ ?_ (fun r hr => .inl (hreports ▸ hr))
  · intro kind c₁ hc₁
    rcases mem_setCache (hmanager ▸ hc₁) with ⟨rfl, rfl⟩ | hold
    · -- the insert is recorded as a write, with the time it was made at
      refine held.step (a := .insert (setToMap op.hashes)) trivial hexec hsub ?_
      rintro hkind entries ha
      refine ⟨⟨s.now, op.hashes⟩, ?_, rfl, ?_⟩
      · rw [hwrites, recordWrite, hkind]
        exact List.mem_cons_self
      · intro h hh
        cases ha
        exact mem_setToMap.mp hh
    · exact (inv.shards kind c₁ hold).grow hnow hsub
  · intro w hw
    rw [hwrites, recordWrite] at hw
    split at hw
    · -- only writes to the k-anon cache are recorded: their hashes were listed
      rename_i hkind
      rcases List.mem_cons.mp hw with rfl | hold
      · refine .inr ⟨hnow.ge, fun h hh => ?_⟩
        exact hnow ▸ hlisted op List.mem_cons_self hkind h hh
      · exact .inl hold
    · exact .inl hw
  · intro call₁ hcall₁
    rcases List.mem_or_eq_of_mem_set (hcalls ▸ hcall₁) with hold | rfl
    · exact .inl hold
    · exact .inr fun op' hop' => hlisted op' (List.mem_cons_of_mem _ hop')

theorem Inv.advance (inv : s.Inv cap ttl) (duration : ℕ) :
    Inv cap ttl { s with now := s.now + duration } := by
  have grows : s.Grows { s with now := s.now + duration } :=
    ⟨Nat.le_add_right .., List.Subset.refl _, List.Subset.refl _⟩
  refine inv.extend grows ?_ (fun w hw => .inl hw) (fun call hcall => .inl hcall)
    (fun r hr => .inl hr)
  intro kind c hc
  exact (inv.shards kind c hc).step (a := .advance duration) trivial rfl grows.writes
    (fun _ _ ha => by cases ha)

theorem Inv.cacheAction (inv : s.Inv cap ttl) {kind : CacheKind} {shard : ℕ}
    {a : CacheAction Hash Hash} {c : Cache Hash Hash}
    (hc : (s.manager.caches kind)[shard]? = some c)
    (henabled : (⟨c, s.now⟩ : CacheSystem Hash Hash).Enabled a) {t : CacheSystem Hash Hash}
    (hexec : (⟨c, s.now⟩ : CacheSystem Hash Hash).exec a = some t) (hnow : t.now = s.now)
    (ha : ∀ entries, a ≠ .insert entries) :
    Inv cap ttl { s with manager := s.manager.setCache kind shard t.cache } := by
  have grows : s.Grows { s with manager := s.manager.setCache kind shard t.cache } :=
    ⟨le_rfl, List.Subset.refl _, List.Subset.refl _⟩
  have hexec' : (⟨c, s.now⟩ : CacheSystem Hash Hash).exec a = some ⟨t.cache, s.now⟩ := by
    rw [hexec, ← hnow]
  refine inv.extend grows ?_ (fun w hw => .inl hw) (fun call hcall => .inl hcall)
    (fun r hr => .inl hr)
  intro kind' c₁ hc₁
  rcases mem_setCache hc₁ with ⟨rfl, rfl⟩ | hold
  · exact (inv.shards kind' c (List.mem_of_getElem? hc)).step henabled hexec' grows.writes
      (fun _ entries h => absurd h (ha entries))
  · exact (inv.shards kind' c₁ hold).grow rfl grows.writes

theorem Inv.step (inv : s.Inv cap ttl) {a : KAnonAction} (henabled : s.Enabled a)
    (hexec : s.exec a = some s') : s'.Inv cap ttl := by
  cases a with
  | areKAnonymous setType hashes =>
    exact Option.some.inj hexec ▸ inv.areKAnonymous setType hashes
  | queryShard call => exact inv.queryShard hexec
  | resolve call => exact inv.resolve hexec
  | reply call response => exact inv.reply hexec
  | insertShard call => exact inv.insertShard hexec
  | advance duration => exact Option.some.inj hexec ▸ inv.advance duration
  | fire kind shard node =>
    -- timers and queued work change one cache and neither clock nor history
    obtain ⟨c, hc, henabled⟩ := henabled
    simp only [KAnonSystem.exec, KAnonSystem.cacheAction, hc, Option.bind_eq_bind, Option.bind_some,
      Option.bind_eq_some_iff] at hexec
    obtain ⟨t, ht, hexec⟩ := hexec
    have hnow : t.now = s.now := by
      simp only [CacheSystem.exec, Option.bind_eq_bind, Option.bind_eq_some_iff] at ht
      obtain ⟨c', -, ht⟩ := ht
      cases ht
      rfl
    exact Option.some.inj hexec ▸ inv.cacheAction hc henabled ht hnow (fun _ h => by cases h)
  | run kind shard i =>
    simp only [KAnonSystem.exec, KAnonSystem.cacheAction, Option.bind_eq_bind,
      Option.bind_eq_some_iff] at hexec
    obtain ⟨c, hc, t, ht, hexec⟩ := hexec
    have hnow : t.now = s.now := by
      have ht' := ht
      simp only [CacheSystem.exec, Option.bind_eq_bind, Option.bind_eq_some_iff] at ht'
      obtain ⟨w, -, c', -, ht'⟩ := ht'
      cases ht'
      rfl
    exact Option.some.inj hexec ▸
      inv.cacheAction hc (CacheSystem.enabled_run ht) ht hnow (fun _ h => by cases h)

end KAnonSystem

/-! ## Reports over whole runs -/

section Runs

variable {numKAnonShards numNonKAnonShards : ℕ} {kAnonCapacity nonKAnonCapacity : ℤ}
  {kAnonTtl nonKAnonTtl : ℕ} {enableKAnonCache : Bool} {trace : List KAnonAction} {s : KAnonSystem}

theorem kAnonInv_of_run (run : (kAnonSystem numKAnonShards numNonKAnonShards kAnonCapacity
      nonKAnonCapacity kAnonTtl nonKAnonTtl enableKAnonCache).Run trace s) :
    s.Inv (fun | .kAnon => kAnonCapacity | .nonKAnon => nonKAnonCapacity)
      (fun | .kAnon => kAnonTtl | .nonKAnon => nonKAnonTtl) := by
  refine run.invariant (I := fun _ s => KAnonSystem.Inv _ _ s) ?_ ?_
  · rintro s rfl
    refine ⟨?_, by simp [KAnonSystem.init], by simp [KAnonSystem.init], by simp [KAnonSystem.init]⟩
    intro kind c hc
    cases kind
    · obtain ⟨-, rfl⟩ := List.mem_replicate.mp hc
      exact ⟨[], .start rfl, fun _ h t ht => by cases ht⟩
    · obtain ⟨-, rfl⟩ := List.mem_replicate.mp hc
      exact ⟨[], .start rfl, fun _ h t ht => by cases ht⟩
  · rintro trace s a s' inv - ⟨henabled, hexec⟩
    exact inv.step henabled hexec

theorem KAnonSystem.Inv.lookUp_keeps {cap : CacheKind → ℤ} {ttl : CacheKind → ℕ}
    {s s' : KAnonSystem} (inv : s.Inv cap ttl) {call : ℕ} (h : s.queryShard call = some s')
    {kind : CacheKind} {shard : ℕ} {c c' : Cache Hash Hash}
    (hc : (s.manager.caches kind)[shard]? = some c)
    (hc' : (s'.manager.caches kind)[shard]? = some c') {k : Hash} {d : CacheHashData Hash Hash}
    (hd : c'.payload k = some d) : c.payload k = some d := by
  simp only [KAnonSystem.queryShard, Option.bind_eq_bind, Option.bind_eq_some_iff] at h
  obtain ⟨stage, -, h⟩ := h
  split at h
  case h_2 => cases h
  rename_i setType hashes op todo kAnonHits nonKAnonHits
  simp only [Option.bind_eq_some_iff] at h
  obtain ⟨c₀, hc₀, ⟨c₁, found⟩, hquery, h⟩ := h
  have hmanager : s'.manager = s.manager.setCache op.kind op.shard c₁ := by
    rw [← Option.some.inj h]
  rw [hmanager] at hc'
  rcases KAnonSystem.getElem?_setCache hc' with ⟨rfl, rfl, rfl⟩ | hold
  · obtain rfl : c₀ = c := Option.some.inj (hc₀.symm.trans hc)
    obtain ⟨trace, run, -⟩ := inv.shards op.kind c₀ (List.mem_of_getElem? hc₀)
    obtain ⟨es, hinv⟩ := cacheInv_of_run run
    obtain ⟨c₂, found₂, hrun, -, hes', -⟩ := query_spec hinv.stores op.hashes.elems ∅
    obtain ⟨rfl, -⟩ : c₂ = c' ∧ found₂ = found := by
      simpa using hrun.symm.trans hquery
    rw [hes'.payload] at hd
    rw [hinv.stores.payload, entryAt_eq_some hinv.stores.keys_nodup]
    exact ⟨mem_of_mem_promoted (mem_of_entryAt hd), key_of_entryAt hd⟩
  · obtain rfl : c = c' := Option.some.inj (hc.symm.trans hold)
    exact hd

end Runs

end BiddingAuction

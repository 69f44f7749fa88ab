import BiddingAuction.Cache.Cache
import BiddingAuction.Foundation.Recency

/-!
# What a cache stores

`Rep c cells`: the list, the map and the counter of `c` agree on `cells`, most
recently used first. `Stores c es` forgets the addresses: it is the abstraction
from the pointer structure to a list of entries in order of use. One lemma per
operation says which operation on that list it performs; `Frame` says what it
leaves alone.
-/

namespace BiddingAuction

open Foundation
open DoublyLinkedList (Cell)

namespace Cache

variable {K V : Type} [DecidableEq K]

abbrev cellKey (cell : Cell K V) : K := cell.2.key

/-- Map, list and counter hold the same entries. -/
structure Rep (c : Cache K V) (cells : List (Cell K V)) : Prop where
  holds : c.dll.Holds cells
  keys_nodup : (cells.map cellKey).Nodup
  mapped : ∀ k, c.hashToNode.lookup k = (entryAt cellKey k cells).map Prod.fst
  counted : c.numEntries = cells.length

theorem entryAt_payloads (k : K) (cells : List (Cell K V)) :
    entryAt CacheHashData.key k (cells.map Prod.snd) = (entryAt cellKey k cells).map Prod.snd :=
  entryAt_map ..

theorem withoutKey_payloads (k : K) (cells : List (Cell K V)) :
    withoutKey CacheHashData.key k (cells.map Prod.snd) =
      (withoutKey cellKey k cells).map Prod.snd :=
  withoutKey_map ..

def Stores (c : Cache K V) (es : List (CacheHashData K V)) : Prop :=
  ∃ cells, c.Rep cells ∧ cells.map Prod.snd = es

/-- The settings and the queued expiries are the same; hand-activated callbacks
may have been queued. -/
structure Frame (c c' : Cache K V) : Prop where
  capacity : c'.capacity = c.capacity
  expiry : c'.expiry = c.expiry
  timeouts : ∀ k, (⟨k, .timeout⟩ ∈ c'.executor ↔ ⟨k, .timeout⟩ ∈ c.executor)

omit [DecidableEq K] in
theorem Frame.refl (c : Cache K V) : Frame c c := ⟨rfl, rfl, fun _ => Iff.rfl⟩

omit [DecidableEq K] in
theorem Frame.trans {c₁ c₂ c₃ : Cache K V} (h₁ : Frame c₁ c₂) (h₂ : Frame c₂ c₃) :
    Frame c₁ c₃ :=
  ⟨h₂.capacity.trans h₁.capacity, h₂.expiry.trans h₁.expiry,
    fun k => (h₂.timeouts k).trans (h₁.timeouts k)⟩

def payload (c : Cache K V) (k : K) : Option (CacheHashData K V) :=
  (c.hashToNode.lookup k).bind c.dll.data

theorem new_rep (capacity : ℤ) (ttl : ℕ) : (new capacity ttl : Cache K V).Rep [] where
  holds := DoublyLinkedList.new_holds
  keys_nodup := List.nodup_nil
  mapped := fun _ => rfl
  counted := rfl

theorem Stores.keys_nodup {c : Cache K V} {es : List (CacheHashData K V)} (h : c.Stores es) :
    (es.map CacheHashData.key).Nodup := by
  obtain ⟨cells, rep, rfl⟩ := h
  rw [List.map_map]
  exact rep.keys_nodup

theorem Stores.counted {c : Cache K V} {es : List (CacheHashData K V)} (h : c.Stores es) :
    c.numEntries = es.length := by
  obtain ⟨cells, rep, rfl⟩ := h
  rw [rep.counted, List.length_map]

theorem Rep.lookup_eq_none {c : Cache K V} {cells : List (Cell K V)} (rep : c.Rep cells) {k : K} :
    c.hashToNode.lookup k = none ↔ entryAt cellKey k cells = none := by
  rw [rep.mapped, Option.map_eq_none_iff]

theorem Rep.found {c : Cache K V} {cells : List (Cell K V)} (rep : c.Rep cells) {k : K}
    {node : Ptr} (h : c.hashToNode.lookup k = some node) :
    ∃ d pre post, cells = pre ++ (node, d) :: post ∧ d.key = k ∧
      c.dll.data node = some d ∧ entryAt cellKey k cells = some (node, d) ∧
      withoutKey cellKey k cells = pre ++ post := by
  rw [rep.mapped, Option.map_eq_some_iff] at h
  obtain ⟨⟨p, d⟩, hentry, rfl⟩ := h
  obtain ⟨pre, post, rfl⟩ := List.append_of_mem (mem_of_entryAt hentry)
  have hkey : cellKey (p, d) = k := key_of_entryAt hentry
  exact ⟨d, pre, post, rfl, hkey, (rep.holds.payload _).mp (mem_of_entryAt hentry), hentry,
    hkey ▸ withoutKey_append_cons rep.keys_nodup⟩

theorem Stores.payload {c : Cache K V} {es : List (CacheHashData K V)} (h : c.Stores es) (k : K) :
    c.payload k = entryAt CacheHashData.key k es := by
  obtain ⟨cells, rep, rfl⟩ := h
  rw [Cache.payload, entryAt_payloads]
  cases hk : c.hashToNode.lookup k with
  | none => rw [rep.lookup_eq_none.mp hk]; rfl
  | some node =>
    obtain ⟨d, -, -, -, -, hdata, hentry, -⟩ := rep.found hk
    rw [hentry, Option.bind_some, hdata]
    rfl

/-! ## Moving and adding entries -/

/-- The map follows a found cell to the front of the list; its payload may have
been rewritten. -/
private theorem Rep.front {c : Cache K V} {cells : List (Cell K V)} (rep : c.Rep cells) {k : K}
    {node : Ptr} (h : c.hashToNode.lookup k = some node) {d : CacheHashData K V}
    (hkey : d.key = k) {dll : DoublyLinkedList K V}
    (hdll : dll.Holds ((node, d) :: withoutKey cellKey k cells)) :
    Rep { c with dll } ((node, d) :: withoutKey cellKey k cells) := by
  obtain ⟨_, pre, post, rfl, _, _, _, hrest⟩ := rep.found h
  refine ⟨hdll, ?_, ?_, ?_⟩
  · rw [List.map_cons, List.nodup_cons, map_withoutKey, cellKey, hkey]
    exact ⟨by simp, rep.keys_nodup.filter _⟩
  · intro k'
    rw [entryAt_cons, cellKey, hkey]
    by_cases hk : k = k'
    · rw [if_pos hk, ← hk]
      exact h
    · rw [if_neg hk, withoutKey,
        entryAt_filter (p := fun k' => k' ≠ k) (by simpa using Ne.symm hk)]
      exact rep.mapped k'
  · show c.numEntries = _
    rw [rep.counted, hrest]
    simp only [List.length_append, List.length_cons]
    omega

/-- `MoveToFront` of a found node promotes its entry. -/
theorem Rep.promote {c : Cache K V} {cells : List (Cell K V)} (rep : c.Rep cells) {k : K}
    {node : Ptr} (h : c.hashToNode.lookup k = some node) :
    ∃ d dll, entryAt cellKey k cells = some (node, d) ∧ c.dll.moveToFront node = some dll ∧
      dll.data node = some d ∧ Rep { c with dll } ((node, d) :: withoutKey cellKey k cells) := by
  obtain ⟨d, pre, post, hcells, hkey, -, hentry, hrest⟩ := rep.found h
  obtain ⟨dll, hmove, hholds⟩ := (hcells ▸ rep.holds).moveToFront
  rw [← hrest] at hholds
  exact ⟨d, dll, hentry, hmove, (hholds.payload _).mp List.mem_cons_self,
    rep.front h hkey hholds⟩

def rearm (now : ℕ) (d : CacheHashData K V) : CacheHashData K V :=
  { d with timerEvent := ⟨now, true⟩ }

omit [DecidableEq K] in
theorem key_rearm (now : ℕ) (d : CacheHashData K V) : (rearm now d).key = d.key := rfl

def freshEntry (now : ℕ) (entry : Sigma fun _ : K => V) : CacheHashData K V :=
  ⟨entry.1, entry.2, ⟨now, true⟩⟩

/-- What `Insert` makes of one batch entry. -/
def upsertEntry (now : ℕ) (es : List (CacheHashData K V)) (entry : Sigma fun _ : K => V) :
    List (CacheHashData K V) :=
  upsert CacheHashData.key (rearm now) (freshEntry now entry) es

theorem map_key_upsertEntry (now : ℕ) (es : List (CacheHashData K V))
    (entry : Sigma fun _ : K => V) :
    (upsertEntry now es entry).map CacheHashData.key =
      entry.1 :: (es.map CacheHashData.key).filter fun k => k ≠ entry.1 := by
  rw [upsertEntry, upsert, List.map_cons, key_settled (key_rearm now), map_withoutKey]
  rfl

/-- `Insert` on an existing key rearms its timer and promotes it. -/
theorem refreshEntry_spec {c : Cache K V} {es : List (CacheHashData K V)} (hes : c.Stores es)
    (now : ℕ) {entry : Sigma fun _ : K => V} {node : Ptr}
    (h : c.hashToNode.lookup entry.1 = some node) :
    ∃ c', c.refreshEntry now node = some c' ∧ Frame c c' ∧
      c'.Stores (upsertEntry now es entry) := by
  obtain ⟨cells, rep, rfl⟩ := hes
  obtain ⟨d, pre, post, hcells, hkey, hdata, hentry, hrest⟩ := rep.found h
  obtain ⟨dll, hmove, hholds⟩ := ((hcells ▸ rep.holds).setData (rearm now d)).moveToFront
  rw [← hrest] at hholds
  have hrun : c.refreshEntry now node = some { c with dll } := by
    have hmove' : (c.dll.setData node { d with timerEvent := ⟨now, true⟩ }).moveToFront node =
        some dll := hmove
    simp [refreshEntry, hdata, hmove']
  refine ⟨_, hrun, ⟨rfl, rfl, fun _ => Iff.rfl⟩, _,
    rep.front (d := rearm now d) h hkey hholds, ?_⟩
  rw [upsertEntry, upsert, settled, show (freshEntry now entry).key = entry.1 from rfl,
    entryAt_payloads, hentry, withoutKey_payloads]
  rfl

/-- `Insert` on a new key adds its entry at the front. -/
theorem addEntry_spec {c : Cache K V} {es : List (CacheHashData K V)} (hes : c.Stores es)
    (now : ℕ) {entry : Sigma fun _ : K => V} (h : c.hashToNode.lookup entry.1 = none) :
    ∃ c', c.addEntry now entry.1 entry.2 = some c' ∧ Frame c c' ∧
      c'.Stores (upsertEntry now es entry) := by
  obtain ⟨cells, rep, rfl⟩ := hes
  obtain ⟨dll, hinsert, hholds⟩ := rep.holds.insertAtFront (freshEntry now entry)
  have habsent : entryAt cellKey entry.1 cells = none := rep.lookup_eq_none.mp h
  have hout : entry.1 ∉ cells.map cellKey := entryAt_eq_none.mp habsent
  have hrun : c.addEntry now entry.1 entry.2 = some { c with
      dll := dll
      hashToNode := c.hashToNode.insert entry.1 c.dll.fresh
      numEntries := c.numEntries + 1 } := by
    have hinsert' : c.dll.insertAtFront ⟨entry.1, entry.2, ⟨now, true⟩⟩ =
        some (dll, c.dll.fresh) := hinsert
    rw [addEntry, hinsert']
    rfl
  refine ⟨_, hrun, ⟨rfl, rfl, fun _ => Iff.rfl⟩, _, ⟨hholds, ?_, ?_, ?_⟩, ?_⟩
  · exact List.nodup_cons.mpr ⟨hout, rep.keys_nodup⟩
  · intro k
    rw [entryAt_cons, cellKey, show (freshEntry now entry).key = entry.1 from rfl]
    by_cases hk : entry.1 = k
    · rw [if_pos hk, ← hk]
      exact AList.lookup_insert c.hashToNode
    · rw [if_neg hk]
      exact (AList.lookup_insert_ne (Ne.symm hk)).trans (rep.mapped k)
  · show c.numEntries + 1 = _
    rw [rep.counted, List.length_cons]
    omega
  · rw [upsertEntry, upsert, settled, show (freshEntry now entry).key = entry.1 from rfl,
      entryAt_payloads, habsent, withoutKey_payloads, withoutKey_of_notMem hout]
    rfl

/-- `Query` of one key: its entry, promoted; a missing key does nothing. -/
theorem queryKey_spec {c : Cache K V} {es : List (CacheHashData K V)} (hes : c.Stores es)
    (found : FlatHashMap K V) (k : K) :
    ∃ c', queryKey (c, found) k = some (c', ((entryAt CacheHashData.key k es).elim found
        fun d => found.insert k d.value)) ∧
      Frame c c' ∧ c'.Stores (promote CacheHashData.key id k es) := by
  obtain ⟨cells, rep, rfl⟩ := hes
  rw [promote, entryAt_payloads]
  cases h : c.hashToNode.lookup k with
  | none =>
    have habsent := rep.lookup_eq_none.mp h
    refine ⟨c, ?_, .refl c, cells, rep, ?_⟩
    · simp [queryKey, h, habsent]
    · rw [habsent]
      rfl
  | some node =>
    obtain ⟨d, dll, hentry, hmove, hdata, hrep⟩ := rep.promote h
    refine ⟨{ c with dll }, ?_, ⟨rfl, rfl, fun _ => Iff.rfl⟩, _, hrep, ?_⟩
    · simp [queryKey, h, hentry, hmove, hdata]
    · rw [hentry, withoutKey_payloads]
      rfl

theorem promote_subset (k : K) (es : List (CacheHashData K V)) :
    promote CacheHashData.key id k es ⊆ es := by
  intro d hd
  unfold promote at hd
  split at hd
  · rename_i e he
    rcases List.mem_cons.mp hd with rfl | hd
    · exact mem_of_entryAt he
    · exact List.mem_of_mem_filter hd
  · exact hd

/-- `Query` promotes the entries of its keys in turn, and finds only keys stored. -/
theorem query_spec {c : Cache K V} {es : List (CacheHashData K V)} (hes : c.Stores es)
    (keys : List K) (found : FlatHashMap K V) :
    ∃ c' found', keys.foldlM queryKey (c, found) = some (c', found') ∧ Frame c c' ∧
      c'.Stores (keys.foldl (fun es k => promote CacheHashData.key id k es) es) ∧
      ∀ k ∈ found', k ∈ found ∨ k ∈ es.map CacheHashData.key := by
  induction keys generalizing c es found with
  | nil => exact ⟨c, found, rfl, .refl c, hes, fun k hk => .inl hk⟩
  | cons k keys ih =>
    obtain ⟨c₁, hstep, hframe, hes₁⟩ := queryKey_spec hes found k
    obtain ⟨c₂, found', hrest, hframe', hes₂, hfound⟩ := ih hes₁ _
    refine ⟨c₂, found', ?_, hframe.trans hframe', hes₂, ?_⟩
    · rw [List.foldlM_cons, hstep]
      exact hrest
    · intro k' hk'
      rcases hfound k' hk' with hold | hold
      · cases hentry : entryAt CacheHashData.key k es with
        | none =>
          rw [hentry] at hold
          exact .inl hold
        | some d =>
          rw [hentry] at hold
          rcases (AList.mem_insert found).mp hold with rfl | hold
          · exact .inr (key_of_entryAt hentry ▸ List.mem_map_of_mem (mem_of_entryAt hentry))
          · exact .inl hold
      · exact .inr ((List.map_subset _ (promote_subset k es)) hold)

/-! ## Dropping entries -/

/-- The cache after a cell left the list, the map and the count, and its event
was destroyed. -/
def dropped (c : Cache K V) (cell : Cell K V) (dll : DoublyLinkedList K V) : Cache K V :=
  { c with
    dll := dll
    hashToNode := c.hashToNode.erase cell.2.key
    numEntries := c.numEntries - 1
    executor := c.executor ++ [⟨cell.2.key, .manual⟩] }

theorem frame_dropped (c : Cache K V) (cell : Cell K V) (dll : DoublyLinkedList K V) :
    Frame c (c.dropped cell dll) :=
  ⟨rfl, rfl, fun k => by simp [dropped]⟩

/-- `Remove` together with the erasure and the decrement around it. -/
theorem Rep.drop {c : Cache K V} {pre post : List (Cell K V)} {cell : Cell K V}
    (rep : c.Rep (pre ++ cell :: post)) :
    ∃ dll, c.dll.remove cell.1 = some dll ∧ (c.dropped cell dll).Rep (pre ++ post) := by
  obtain ⟨dll, hremove, hholds⟩ := rep.holds.remove
  refine ⟨dll, hremove, hholds, ?_, ?_, ?_⟩
  · refine rep.keys_nodup.sublist ?_
    simp
  · intro k
    have hrest : withoutKey cellKey cell.2.key (pre ++ cell :: post) = pre ++ post :=
      withoutKey_append_cons rep.keys_nodup
    show (c.hashToNode.erase cell.2.key).lookup k = _
    rw [← hrest]
    by_cases hk : k = cell.2.key
    · subst hk
      rw [AList.lookup_erase, entryAt_eq_none.mpr (by simp [map_withoutKey])]
      rfl
    · rw [AList.lookup_erase_ne hk, withoutKey,
        entryAt_filter (p := fun k' => k' ≠ cell.2.key) (by simpa using hk)]
      exact rep.mapped k
  · show c.numEntries - 1 = _
    rw [rep.counted]
    simp only [List.length_append, List.length_cons]
    omega

/-- `Evict` keeps all but the last `N` entries. -/
theorem evict_spec {c : Cache K V} {cells : List (Cell K V)} (rep : c.Rep cells) (N : ℕ) :
    ∃ c' status, evict N c = some (c', status) ∧ (status = .ok () ↔ N ≤ cells.length) ∧
      Frame c c' ∧ c'.Rep (cells.take (cells.length - N)) := by
  induction N generalizing c cells with
  | zero => exact ⟨c, .ok (), rfl, by simp, .refl c, by simpa using rep⟩
  | succ N ih =>
    rcases List.eq_nil_or_concat' cells with rfl | ⟨init, cell, rfl⟩
    · refine ⟨c, .error "No more entries to evict", ?_, by simp, .refl c, by simpa using rep⟩
      rw [evict, rep.holds.last]
      rfl
    · have hdata := (rep.holds.payload cell).mp (by simp)
      obtain ⟨dll, hremove, hrep⟩ := rep.drop
      rw [List.append_nil] at hrep
      obtain ⟨c', status, hrest, hstatus, hframe, hrep'⟩ := ih hrep
      refine ⟨c', status, ?_, ?_, (frame_dropped c cell dll).trans hframe, ?_⟩
      · rw [evict, rep.holds.last]
        simp only [List.getLast?_concat, Option.map_some, Option.bind_eq_bind, Option.bind_some,
          hdata, removeNode, hremove]
        exact hrest
      · rw [hstatus]
        simp
      · rw [List.take_append_of_le_length (by simp)]
        simpa using hrep'

theorem runWork_spec {c : Cache K V} {es : List (CacheHashData K V)} (hes : c.Stores es)
    (w : ExpiryWork K) :
    ∃ c', c.runWork w = some c' ∧ Frame c c' ∧
      c'.Stores (if w.eventType = .timeout then withoutKey CacheHashData.key w.key es else es) := by
  rcases w with ⟨k, _ | _⟩
  · obtain ⟨cells, rep, rfl⟩ := hes
    rw [if_pos rfl, withoutKey_payloads]
    cases h : c.hashToNode.lookup k with
    | none =>
      have habsent := rep.lookup_eq_none.mp h
      refine ⟨c, by simp [runWork, h], .refl c, cells, rep, ?_⟩
      rw [withoutKey_of_notMem (entryAt_eq_none.mp habsent)]
    | some node =>
      obtain ⟨d, pre, post, rfl, hkey, hdata, -, hrest⟩ := rep.found h
      obtain ⟨dll, hremove, hrep⟩ := rep.drop
      refine ⟨c.dropped (node, d) dll, ?_, frame_dropped .., _, hrep, by rw [hrest]⟩
      simp [runWork, h, removeNode, hdata, hremove, entryExpiryCallback, dropped, hkey]
  · exact ⟨c, rfl, .refl c, by simpa using hes⟩

def disarm (d : CacheHashData K V) : CacheHashData K V :=
  { d with timerEvent := { d.timerEvent with pending := false } }

private theorem node_of_rewritten (pre post : List (Cell K V)) (node : Ptr)
    {d d' : CacheHashData K V} (hkey : d'.key = d.key) (k : K) :
    (entryAt cellKey k (pre ++ (node, d') :: post)).map Prod.fst =
      (entryAt cellKey k (pre ++ (node, d) :: post)).map Prod.fst := by
  induction pre with
  | nil =>
    rw [List.nil_append, List.nil_append, entryAt_cons, entryAt_cons, cellKey, cellKey, hkey]
    split <;> rfl
  | cons cell pre ih =>
    rw [List.cons_append, List.cons_append, entryAt_cons, entryAt_cons]
    split
    · rfl
    · exact ih

theorem fire_spec {c : Cache K V} {es : List (CacheHashData K V)} (hes : c.Stores es)
    {node : Ptr} {d : CacheHashData K V} (hdata : c.dll.data node = some d) :
    ∃ c' pre post, c.fire node = some c' ∧ es = pre ++ d :: post ∧
      c'.Stores (pre ++ disarm d :: post) ∧ c'.capacity = c.capacity ∧ c'.expiry = c.expiry ∧
      c'.executor = c.executor ++ [⟨d.key, .timeout⟩] := by
  obtain ⟨cells, rep, rfl⟩ := hes
  obtain ⟨pre, post, rfl⟩ := List.append_of_mem ((rep.holds.payload (node, d)).mpr hdata)
  let dll := c.dll.setData node (disarm d)
  have hrun : c.fire node = some ({ c with dll }.entryExpiryCallback .timeout d.key) := by
    rw [fire, hdata]
    rfl
  have hrep : Rep ({ c with dll }.entryExpiryCallback .timeout d.key)
      (pre ++ (node, disarm d) :: post) := by
    refine ⟨rep.holds.setData (disarm d), ?_, ?_, ?_⟩
    · simpa [disarm] using rep.keys_nodup
    · intro k
      have hkey : (disarm d).key = d.key := rfl
      exact (rep.mapped k).trans (node_of_rewritten pre post node hkey k).symm
    · exact rep.counted.trans (by simp)
  exact ⟨_, pre.map Prod.snd, post.map Prod.snd, hrun, by simp, ⟨_, hrep, by simp⟩, rfl, rfl, rfl⟩

/-! ## `Insert` -/

/-- The loop of `Insert` handles the first `m` entries of the batch, where either
the whole batch fits or the capacity is not positive and never reached, or every
entry is new and the `m`-th fills the cache. -/
theorem insertLoop_spec {c : Cache K V} {es : List (CacheHashData K V)} (hes : c.Stores es)
    (now : ℕ) {cap : ℤ} (hcap : c.capacity = cap) {batch : List (Sigma fun _ : K => V)}
    (hbatch : (batch.map Sigma.fst).Nodup) {m : ℕ}
    (hroom : (m = batch.length ∧ (es.length + batch.length ≤ cap ∨ cap ≤ 0)) ∨
      (es.length + m = cap ∧ 0 < m ∧ ∀ entry ∈ batch, entry.1 ∉ es.map CacheHashData.key)) :
    ∃ c', insertLoop now batch c = some c' ∧ Frame c c' ∧
      c'.Stores ((batch.take m).foldl (upsertEntry now) es) := by
  induction batch generalizing c es m with
  | nil => exact ⟨c, rfl, .refl c, by simpa using hes⟩
  | cons entry batch ih =>
    rw [List.map_cons, List.nodup_cons] at hbatch
    have hpresent : c.hashToNode.lookup entry.1 = none ↔ entry.1 ∉ es.map CacheHashData.key := by
      obtain ⟨cells, rep, rfl⟩ := hes
      rw [rep.lookup_eq_none, entryAt_eq_none, List.map_map]
      rfl
    cases h : c.hashToNode.lookup entry.1 with
    | some node =>
      -- only a batch that fits can name an entry that exists
      obtain ⟨c₁, hstep, hframe, hes₁⟩ := refreshEntry_spec hes now h
      have hin : entry.1 ∈ es.map CacheHashData.key := by
        by_contra hout
        rw [hpresent.mpr hout] at h
        cases h
      obtain ⟨rfl, hfit⟩ := hroom.resolve_right fun hnew => hnew.2.2 entry List.mem_cons_self hin
      have hlength : (upsertEntry now es entry).length ≤ es.length := length_withoutKey_lt hin
      rw [List.length_cons] at hfit
      obtain ⟨c₂, hrest, hframe', hes₂⟩ :=
        ih hes₁ (hframe.capacity.trans hcap) hbatch.2 (.inl ⟨rfl, by omega⟩)
      refine ⟨c₂, ?_, hframe.trans hframe', by simpa using hes₂⟩
      rw [insertLoop, h]
      simp only [hstep, Option.bind_eq_bind, Option.bind_some]
      exact hrest
    | none =>
      obtain ⟨c₁, hstep, hframe, hes₁⟩ := addEntry_spec hes now h
      have hcap₁ := hframe.capacity.trans hcap
      have hout := hpresent.mp h
      have hlength : (upsertEntry now es entry).length = es.length + 1 :=
        congrArg (·.length + 1) (withoutKey_of_notMem hout)
      have hcount := hes₁.counted
      rw [List.length_cons] at hroom
      by_cases hfull : c₁.numEntries = c₁.capacity
      · -- this entry filled the cache, so it is the `m`-th
        have hm : m = 1 ∨ batch = [] := by
          rcases hroom with ⟨-, hfit⟩ | ⟨hm, -, -⟩
          · exact .inr (List.eq_nil_of_length_eq_zero (by omega))
          · exact .inl (by omega)
        have hpos : 0 < m := by omega
        have hdone : (entry :: batch).take m = [entry] := by
          rcases hm with rfl | rfl
          · rfl
          · exact List.take_of_length_le hpos
        refine ⟨c₁, ?_, hframe, by rw [hdone]; exact hes₁⟩
        simp [insertLoop, h, hstep, hfull]
      · obtain ⟨n, rfl⟩ : ∃ n, m = n + 1 := ⟨m - 1, by omega⟩
        have hroom₁ : (n = batch.length ∧
              ((upsertEntry now es entry).length + batch.length ≤ cap ∨ cap ≤ 0)) ∨
            ((upsertEntry now es entry).length + n = cap ∧ 0 < n ∧ ∀ e ∈ batch,
              e.1 ∉ (upsertEntry now es entry).map CacheHashData.key) := by
          rcases hroom with ⟨hm, hfit⟩ | ⟨hm, hpos, hnew⟩
          · exact .inl (by omega)
          · refine .inr ⟨by omega, by omega, ?_⟩
            intro e he hmem
            rw [map_key_upsertEntry, List.mem_cons] at hmem
            rcases hmem with heq | hmem
            · exact hbatch.1 (heq ▸ List.mem_map_of_mem he)
            · exact hnew e (List.mem_cons_of_mem _ he) (List.mem_of_mem_filter hmem)
        obtain ⟨c₂, hrest, hframe', hes₂⟩ := ih hes₁ hcap₁ hbatch.2 hroom₁
        refine ⟨c₂, ?_, hframe.trans hframe', hes₂⟩
        simp [insertLoop, h, hstep, hfull, hrest]

/-- The entries of a batch that `Insert` comes to. -/
def handled (cap : ℤ) (entries : List (Sigma fun _ : K => V)) : List (Sigma fun _ : K => V) :=
  if 0 < cap then entries.take cap.toNat else entries

omit [DecidableEq K] in
theorem handled_sublist (cap : ℤ) (entries : List (Sigma fun _ : K => V)) :
    (handled cap entries).Sublist entries := by
  unfold handled
  split
  · exact List.take_sublist ..
  · exact List.Sublist.refl _

/-- What `Insert` makes of a cache of capacity `cap`: the least recently used
entries make room for the whole batch, then the batch, as far as it fits, is
inserted or refreshed in turn. -/
def afterInsert (cap : ℤ) (now : ℕ) (entries : List (Sigma fun _ : K => V))
    (es : List (CacheHashData K V)) : List (CacheHashData K V) :=
  (handled cap entries).foldl (upsertEntry now) (es.take (cap - entries.length).toNat)

/-- `Evict` makes room for the whole batch, counting every entry as new. -/
theorem makeRoom_spec {c : Cache K V} {es : List (CacheHashData K V)} (hes : c.Stores es)
    {cap : ℤ} (hcap : c.capacity = cap) (entries : FlatHashMap K V) :
    ∃ c', c.makeRoom entries = some c' ∧ Frame c c' ∧
      c'.Stores (es.take (cap - entries.entries.length).toNat) := by
  have hoverflow : c.overflow entries = es.length + entries.entries.length - cap := by
    rw [overflow, hes.counted, hcap, AList.keys, List.keys, List.length_map]
  by_cases hover : 0 < c.overflow entries
  · obtain ⟨cells, rep, rfl⟩ := hes
    obtain ⟨c', status, hrun, -, hframe, hrep⟩ := evict_spec rep (c.overflow entries).toNat
    refine ⟨c', by rw [makeRoom, if_pos hover, hrun]; rfl, hframe, _, hrep, ?_⟩
    rw [List.length_map] at hoverflow
    have hkept : cells.length - (c.overflow entries).toNat =
        (cap - entries.entries.length).toNat := by
      omega
    rw [hkept, List.map_take]
  · refine ⟨c, if_neg hover, .refl c, ?_⟩
    rwa [List.take_of_length_le (by omega)]

/-- `Insert` as a function of the stored entries. -/
theorem insert_spec {c : Cache K V} {es : List (CacheHashData K V)} (hes : c.Stores es)
    (now : ℕ) {cap : ℤ} (hcap : c.capacity = cap) (entries : FlatHashMap K V) :
    ∃ c', c.insert now entries = some c' ∧ Frame c c' ∧
      c'.Stores (afterInsert cap now entries.entries es) := by
  obtain ⟨c₁, hroom, hframe, hes₁⟩ := makeRoom_spec hes hcap entries
  have hnodup : (entries.entries.map Sigma.fst).Nodup := entries.nodupKeys
  have hkept : (es.take (cap - entries.entries.length).toNat).length =
      min (cap - entries.entries.length).toNat es.length := List.length_take
  by_cases hfits : entries.entries.length ≤ cap ∨ cap ≤ 0
  · obtain ⟨c₂, hloop, hframe', hes₂⟩ := insertLoop_spec hes₁ now (hframe.capacity.trans hcap)
      hnodup (.inl ⟨rfl, by omega⟩)
    refine ⟨c₂, by rw [insert, hroom]; exact hloop, hframe.trans hframe', ?_⟩
    have hall : handled cap entries.entries = entries.entries := by
      unfold handled
      split
      · exact List.take_of_length_le (by omega)
      · rfl
    rw [List.take_length] at hes₂
    rwa [afterInsert, hall]
  · -- the batch alone overfills the cache: everything was evicted
    have hempty : es.take (cap - entries.entries.length).toNat = [] :=
      List.eq_nil_of_length_eq_zero (by omega)
    rw [hempty] at hes₁
    have hroom₁ : (([] : List (CacheHashData K V)).length : ℤ) + cap.toNat = cap := by
      rw [List.length_nil]
      omega
    obtain ⟨c₂, hloop, hframe', hes₂⟩ := insertLoop_spec hes₁ now (hframe.capacity.trans hcap)
      hnodup (.inr ⟨hroom₁, by omega, by simp⟩)
    refine ⟨c₂, by rw [insert, hroom]; exact hloop, hframe.trans hframe', ?_⟩
    rwa [afterInsert, hempty, handled, if_pos (by omega)]

/-- `afterInsert` in closed form: the batch in reverse order, existing entries
rearmed with their old value, then what remains of the others. -/
theorem afterInsert_eq (cap : ℤ) (now : ℕ) {entries : List (Sigma fun _ : K => V)}
    (hnodup : (entries.map Sigma.fst).Nodup) (es : List (CacheHashData K V)) :
    afterInsert cap now entries es =
      ((handled cap entries).map fun entry => settled CacheHashData.key (rearm now)
        (es.take (cap - entries.length).toNat) (freshEntry now entry)).reverse ++
      (es.take (cap - entries.length).toNat).filter fun d => d.key ∉ entries.map Sigma.fst := by
  have hkeys : ((handled cap entries).map (freshEntry now)).map CacheHashData.key =
      (handled cap entries).map Sigma.fst := by
    rw [List.map_map]
    rfl
  have hbatch : (((handled cap entries).map (freshEntry now)).map CacheHashData.key).Nodup := by
    rw [hkeys]
    exact hnodup.sublist ((handled_sublist ..).map _)
  have hfold := foldl_upsert (key_rearm now) hbatch (es.take (cap - entries.length).toNat)
  rw [List.foldl_map, List.map_map, hkeys] at hfold
  refine hfold.trans ?_
  congr 1
  by_cases hfits : (cap - entries.length).toNat = 0
  · rw [hfits]
    rfl
  · rw [handled, if_pos (by omega), List.take_of_length_le (by omega)]

end Cache

end BiddingAuction

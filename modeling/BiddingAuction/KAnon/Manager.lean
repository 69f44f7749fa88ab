import BiddingAuction.Cache.Representation

/-!
# `KAnonCacheManager`

The manager answers which hashes are k-anonymous from two sharded caches and,
for the hashes in neither, from the k-anon service. A call queries the shards
one by one, waits for a reply if need be, reports, and then writes what it
learned back shard by shard; each shard operation is one critical section of
one cache. Calls, replies, timers and queued expiry work interleave freely.

The state also records the history the freshness law speaks of: the hashes the
service listed, what was written to the k-anon caches, and what was reported.
-/

namespace BiddingAuction

open Foundation

abbrev Hash := List UInt8

/-- `absl::little_endian::Load32`. -/
def load32 (hash : Hash) : ℕ :=
  (hash.getD 0 0).toNat + 256 * ((hash.getD 1 0).toNat +
    256 * ((hash.getD 2 0).toNat + 256 * (hash.getD 3 0).toNat))

def getShardIndex (hash : Hash) (numShards : ℕ) : ℕ := load32 hash % numShards

/-- `MapHashToShardedCache`; a single shard takes all hashes unmapped. -/
def mapHashToShardedCache (hashes : FlatHashSet Hash) (numShards : ℕ) :
    List (FlatHashSet Hash) :=
  if numShards = 1 then [hashes]
  else (List.range numShards).map fun i => hashes.filter fun h => getShardIndex h numShards = i

def setToMap (hashes : FlatHashSet Hash) : FlatHashMap Hash Hash where
  entries := hashes.elems.map fun h => ⟨h, h⟩
  nodupKeys := by
    have hkeys : (hashes.elems.map fun h => (⟨h, h⟩ : Sigma fun _ : Hash => Hash)).keys =
        hashes.elems := by
      simp [List.keys, Function.comp_def]
    show List.Nodup (List.keys _)
    rw [hkeys]
    exact hashes.nodup

theorem mem_setToMap {h : Hash} {hashes : FlatHashSet Hash} :
    h ∈ setToMap hashes ↔ h ∈ hashes := by
  rw [AList.mem_keys]
  show h ∈ List.map Sigma.fst (hashes.elems.map fun h => (⟨h, h⟩ : Sigma fun _ : Hash => Hash)) ↔
    h ∈ hashes.elems
  simp

inductive CacheKind where
  | kAnon
  | nonKAnon
deriving DecidableEq, Repr

structure KAnonCacheManager where
  kAnonCaches : List (Cache Hash Hash)
  nonKAnonCaches : List (Cache Hash Hash)
  enableKAnonCache : Bool

/-- A cache hit. The other fields are history: when it was looked up, when the
entry had last been inserted or refreshed, and whether its expiry was due but
not carried out. -/
structure Hit where
  hash : Hash
  lookedUp : ℕ
  written : ℕ
  overdue : Bool
deriving DecidableEq, Repr

/-- A shard operation to come: the hashes for one shard. -/
structure ShardOp where
  kind : CacheKind
  shard : ℕ
  hashes : FlatHashSet Hash

/-- Where a call of `AreKAnonymous` stands: in `QueryShardedCaches`, waiting for
the service in `QueryKAnonClient`, or in `InsertShardedCaches`. -/
inductive Call where
  | querying (setType : String) (hashes : FlatHashSet Hash) (todo : List ShardOp)
      (kAnonHits nonKAnonHits : List Hit)
  | waiting (setType : String) (unresolved : FlatHashSet Hash) (kAnonHits : List Hit)
  | inserting (todo : List ShardOp)

/-- The reply of the k-anon service: its `k_anonymous_sets` with their types. -/
inductive Response where
  | error
  | ok (kAnonymousSets : List (String × List Hash))

/-- A reply that listed hashes of the requested type. -/
structure Listing where
  time : ℕ
  hashes : FlatHashSet Hash

/-- One invocation of a callback: the hashes the reply listed and the cache hits. -/
structure Report where
  time : ℕ
  listed : FlatHashSet Hash
  hits : List Hit

def Report.hashes (r : Report) : List Hash := r.listed.elems ++ r.hits.map Hit.hash

/-- The manager at work, with the history of listings, k-anon cache writes and
reports. -/
structure KAnonSystem where
  manager : KAnonCacheManager
  now : ℕ
  calls : List Call
  listings : List Listing
  writes : List Listing
  reports : List Report

inductive KAnonAction where
  | areKAnonymous (setType : String) (hashes : FlatHashSet Hash)
  | queryShard (call : ℕ)
  | resolve (call : ℕ)
  | reply (call : ℕ) (response : Response)
  | insertShard (call : ℕ)
  | advance (duration : ℕ)
  | fire (kind : CacheKind) (shard : ℕ) (node : Ptr)
  | run (kind : CacheKind) (shard : ℕ) (i : ℕ)

namespace KAnonCacheManager

def caches (m : KAnonCacheManager) : CacheKind → List (Cache Hash Hash)
  | .kAnon => m.kAnonCaches
  | .nonKAnon => m.nonKAnonCaches

def setCache (m : KAnonCacheManager) (kind : CacheKind) (shard : ℕ) (c : Cache Hash Hash) :
    KAnonCacheManager :=
  match kind with
  | .kAnon => { m with kAnonCaches := m.kAnonCaches.set shard c }
  | .nonKAnon => { m with nonKAnonCaches := m.nonKAnonCaches.set shard c }

/-- The shard operations of `QueryShardedCaches` or `InsertShardedCaches`. -/
def shardOps (m : KAnonCacheManager) (kind : CacheKind) (hashes : FlatHashSet Hash) :
    List ShardOp :=
  (mapHashToShardedCache hashes (m.caches kind).length).zipIdx.map fun (hashes, shard) =>
    ⟨kind, shard, hashes⟩

/-- The writes a reply leads to, none when the caches are disabled. -/
def writesFor (m : KAnonCacheManager) (unresolved resolved : FlatHashSet Hash) : List ShardOp :=
  if m.enableKAnonCache then
    m.shardOps .kAnon resolved ++
      m.shardOps .nonKAnon (unresolved.filter fun h => h ∉ resolved)
  else
    []

def isOverdue (c : Cache Hash Hash) (now : ℕ) (d : CacheHashData Hash Hash) : Bool :=
  (d.timerEvent.pending && d.timerEvent.addedAt + c.expiry ≤ now) ||
    ⟨d.key, .timeout⟩ ∈ c.executor

/-- The hits of a query with result `found`. -/
def hitsOf (c : Cache Hash Hash) (now : ℕ) (found : FlatHashMap Hash Hash) : List Hit :=
  found.keys.map fun h =>
    { hash := h
      lookedUp := now
      written := ((c.payload h).map fun d => d.timerEvent.addedAt).getD 0
      overdue := ((c.payload h).map fun d => isOverdue c now d).getD true }

end KAnonCacheManager

namespace KAnonSystem

/-- A new manager of `numKAnonShards` and `numNonKAnonShards` caches. -/
def init (numKAnonShards numNonKAnonShards : ℕ) (kAnonCapacity nonKAnonCapacity : ℤ)
    (kAnonTtl nonKAnonTtl : ℕ) (enableKAnonCache : Bool) : KAnonSystem where
  manager :=
    { kAnonCaches := List.replicate numKAnonShards (.new kAnonCapacity kAnonTtl)
      nonKAnonCaches := List.replicate numNonKAnonShards (.new nonKAnonCapacity nonKAnonTtl)
      enableKAnonCache := enableKAnonCache }
  now := 0
  calls := []
  listings := []
  writes := []
  reports := []

/-- `AreKAnonymous` up to the first critical section: query the shards of both
families, or ask the service at once when there is no cache. -/
def areKAnonymous (s : KAnonSystem) (setType : String) (hashes : FlatHashSet Hash) :
    KAnonSystem :=
  let call := if s.manager.enableKAnonCache then
      Call.querying setType hashes
        (s.manager.shardOps .kAnon hashes ++ s.manager.shardOps .nonKAnon hashes) [] []
    else
      Call.waiting setType hashes []
  { s with calls := s.calls ++ [call] }

def addHits (setType : String) (hashes : FlatHashSet Hash) (todo : List ShardOp)
    (kAnonHits nonKAnonHits : List Hit) (hits : List Hit) : CacheKind → Call
  | .kAnon => .querying setType hashes todo (kAnonHits ++ hits) nonKAnonHits
  | .nonKAnon => .querying setType hashes todo kAnonHits (nonKAnonHits ++ hits)

/-- One turn of the loop of `QueryShardedCaches`. -/
def queryShard (s : KAnonSystem) (call : ℕ) : Option KAnonSystem := do
  match ← s.calls[call]? with
  | .querying setType hashes (op :: todo) kAnonHits nonKAnonHits =>
    let c ← (s.manager.caches op.kind)[op.shard]?
    let (c', found) ← c.query op.hashes
    let hits := KAnonCacheManager.hitsOf c s.now found
    return { s with
      manager := s.manager.setCache op.kind op.shard c'
      calls := s.calls.set call
        (addHits setType hashes todo kAnonHits nonKAnonHits hits op.kind) }
  | _ => none

/-- Invoke the callback with the cache hits alone; the call is over. -/
def reportHits (s : KAnonSystem) (call : ℕ) (kAnonHits : List Hit) : KAnonSystem :=
  { s with
    calls := s.calls.eraseIdx call
    reports := ⟨s.now, .ofList [], kAnonHits⟩ :: s.reports }

/-- `AreKAnonymous` after the queries: report the hits if they resolve every
hash, otherwise ask the service about the others. -/
def resolve (s : KAnonSystem) (call : ℕ) : Option KAnonSystem := do
  match ← s.calls[call]? with
  | .querying setType hashes [] kAnonHits nonKAnonHits =>
    let unresolved := hashes.filter fun h =>
      h ∉ kAnonHits.map Hit.hash ∧ h ∉ nonKAnonHits.map Hit.hash
    if unresolved.elems.isEmpty then
      return s.reportHits call kAnonHits
    else
      return { s with calls := s.calls.set call (.waiting setType unresolved kAnonHits) }
  | _ => none

def listedHashes (setType : String) (kAnonymousSets : List (String × List Hash)) :
    FlatHashSet Hash :=
  .ofList ((kAnonymousSets.filter fun set => set.1 = setType).flatMap Prod.snd)

/-- `on_done` of `QueryKAnonClient`: report the hits and what the reply lists,
then write both to the k-anon caches and the other requested hashes to the
non-k-anon caches. An error or an empty reply reports the hits alone. -/
def reply (s : KAnonSystem) (call : ℕ) (response : Response) : Option KAnonSystem := do
  match ← s.calls[call]? with
  | .waiting setType unresolved kAnonHits =>
    match response with
    | .error | .ok [] => return s.reportHits call kAnonHits
    | .ok kAnonymousSets =>
      let listed := listedHashes setType kAnonymousSets
      let resolved := FlatHashSet.ofList (listed.elems ++ kAnonHits.map Hit.hash)
      return { s with
        calls := s.calls.set call (.inserting (s.manager.writesFor unresolved resolved))
        listings := ⟨s.now, listed⟩ :: s.listings
        reports := ⟨s.now, listed, kAnonHits⟩ :: s.reports }
  | _ => none

/-- The recorded writes after a shard operation: those to the k-anon caches. -/
def recordWrite (s : KAnonSystem) (op : ShardOp) : List Listing :=
  match op.kind with
  | .kAnon => ⟨s.now, op.hashes⟩ :: s.writes
  | .nonKAnon => s.writes

/-- One turn of the loop of `InsertShardedCaches`. -/
def insertShard (s : KAnonSystem) (call : ℕ) : Option KAnonSystem := do
  match ← s.calls[call]? with
  | .inserting (op :: todo) =>
    let c ← (s.manager.caches op.kind)[op.shard]?
    let c' ← c.insert s.now (setToMap op.hashes)
    return { s with
      manager := s.manager.setCache op.kind op.shard c'
      calls := s.calls.set call (.inserting todo)
      writes := s.recordWrite op }
  | _ => none

def cacheAction (s : KAnonSystem) (kind : CacheKind) (shard : ℕ) (a : CacheAction Hash Hash) :
    Option KAnonSystem := do
  let c ← (s.manager.caches kind)[shard]?
  let t ← (⟨c, s.now⟩ : CacheSystem Hash Hash).exec a
  return { s with manager := s.manager.setCache kind shard t.cache }

def exec (s : KAnonSystem) : KAnonAction → Option KAnonSystem
  | .areKAnonymous setType hashes => some (s.areKAnonymous setType hashes)
  | .queryShard call => s.queryShard call
  | .resolve call => s.resolve call
  | .reply call response => s.reply call response
  | .insertShard call => s.insertShard call
  | .advance duration => some { s with now := s.now + duration }
  | .fire kind shard node => s.cacheAction kind shard (.fire node)
  | .run kind shard i => s.cacheAction kind shard (.run i)

def Enabled (s : KAnonSystem) : KAnonAction → Prop
  | .fire kind shard node => ∃ c, (s.manager.caches kind)[shard]? = some c ∧
      (⟨c, s.now⟩ : CacheSystem Hash Hash).Enabled (.fire node)
  | _ => True

end KAnonSystem

def kAnonSystem (numKAnonShards numNonKAnonShards : ℕ) (kAnonCapacity nonKAnonCapacity : ℤ)
    (kAnonTtl nonKAnonTtl : ℕ) (enableKAnonCache : Bool) : LTS KAnonSystem KAnonAction where
  init s := s = .init numKAnonShards numNonKAnonShards kAnonCapacity nonKAnonCapacity
    kAnonTtl nonKAnonTtl enableKAnonCache
  step s a s' := s.Enabled a ∧ s.exec a = some s'

end BiddingAuction

import BiddingAuction.Cache.DoublyLinkedList
import BiddingAuction.Common.FlatHash
import BiddingAuction.Foundation.Runs

/-!
# `Cache`: operations and the system around it

The cache is a hash map from keys to nodes of a doubly linked list, a counter
and a capacity; `executor` holds the work queued by expiry callbacks. `Insert`,
`Query` and the queued work each run under the cache mutex, so one action of
`system` is one critical section: the interleavings of the code are the runs of
the system. Time passes between actions, a timer may fire at any point after
its deadline, and queued work may run in any order and at any later time.
-/

namespace BiddingAuction

open Foundation

/-- `event_type` of an event callback: fired by the loop, or activated by hand
when the event is destroyed. -/
inductive EventType where
  | timeout
  | manual
deriving DecidableEq, Repr

/-- The argument of a callback queued on the executor. -/
structure ExpiryWork (K : Type) where
  key : K
  eventType : EventType
deriving DecidableEq, Repr

/-- The cache. `expiry` is the ttl, `executor` the queue of expiry work. -/
structure Cache (K V : Type) where
  numEntries : ℤ
  capacity : ℤ
  expiry : ℕ
  dll : DoublyLinkedList K V
  hashToNode : FlatHashMap K Ptr
  executor : List (ExpiryWork K)

namespace Cache

variable {K V : Type} [DecidableEq K]

def new (capacity : ℤ) (ttl : ℕ) : Cache K V where
  numEntries := 0
  capacity := capacity
  expiry := ttl
  dll := .new
  hashToNode := ∅
  executor := []

/-- `EntryExpiryCallback` up to `executor->Run`: queue the work. -/
def entryExpiryCallback (c : Cache K V) (eventType : EventType) (key : K) : Cache K V :=
  { c with executor := c.executor ++ [⟨key, eventType⟩] }

/-- `dll_.Remove`: freeing the node destroys its event, which activates the
callback by hand. -/
def removeNode (c : Cache K V) (node : Ptr) : Option (Cache K V) := do
  let d ← c.dll.data node
  let dll ← c.dll.remove node
  return { c with dll }.entryExpiryCallback .manual d.key

/-! ## `Query` -/

/-- One turn of the loop of `Query`. -/
def queryKey (acc : Cache K V × FlatHashMap K V) (key : K) :
    Option (Cache K V × FlatHashMap K V) :=
  match acc.1.hashToNode.lookup key with
  | none => some acc
  | some node => do
    let dll ← acc.1.dll.moveToFront node
    let d ← dll.data node
    return ({ acc.1 with dll }, acc.2.insert key d.value)

/-- `Query`: the entries found; each becomes the most recently used. -/
def query (c : Cache K V) (keys : FlatHashSet K) : Option (Cache K V × FlatHashMap K V) :=
  keys.elems.foldlM queryKey (c, ∅)

/-! ## `Insert` -/

/-- `Evict`: remove (at most) `N` nodes from the tail. -/
def evict : ℕ → Cache K V → Option (Cache K V × Except String Unit)
  | 0, c => some (c, .ok ())
  | N + 1, c => do
    match ← c.dll.last with
    | none => return (c, .error "No more entries to evict")
    | some node =>
      let d ← c.dll.data node
      let c ← { c with hashToNode := c.hashToNode.erase d.key }.removeNode node
      evict N { c with numEntries := c.numEntries - 1 }

/-- An existing entry: delete and add its timer again, move it to the front.
The value stays. -/
def refreshEntry (c : Cache K V) (now : ℕ) (node : Ptr) : Option (Cache K V) := do
  let d ← c.dll.data node
  let dll ← (c.dll.setData node { d with timerEvent := ⟨now, true⟩ }).moveToFront node
  return { c with dll }

def addEntry (c : Cache K V) (now : ℕ) (key : K) (value : V) : Option (Cache K V) := do
  let (dll, node) ← c.dll.insertAtFront ⟨key, value, ⟨now, true⟩⟩
  return { c with
    dll := dll
    hashToNode := c.hashToNode.insert key node
    numEntries := c.numEntries + 1 }

/-- The loop of `Insert`; a new entry that fills the cache ends it. -/
def insertLoop (now : ℕ) : List (Sigma fun _ : K => V) → Cache K V → Option (Cache K V)
  | [], c => some c
  | entry :: entries, c =>
    match c.hashToNode.lookup entry.1 with
    | some node => do
      let c ← c.refreshEntry now node
      insertLoop now entries c
    | none => do
      let c ← c.addEntry now entry.1 entry.2
      if c.numEntries = c.capacity then return c
      insertLoop now entries c

/-- By how much a batch would exceed the capacity, counting every entry as new. -/
def overflow (c : Cache K V) (entries : FlatHashMap K V) : ℤ :=
  c.numEntries + entries.keys.length - c.capacity

/-- The start of `Insert`: make room for the whole batch. A failed eviction is
only logged. -/
def makeRoom (c : Cache K V) (entries : FlatHashMap K V) : Option (Cache K V) :=
  if 0 < c.overflow entries then
    Prod.fst <$> evict (c.overflow entries).toNat c
  else
    some c

/-- `Insert`: make room, then insert or refresh entry by entry. -/
def insert (c : Cache K V) (now : ℕ) (entries : FlatHashMap K V) : Option (Cache K V) := do
  let c ← c.makeRoom entries
  insertLoop now entries.entries c

/-! ## Expiry -/

/-- The timer of a node goes off: the event is no longer pending, and the
callback runs with `EV_TIMEOUT`. -/
def fire (c : Cache K V) (node : Ptr) : Option (Cache K V) := do
  let d ← c.dll.data node
  let dll := c.dll.setData node { d with timerEvent := { d.timerEvent with pending := false } }
  return { c with dll }.entryExpiryCallback .timeout d.key

/-- The work queued by `EntryExpiryCallback`, run later by the executor. -/
def runWork (c : Cache K V) (w : ExpiryWork K) : Option (Cache K V) :=
  match w.eventType with
  | .manual => some c
  | .timeout =>
    match c.hashToNode.lookup w.key with
    | none => some c
    | some node => do
      let c ← { c with numEntries := c.numEntries - 1 }.removeNode node
      return { c with hashToNode := c.hashToNode.erase w.key }

end Cache

/-! ## The system -/

structure CacheSystem (K V : Type) where
  cache : Cache K V
  now : ℕ

/-- One critical section, or the passing of time. -/
inductive CacheAction (K V : Type) where
  | insert (entries : FlatHashMap K V)
  | query (keys : FlatHashSet K)
  | advance (duration : ℕ)
  | fire (node : Ptr)
  | run (i : ℕ)

namespace CacheSystem

variable {K V : Type} [DecidableEq K]

/-- When an action can be taken: a timer that goes off is pending and past its
deadline, and the work that runs is in the queue. -/
def Enabled (s : CacheSystem K V) : CacheAction K V → Prop
  | .fire node => ∃ d, s.cache.dll.data node = some d ∧ d.timerEvent.pending = true ∧
      d.timerEvent.addedAt + s.cache.expiry ≤ s.now
  | .run i => i < s.cache.executor.length
  | _ => True

def exec (s : CacheSystem K V) : CacheAction K V → Option (CacheSystem K V)
  | .insert entries => do
    let cache ← s.cache.insert s.now entries
    return { s with cache }
  | .query keys => do
    let (cache, _) ← s.cache.query keys
    return { s with cache }
  | .advance duration => some { s with now := s.now + duration }
  | .fire node => do
    let cache ← s.cache.fire node
    return { s with cache }
  | .run i => do
    let work ← s.cache.executor[i]?
    let cache ← { s.cache with executor := s.cache.executor.eraseIdx i }.runWork work
    return { s with cache }

end CacheSystem

def cacheSystem (K V : Type) [DecidableEq K] (capacity : ℤ) (ttl : ℕ) :
    LTS (CacheSystem K V) (CacheAction K V) where
  init s := s = ⟨.new capacity ttl, 0⟩
  step s a s' := s.Enabled a ∧ s.exec a = some s'

end BiddingAuction

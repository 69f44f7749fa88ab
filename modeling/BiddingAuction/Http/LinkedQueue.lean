import BiddingAuction.Cache.Representation
import BiddingAuction.Foundation.Runs
import BiddingAuction.Http.FetcherAsync
import Mathlib.Data.Int.ConditionallyCompleteOrder
import Mathlib.Order.ConditionallyCompleteLattice.Basic

/-!
# The parts of `CurlRequestQueue`

The queue is a doubly linked list with the newest request in front, a map from the requests to
their nodes and a counter. Every operation is that of the source, in `Option`: `none` is a node
that is not there. The clock is read once for every request that is put in or looked at.
-/

namespace BiddingAuction

open Foundation

/-- The members of `CurlRequestQueue`. -/
structure LinkedCurlRequestQueue where
  capacity : ℤ
  maxWait : ℤ
  curlHandles : FlatHashMap ℕ Ptr := ∅
  dll : DoublyLinkedList CurlRequestData Unit := .new
  size : ℤ := 0
  shuttingDown : Bool := false
  shutdownCompleted : Bool := false

namespace LinkedCurlRequestQueue

variable (q : LinkedCurlRequestQueue)

def queued : List CurlRequestData := q.dll.payloads.map CacheHashData.key

def full : Bool := q.size = q.capacity

def empty : Bool := q.size = 0

/-- `dll_.Remove` of the handle of a request, with the erasure and the decrement around it. -/
def removeRequest (request : CurlRequestData) : Option LinkedCurlRequestQueue := do
  let node ← q.curlHandles.lookup request.id
  let dll ← q.dll.remove node
  return { q with dll, curlHandles := q.curlHandles.erase request.id, size := q.size - 1 }

/-- `Enqueue`. The nodes of the queue have no timer. -/
def enqueue (id : ℕ) (now : ℤ) : Option (LinkedCurlRequestQueue × CurlEffects) :=
  if q.shuttingDown then
    some (q, { invoked := [⟨id, .internalError "Shutting down."⟩] })
  else do
    let (dll, node) ← q.dll.insertAtFront ⟨⟨id, now⟩, (), ⟨0, false⟩⟩
    return ({ q with dll, curlHandles := q.curlHandles.insert id node, size := q.size + 1 }, {})

/-- `Dequeue`: the request at the tail. -/
def dequeue : Option (Option (LinkedCurlRequestQueue × CurlRequestData)) :=
  if q.empty then some none
  else do
    let node ← (← q.dll.last)
    let data ← q.dll.data node
    let rest ← q.removeRequest data.key
    return some (rest, data.key)

/-- The loop of `RemoveExpiredEntries` while shutting down, for so many requests at the most. -/
def drain : ℕ → LinkedCurlRequestQueue → CurlEffects →
    Option (LinkedCurlRequestQueue × CurlEffects)
  | 0, _, _ => none
  | n + 1, q, effects => do
    match ← q.dequeue with
    | none => return (q, effects)
    | some (rest, request) =>
      drain n rest { effects with
        invoked := effects.invoked ++ [⟨request.id, .internalError "Shutting down."⟩] }

/-- The loop of `RemoveExpiredEntries`, for so many requests at the most; `reads` is how often the
clock was read before. -/
def expireFrom (clock : ℕ → ℤ) : ℕ → LinkedCurlRequestQueue → ℕ → CurlEffects →
    Option (LinkedCurlRequestQueue × ℕ × CurlEffects)
  | 0, _, _, _ => none
  | n + 1, q, reads, effects => do
    match ← q.dll.first with
    | none => return (q, reads, effects)
    | some node =>
      let data ← q.dll.data node
      if clock reads - data.key.startTime < q.maxWait then return (q, reads + 1, effects)
      let rest ← q.removeRequest data.key
      expireFrom clock n rest (reads + 1) { effects with
        scheduled := effects.scheduled ++
          [⟨data.key.id, .internalError "Request timed out waiting in the queue"⟩] }

/-- `RemoveExpiredEntries`. Neither loop runs more often than there are requests, and once to find
the end. -/
def removeExpiredEntries (clock : ℕ → ℤ) (reads : ℕ) :
    Option (LinkedCurlRequestQueue × ℕ × CurlEffects) :=
  if q.shuttingDown then do
    let (rest, effects) ← drain (q.size.toNat + 1) q {}
    return ({ rest with shutdownCompleted := true }, reads, effects)
  else
    expireFrom clock (q.size.toNat + 1) q reads {}

/-! ## What the parts hold -/

abbrev RequestCell := DoublyLinkedList.Cell CurlRequestData Unit

abbrev cellId (cell : RequestCell) : ℕ := cell.2.key.id

/-- List, map and counter hold the same requests. -/
structure Rep (q : LinkedCurlRequestQueue) (cells : List RequestCell) : Prop where
  holds : q.dll.Holds cells
  ids_nodup : (cells.map cellId).Nodup
  mapped : ∀ id, q.curlHandles.lookup id = (entryAt cellId id cells).map Prod.fst
  counted : q.size = cells.length

variable {q} {cells : List RequestCell}

theorem new_rep (capacity : ℤ) (maxWait : ℤ) :
    Rep { capacity := capacity, maxWait := maxWait } [] where
  holds := DoublyLinkedList.new_holds
  ids_nodup := List.nodup_nil
  mapped := fun _ => rfl
  counted := rfl

theorem Rep.queued_eq (rep : q.Rep cells) : q.queued = cells.map fun cell => cell.2.key := by
  rw [queued, rep.holds.payloads, List.map_map]
  rfl

theorem Rep.size_eq (rep : q.Rep cells) : q.size = q.queued.length := by
  rw [rep.queued_eq, List.length_map, rep.counted]

theorem Rep.removeRequest {pre post : List RequestCell}
    {cell : RequestCell} (rep : q.Rep (pre ++ cell :: post)) :
    ∃ dll, q.removeRequest cell.2.key = some { q with
        dll, curlHandles := q.curlHandles.erase cell.2.key.id, size := q.size - 1 } ∧
      Rep { q with dll, curlHandles := q.curlHandles.erase cell.2.key.id, size := q.size - 1 }
        (pre ++ post) := by
  obtain ⟨dll, hremove, hholds⟩ := rep.holds.remove
  have hentry : entryAt cellId cell.2.key.id (pre ++ cell :: post) = some cell :=
    entryAt_of_mem rep.ids_nodup (by simp)
  refine ⟨dll, ?_, hholds, ?_, ?_, ?_⟩
  · rw [LinkedCurlRequestQueue.removeRequest, rep.mapped, hentry]
    simp [hremove]
  · refine rep.ids_nodup.sublist ?_
    simp
  · intro id
    have hrest : withoutKey cellId cell.2.key.id (pre ++ cell :: post) = pre ++ post :=
      withoutKey_append_cons rep.ids_nodup
    show (q.curlHandles.erase cell.2.key.id).lookup id = _
    rw [← hrest]
    -- the handle of the request goes, the others still find their nodes
    by_cases hid : id = cell.2.key.id
    · subst hid
      rw [AList.lookup_erase, entryAt_eq_none.mpr (by simp [map_withoutKey])]
      rfl
    · rw [AList.lookup_erase_ne hid, withoutKey,
        entryAt_filter (p := fun id' => id' ≠ cell.2.key.id) (by simpa using hid)]
      exact rep.mapped id
  · show q.size - 1 = _
    rw [rep.counted]
    simp only [List.length_append, List.length_cons]
    omega

/-! ## Operations -/

structure Frame (q q' : LinkedCurlRequestQueue) : Prop where
  capacity : q'.capacity = q.capacity
  maxWait : q'.maxWait = q.maxWait
  shuttingDown : q'.shuttingDown = q.shuttingDown
  shutdownCompleted : q'.shutdownCompleted = q.shutdownCompleted

theorem Frame.refl (q : LinkedCurlRequestQueue) : Frame q q := ⟨rfl, rfl, rfl, rfl⟩

theorem Frame.trans {q q' q'' : LinkedCurlRequestQueue} (h : Frame q q') (h' : Frame q' q'') :
    Frame q q'' :=
  ⟨h'.capacity.trans h.capacity, h'.maxWait.trans h.maxWait,
    h'.shuttingDown.trans h.shuttingDown, h'.shutdownCompleted.trans h.shutdownCompleted⟩

theorem Rep.removeRequest_frame {pre post : List RequestCell} {cell : RequestCell}
    (rep : q.Rep (pre ++ cell :: post)) :
    ∃ q', q.removeRequest cell.2.key = some q' ∧ q'.Rep (pre ++ post) ∧ Frame q q' := by
  obtain ⟨dll, hremove, hrep⟩ := rep.removeRequest
  exact ⟨_, hremove, hrep, rfl, rfl, rfl, rfl⟩

theorem Rep.enqueue (rep : q.Rep cells) (hrunning : q.shuttingDown = false) {id : ℕ} (now : ℤ)
    (hfresh : id ∉ cells.map cellId) :
    ∃ q' node, q.enqueue id now = some (q', {}) ∧
      q'.Rep ((node, ⟨⟨id, now⟩, (), ⟨0, false⟩⟩) :: cells) ∧ Frame q q' := by
  obtain ⟨dll, hinsert, hholds⟩ := rep.holds.insertAtFront ⟨⟨id, now⟩, (), ⟨0, false⟩⟩
  refine ⟨{ q with dll, curlHandles := q.curlHandles.insert id q.dll.fresh, size := q.size + 1 },
    q.dll.fresh, ?_, ⟨hholds, List.nodup_cons.mpr ⟨hfresh, rep.ids_nodup⟩, ?_, ?_⟩, rfl, rfl, rfl,
    rfl⟩
  · rw [LinkedCurlRequestQueue.enqueue, hrunning]
    simp [hinsert]
  · intro id'
    rw [entryAt_cons]
    show (q.curlHandles.insert id q.dll.fresh).lookup id' = _
    by_cases hid : id = id'
    · rw [if_pos hid, ← hid, AList.lookup_insert]
      rfl
    · rw [if_neg hid, AList.lookup_insert_ne (Ne.symm hid)]
      exact rep.mapped id'
  · show q.size + 1 = _
    rw [rep.counted]
    simp

theorem Rep.dequeue_nil (rep : q.Rep []) : q.dequeue = some none :=
  if_pos (by simp [empty, rep.counted])

theorem Rep.dequeue_concat {pre : List RequestCell} {cell : RequestCell}
    (rep : q.Rep (pre ++ [cell])) :
    ∃ q', q.dequeue = some (some (q', cell.2.key)) ∧ q'.Rep pre ∧ Frame q q' := by
  have hdata := (rep.holds.payload cell).mp (by simp)
  obtain ⟨q', hremove, hrep, hframe⟩ := rep.removeRequest_frame
  rw [List.append_nil] at hrep
  have hnonempty : q.empty = false := by
    refine decide_eq_false ?_
    rw [rep.counted, List.length_append, List.length_singleton]
    omega
  refine ⟨q', ?_, hrep, hframe⟩
  rw [LinkedCurlRequestQueue.dequeue, hnonempty, if_neg Bool.false_ne_true, rep.holds.last]
  simp [hdata, hremove]

/-- How many requests the ticker lets go of: the clock is read for each. -/
def expiring (clock : ℕ → ℤ) (maxWait : ℤ) : ℕ → List RequestCell → ℕ
  | _, [] => 0
  | reads, cell :: cells =>
    if clock reads - cell.2.key.startTime < maxWait then 0
    else expiring clock maxWait (reads + 1) cells + 1

def readings (clock : ℕ → ℤ) (maxWait : ℤ) (reads : ℕ) (cells : List RequestCell) : ℕ :=
  min (expiring clock maxWait reads cells + 1) cells.length

theorem Rep.expireFrom (rep : q.Rep cells) (clock : ℕ → ℤ) (reads : ℕ) {n : ℕ}
    (hn : cells.length < n) (effects : CurlEffects) :
    ∃ q', LinkedCurlRequestQueue.expireFrom clock n q reads effects =
        some (q', reads + readings clock q.maxWait reads cells, { effects with
          scheduled := effects.scheduled ++
            (cells.take (expiring clock q.maxWait reads cells)).map fun cell =>
              ⟨cell.2.key.id, .internalError "Request timed out waiting in the queue"⟩ }) ∧
      q'.Rep (cells.drop (expiring clock q.maxWait reads cells)) ∧ Frame q q' := by
  induction cells generalizing q reads n effects with
  | nil =>
    obtain ⟨n, rfl⟩ : ∃ n', n = n' + 1 := Nat.exists_eq_add_one.mpr hn
    refine ⟨q, ?_, rep, .refl q⟩
    rw [LinkedCurlRequestQueue.expireFrom, rep.holds.first]
    simp [readings]
  | cons cell cells ih =>
    obtain ⟨n, rfl⟩ : ∃ n', n = n' + 1 := Nat.exists_eq_add_one.mpr (Nat.lt_of_le_of_lt
      (Nat.zero_le _) hn)
    have hdata := (rep.holds.payload cell).mp List.mem_cons_self
    rw [LinkedCurlRequestQueue.expireFrom, rep.holds.first]
    by_cases hwait : clock reads - cell.2.key.startTime < q.maxWait
    · -- the early return: what is behind the cell is not looked at
      have hexpiring : expiring clock q.maxWait reads (cell :: cells) = 0 := if_pos hwait
      refine ⟨q, ?_, ?_, .refl q⟩
      · simp [hdata, hwait, hexpiring, readings]
      · rwa [hexpiring, List.drop_zero]
    · have hexpiring : expiring clock q.maxWait reads (cell :: cells) =
          expiring clock q.maxWait (reads + 1) cells + 1 := if_neg hwait
      have rep' : q.Rep ([] ++ cell :: cells) := rep
      obtain ⟨q', hremove, hrep, hframe⟩ := rep'.removeRequest_frame
      obtain ⟨q'', hexpire, hrep', hframe'⟩ := ih hrep (reads + 1) (Nat.lt_of_succ_lt_succ hn)
        { effects with scheduled := effects.scheduled ++
          [⟨cell.2.key.id, .internalError "Request timed out waiting in the queue"⟩] }
      rw [hframe.maxWait] at hexpire hrep'
      refine ⟨q'', ?_, ?_, hframe.trans hframe'⟩
      · have hreads : reads + 1 + readings clock q.maxWait (reads + 1) cells =
            reads + readings clock q.maxWait reads (cell :: cells) := by
          simp only [readings, hexpiring, List.length_cons]
          omega
        rw [hreads] at hexpire
        simpa [hdata, hwait, hremove, hexpiring] using hexpire
      · rwa [hexpiring, List.drop_succ_cons]

theorem expiring_of_expired {clock : ℕ → ℤ} (hclock : Monotone clock) {maxWait : ℤ} {reads : ℕ}
    (hexpired : ∀ cell ∈ cells, maxWait ≤ clock reads - cell.2.key.startTime) :
    expiring clock maxWait reads cells = cells.length := by
  induction cells generalizing reads with
  | nil => rfl
  | cons cell cells ih =>
    have hcell := hexpired cell List.mem_cons_self
    rw [expiring, if_neg (Int.not_lt.mpr hcell), List.length_cons]
    -- the clock is read again for the next request
    refine congrArg Nat.succ (ih fun cell' hmem => ?_)
    have := hexpired cell' (List.mem_cons_of_mem _ hmem)
    have := hclock (Nat.le_add_right reads 1)
    omega

end LinkedCurlRequestQueue

end BiddingAuction

/-!
# Expiry in a queue

Histories of a queue that is not shut down. The ticker looks at the newest request first and stops
at the first one that has not expired, so what is older stays behind it. All of the queue expires
at once, or nothing does.
-/

namespace BiddingAuction

open Foundation LinkedCurlRequestQueue

inductive QueueOp where
  | enqueue (id : ℕ)
  | dequeue
  | tick
deriving DecidableEq, Repr

/-- A queue with its history: how often the clock was read, and the requests that were put in and
taken out, the earliest ones first. -/
structure QueueHistory where
  queue : LinkedCurlRequestQueue
  reads : ℕ := 0
  enqueued : List CurlRequestData := []
  dequeued : List CurlRequestData := []

namespace QueueHistory

variable (clock : ℕ → ℤ)

/-- One operation; `none` is a crash. -/
def step (s : QueueHistory) : QueueOp → Option QueueHistory
  | .enqueue id => do
    let (queue, _) ← s.queue.enqueue id (clock s.reads)
    return { s with
      queue := queue
      reads := s.reads + 1
      enqueued := s.enqueued ++ [⟨id, clock s.reads⟩] }
  | .dequeue => do
    match ← s.queue.dequeue with
    | none => return s
    | some (queue, request) =>
      return { s with queue := queue, dequeued := s.dequeued ++ [request] }
  | .tick => do
    let (queue, reads, _) ← s.queue.removeExpiredEntries clock s.reads
    return { s with queue := queue, reads := reads }

/-- A request that is put in belongs to the caller, so it is not in the queue. -/
def Admissible (s : QueueHistory) : QueueOp → Prop
  | .enqueue id => id ∉ s.queue.queued.map CurlRequestData.id
  | _ => True

instance (s : QueueHistory) (op : QueueOp) : Decidable (s.Admissible op) :=
  match op with
  | .enqueue id => inferInstanceAs (Decidable (id ∉ s.queue.queued.map CurlRequestData.id))
  | .dequeue => .isTrue trivial
  | .tick => .isTrue trivial

def system (capacity : ℤ) (maxWait : ℤ) : LTS QueueHistory QueueOp where
  init s := s = { queue := { capacity := capacity, maxWait := maxWait } }
  step s op s' := s.Admissible op ∧ s.step clock op = some s'

structure StepLaw (s : QueueHistory) (op : QueueOp) (s' : QueueHistory) : Prop where
  /-- Nothing that was put in at or before `t - max_wait` is left by a tick at `t`. -/
  overdue : op = .tick → ∀ request ∈ s'.queue.queued,
    clock s.reads - s.queue.maxWait < request.startTime
  /-- Nothing younger is removed by it. -/
  younger : op = .tick → ∀ request ∈ s.queue.queued, request ∉ s'.queue.queued →
    request.startTime ≤ clock s.reads - s.queue.maxWait
  enqueue : ∀ id, op = .enqueue id →
    s'.queue.queued = ⟨id, clock s.reads⟩ :: s.queue.queued
  /-- The oldest one is taken out. -/
  dequeue : op = .dequeue →
    s'.dequeued ++ s'.queue.queued.reverse = s.dequeued ++ s.queue.queued.reverse ∧
      s'.dequeued.length = s.dequeued.length + min s.queue.queued.length 1
  /-- What is left is taken out in the order in which it was put in. -/
  ordered : (s'.dequeued ++ s'.queue.queued.reverse).Sublist s'.enqueued
  counted : s'.queue.size = s'.queue.queued.length

def Lawful (s : QueueHistory) (op : QueueOp) : Prop :=
  s.Admissible op → ∃ s', s.step clock op = some s' ∧ s.StepLaw clock op s'

/-- At a tick either the newest request has expired or the oldest has not, if there is one. -/
def ExpiresAtOnce (s : QueueHistory) (op : QueueOp) : Prop :=
  op = .tick → ∀ newest ∈ s.queue.queued.head?, ∀ oldest ∈ s.queue.queued.getLast?,
    s.queue.maxWait ≤ clock s.reads - newest.startTime ∨
      clock s.reads - oldest.startTime < s.queue.maxWait

instance (s : QueueHistory) (op : QueueOp) : Decidable (s.ExpiresAtOnce clock op) :=
  inferInstanceAs (Decidable (op = .tick → ∀ newest ∈ s.queue.queued.head?,
    ∀ oldest ∈ s.queue.queued.getLast?,
      s.queue.maxWait ≤ clock s.reads - newest.startTime ∨
        clock s.reads - oldest.startTime < s.queue.maxWait))

structure Inv (s : QueueHistory) (cells : List RequestCell) : Prop where
  rep : s.queue.Rep cells
  running : s.queue.shuttingDown = false
  /-- The requests were put in when the clock was read before. -/
  started : ∀ cell ∈ cells, ∃ read < s.reads, cell.2.key.startTime = clock read
  sorted : cells.Pairwise fun cell older => older.2.key.startTime ≤ cell.2.key.startTime
  ordered : (s.dequeued ++ s.queue.queued.reverse).Sublist s.enqueued

variable {clock} {s : QueueHistory} {cells : List RequestCell}

theorem Inv.queued_eq (h : s.Inv clock cells) :
    s.queue.queued = cells.map fun cell => cell.2.key :=
  h.rep.queued_eq

theorem inv_new (capacity : ℤ) (maxWait : ℤ) :
    Inv clock { queue := { capacity := capacity, maxWait := maxWait } } [] where
  rep := new_rep capacity maxWait
  running := rfl
  started := fun _ h => absurd h List.not_mem_nil
  sorted := .nil
  ordered := by rw [(new_rep capacity maxWait).queued_eq]; exact List.nil_sublist _

theorem Inv.startTime_le (h : s.Inv clock cells) (hclock : Monotone clock) {cell : RequestCell}
    (hcell : cell ∈ cells) : cell.2.key.startTime ≤ clock s.reads := by
  obtain ⟨read, hread, hstart⟩ := h.started cell hcell
  exact hstart.trans_le (hclock hread.le)

theorem Inv.exists_oldest (h : s.Inv clock cells) {request : CurlRequestData}
    (hrequest : request ∈ s.queue.queued) :
    ∃ oldest ∈ s.queue.queued.getLast?, oldest.startTime ≤ request.startTime := by
  have hsorted : s.queue.queued.Pairwise fun request older =>
      older.startTime ≤ request.startTime := by
    rw [h.queued_eq]
    exact List.pairwise_map.mpr h.sorted
  rcases List.eq_nil_or_concat' s.queue.queued with hnil | ⟨init, oldest, hconcat⟩
  · exact absurd (hnil ▸ hrequest) List.not_mem_nil
  · rw [hconcat] at hsorted hrequest ⊢
    refine ⟨oldest, List.getLast?_concat, ?_⟩
    rcases List.mem_append.mp hrequest with hinit | hlast
    · exact (List.pairwise_append.mp hsorted).2.2 request hinit oldest List.mem_cons_self
    · exact (List.mem_singleton.mp hlast) ▸ le_rfl

theorem enqueue_spec (h : s.Inv clock cells) (hclock : Monotone clock) {id : ℕ}
    (hadmissible : s.Admissible (.enqueue id)) :
    ∃ s' cells', s.step clock (.enqueue id) = some s' ∧ s'.Inv clock cells' ∧
      s.StepLaw clock (.enqueue id) s' := by
  have hfresh : id ∉ cells.map cellId := by
    have hqueued : id ∉ s.queue.queued.map CurlRequestData.id := hadmissible
    rw [h.queued_eq, List.map_map] at hqueued
    exact hqueued
  obtain ⟨queue, node, henqueue, hrep, hframe⟩ := h.rep.enqueue h.running (clock s.reads) hfresh
  have hqueued : queue.queued = ⟨id, clock s.reads⟩ :: s.queue.queued := by
    rw [hrep.queued_eq, h.queued_eq]
    rfl
  have hordered : (s.dequeued ++ queue.queued.reverse).Sublist
      (s.enqueued ++ [⟨id, clock s.reads⟩]) := by
    rw [hqueued, List.reverse_cons, ← List.append_assoc]
    exact h.ordered.append_right _
  refine ⟨{ s with
      queue := queue
      reads := s.reads + 1
      enqueued := s.enqueued ++ [⟨id, clock s.reads⟩] }, _, ?_,
    { rep := hrep
      running := hframe.shuttingDown.trans h.running
      started := ?_
      sorted := List.pairwise_cons.mpr ⟨fun older holder => ?_, h.sorted⟩
      ordered := hordered },
    { overdue := nofun
      younger := nofun
      enqueue := ?_
      dequeue := nofun
      ordered := hordered
      counted := hrep.size_eq }⟩
  · simp [step, henqueue]
  · refine List.forall_mem_cons.mpr ⟨⟨s.reads, Nat.lt_succ_self _, rfl⟩, fun cell hcell => ?_⟩
    obtain ⟨read, hread, hstart⟩ := h.started cell hcell
    exact ⟨read, Nat.lt_succ_of_lt hread, hstart⟩
  · exact h.startTime_le hclock holder
  · intro id' hid
    obtain rfl := QueueOp.enqueue.inj hid
    exact hqueued

theorem dequeue_spec (h : s.Inv clock cells) :
    ∃ s' cells', s.step clock .dequeue = some s' ∧ s'.Inv clock cells' ∧
      s.StepLaw clock .dequeue s' := by
  rcases List.eq_nil_or_concat' cells with rfl | ⟨init, cell, rfl⟩
  · have hqueued : s.queue.queued = [] := h.queued_eq
    refine ⟨s, [], by simp [step, h.rep.dequeue_nil], h,
      { overdue := nofun
        younger := nofun
        enqueue := nofun
        dequeue := fun _ => ⟨rfl, by simp [hqueued]⟩
        ordered := h.ordered
        counted := h.rep.size_eq }⟩
  · obtain ⟨queue, hdequeue, hrep, hframe⟩ := h.rep.dequeue_concat
    have hqueued : s.queue.queued = queue.queued ++ [cell.2.key] := by
      rw [h.queued_eq, hrep.queued_eq, List.map_append]
      rfl
    have hsame : s.dequeued ++ [cell.2.key] ++ queue.queued.reverse =
        s.dequeued ++ s.queue.queued.reverse := by
      rw [hqueued, List.reverse_append, List.append_assoc]
      rfl
    refine ⟨{ s with queue := queue, dequeued := s.dequeued ++ [cell.2.key] }, init,
      by simp [step, hdequeue],
      { rep := hrep
        running := hframe.shuttingDown.trans h.running
        started := fun cell hcell => h.started cell (List.mem_append_left _ hcell)
        sorted := (List.pairwise_append.mp h.sorted).1
        ordered := hsame ▸ h.ordered },
      { overdue := nofun
        younger := nofun
        enqueue := nofun
        dequeue := fun _ => ⟨hsame, by simp [hqueued]⟩
        ordered := hsame ▸ h.ordered
        counted := hrep.size_eq }⟩

theorem tick_expired (h : s.Inv clock cells) (hclock : Monotone clock)
    (hexpired : ∀ cell ∈ cells, s.queue.maxWait ≤ clock s.reads - cell.2.key.startTime) :
    ∃ s', s.step clock .tick = some s' ∧ s'.Inv clock [] ∧ s.StepLaw clock .tick s' := by
  obtain ⟨queue, hexpire, hrep, hframe⟩ := h.rep.expireFrom clock s.reads
    (n := s.queue.size.toNat + 1) (by rw [h.rep.counted]; exact Nat.lt_succ_self _) {}
  rw [expiring_of_expired hclock hexpired, List.drop_length] at hrep
  have hqueued : queue.queued = [] := hrep.queued_eq
  have hordered : (s.dequeued ++ queue.queued.reverse).Sublist s.enqueued := by
    rw [hqueued]
    exact (List.append_nil _).symm ▸ (List.sublist_append_left _ _).trans h.ordered
  refine ⟨{ s with
      queue := queue
      reads := s.reads + readings clock s.queue.maxWait s.reads cells }, ?_,
    { rep := hrep
      running := hframe.shuttingDown.trans h.running
      started := fun _ hcell => absurd hcell List.not_mem_nil
      sorted := .nil
      ordered := hordered },
    { overdue := fun _ request hrequest => absurd (hqueued ▸ hrequest) List.not_mem_nil
      younger := fun _ request hrequest _ => ?_
      enqueue := nofun
      dequeue := nofun
      ordered := hordered
      counted := hrep.size_eq }⟩
  · simp [step, removeExpiredEntries, h.running, hexpire]
  · rw [h.queued_eq] at hrequest
    obtain ⟨cell, hcell, rfl⟩ := List.mem_map.mp hrequest
    have := hexpired cell hcell
    omega

/-- Where the newest request has not expired the tick does nothing, which is right if the oldest
one has not expired either. -/
theorem tick_unexpired {cell : RequestCell} (h : s.Inv clock (cell :: cells))
    (hwait : clock s.reads - cell.2.key.startTime < s.queue.maxWait) :
    ∃ s', s.step clock .tick = some s' ∧ s'.Inv clock (cell :: cells) ∧
      (s.StepLaw clock .tick s' ↔ ∀ oldest ∈ s.queue.queued.getLast?,
        clock s.reads - oldest.startTime < s.queue.maxWait) := by
  have hexpiring : expiring clock s.queue.maxWait s.reads (cell :: cells) = 0 := if_pos hwait
  obtain ⟨queue, hexpire, hrep, hframe⟩ := h.rep.expireFrom clock s.reads
    (n := s.queue.size.toNat + 1) (by rw [h.rep.counted]; exact Nat.lt_succ_self _) {}
  rw [hexpiring, List.drop_zero] at hrep
  have hqueued : queue.queued = s.queue.queued := hrep.queued_eq.trans h.queued_eq.symm
  have hordered : (s.dequeued ++ queue.queued.reverse).Sublist s.enqueued :=
    hqueued.symm ▸ h.ordered
  refine ⟨{ s with
      queue := queue
      reads := s.reads + readings clock s.queue.maxWait s.reads (cell :: cells) }, ?_,
    { rep := hrep
      running := hframe.shuttingDown.trans h.running
      started := fun older holder => ?_
      sorted := h.sorted
      ordered := hordered }, ?_, ?_⟩
  · simp [step, removeExpiredEntries, h.running, hexpire]
  · obtain ⟨read, hread, hstart⟩ := h.started older holder
    exact ⟨read, Nat.lt_add_right _ hread, hstart⟩
  · intro hlaw oldest holdest
    have := hlaw.overdue rfl oldest (hqueued ▸ List.mem_of_mem_getLast? holdest)
    omega
  · intro holdest
    refine {
      overdue := fun _ request hrequest => ?_
      younger := fun _ request hrequest hgone => absurd (hqueued ▸ hrequest) hgone
      enqueue := fun _ h => by cases h
      dequeue := fun h => by cases h
      ordered := hordered
      counted := hrep.size_eq }
    obtain ⟨oldest, hlast, hle⟩ := h.exists_oldest (hqueued ▸ hrequest)
    have := holdest oldest hlast
    omega

theorem tick_spec (h : s.Inv clock cells) (hclock : Monotone clock) :
    ∃ s' cells', s.step clock .tick = some s' ∧ s'.Inv clock cells' ∧
      (s.StepLaw clock .tick s' ↔ s.ExpiresAtOnce clock .tick) := by
  cases cells with
  | nil =>
    obtain ⟨s', hstep, hinv, hlaw⟩ :=
      tick_expired h hclock fun cell hcell => absurd hcell List.not_mem_nil
    have hqueued : s.queue.queued = [] := h.queued_eq
    refine ⟨s', [], hstep, hinv, iff_of_true hlaw fun _ newest hnewest => ?_⟩
    rw [hqueued] at hnewest
    exact nomatch hnewest
  | cons cell cells =>
    have hhead : s.queue.queued.head? = some cell.2.key := by
      rw [h.queued_eq]
      rfl
    by_cases hwait : clock s.reads - cell.2.key.startTime < s.queue.maxWait
    · obtain ⟨s', hstep, hinv, hlaw⟩ := tick_unexpired h hwait
      refine ⟨s', cell :: cells, hstep, hinv, hlaw.trans ⟨fun holdest _ newest _ oldest hlast =>
        .inr (holdest oldest hlast), fun honce oldest hlast => ?_⟩⟩
      exact (honce rfl _ hhead oldest hlast).resolve_left (Int.not_le.mpr hwait)
    · -- what is older has expired too
      obtain ⟨s', hstep, hinv, hlaw⟩ := tick_expired h hclock <| by
        refine List.forall_mem_cons.mpr ⟨Int.not_lt.mp hwait, fun older holder => ?_⟩
        have := (List.pairwise_cons.mp h.sorted).1 older holder
        omega
      refine ⟨s', [], hstep, hinv, iff_of_true hlaw fun _ newest hnewest _ _ => .inl ?_⟩
      obtain rfl := Option.some.inj (hhead.symm.trans hnewest)
      exact Int.not_lt.mp hwait

theorem step_spec (h : s.Inv clock cells) (hclock : Monotone clock) {op : QueueOp}
    (hadmissible : s.Admissible op) :
    ∃ s' cells', s.step clock op = some s' ∧ s'.Inv clock cells' ∧
      (s.StepLaw clock op s' ↔ s.ExpiresAtOnce clock op) := by
  cases op with
  | enqueue id =>
    obtain ⟨s', cells', hstep, hinv, hlaw⟩ := enqueue_spec h hclock hadmissible
    exact ⟨s', cells', hstep, hinv, iff_of_true hlaw nofun⟩
  | dequeue =>
    obtain ⟨s', cells', hstep, hinv, hlaw⟩ := dequeue_spec h
    exact ⟨s', cells', hstep, hinv, iff_of_true hlaw nofun⟩
  | tick => exact tick_spec h hclock

variable (clock) in
/-- Every operation of a history did what it has to, and every one that may come next returns. -/
structure KeepsLaw (capacity : ℤ) (maxWait : ℤ) (trace : List QueueOp) (s : QueueHistory) :
    Prop where
  lawful : (system clock capacity maxWait).RunWhere (fun s op => s.Lawful clock op) trace s
  counted : s.queue.size = s.queue.queued.length
  returns : ∀ op, s.Admissible op → ∃ s', s.step clock op = some s'

theorem inv_step (hclock : Monotone clock) {capacity : ℤ} {maxWait : ℤ} {op : QueueOp}
    {s' : QueueHistory} (h : ∃ cells, s.Inv clock cells)
    (hstep : (system clock capacity maxWait).step s op s') : ∃ cells, s'.Inv clock cells := by
  obtain ⟨cells, hinv⟩ := h
  obtain ⟨s'', cells'', hstep', hinv', -⟩ := step_spec hinv hclock hstep.1
  obtain rfl := Option.some.inj (hstep.2.symm.trans hstep')
  exact ⟨cells'', hinv'⟩

theorem inv_of_run (hclock : Monotone clock) {capacity : ℤ} {maxWait : ℤ} {trace : List QueueOp}
    (run : (system clock capacity maxWait).Run trace s) : ∃ cells, s.Inv clock cells := by
  refine run.invariant (I := fun _ s => ∃ cells, s.Inv clock cells) ?_ ?_
  · rintro s rfl
    exact ⟨[], inv_new capacity maxWait⟩
  · intro _ s op s' h _ hstep
    exact inv_step hclock h hstep

/-- In a state of a history an operation is lawful unless it is a tick that finds an older request
expired and the newest one not. -/
theorem lawful_iff (h : s.Inv clock cells) (hclock : Monotone clock) (op : QueueOp) :
    s.Lawful clock op ↔ s.ExpiresAtOnce clock op := by
  constructor
  · intro hlawful htick
    obtain rfl := htick
    obtain ⟨s', -, hstep, -, hlaw⟩ := tick_spec h hclock
    obtain ⟨s'', hstep', hlaw'⟩ := hlawful trivial
    obtain rfl := Option.some.inj (hstep.symm.trans hstep')
    exact hlaw.mp hlaw' rfl
  · intro honce hadmissible
    obtain ⟨s', -, hstep, -, hlaw⟩ := step_spec h hclock hadmissible
    exact ⟨s', hstep, hlaw.mpr honce⟩

/-- A new queue keeps the law of its operations exactly in the histories in which every tick finds
that the newest request has expired or the oldest has not. -/
theorem queueHistory_keepsLaw_iff (clock : ℕ → ℤ) (hclock : Monotone clock) (capacity : ℤ)
    (maxWait : ℤ) (trace : List QueueOp) (s : QueueHistory) :
    KeepsLaw clock capacity maxWait trace s ↔
      (system clock capacity maxWait).RunWhere (fun s op => s.ExpiresAtOnce clock op) trace s := by
  have hsame : (system clock capacity maxWait).RunWhere (fun s op => s.Lawful clock op) trace s ↔
      (system clock capacity maxWait).RunWhere (fun s op => s.ExpiresAtOnce clock op) trace s := by
    refine LTS.runWhere_congr (I := fun s => ∃ cells, s.Inv clock cells) ?_ ?_ ?_
    · rintro s rfl
      exact ⟨[], inv_new capacity maxWait⟩
    · intro s op s' h _ hstep
      exact inv_step hclock h hstep
    · rintro s op ⟨cells, h⟩
      exact lawful_iff h hclock op
  refine ⟨fun h => hsame.mp h.lawful, fun run => ?_⟩
  obtain ⟨cells, h⟩ := inv_of_run hclock run.run
  exact {
    lawful := hsame.mpr run
    counted := h.rep.size_eq
    returns := fun op hadmissible => by
      obtain ⟨s', -, hstep, -⟩ := step_spec h hclock hadmissible
      exact ⟨s', hstep⟩ }

def lateClock : ℕ → ℤ
  | 0 => 0
  | 1 => 8
  | _ => 10

theorem monotone_lateClock : Monotone lateClock := by
  refine monotone_nat_of_le_succ fun n => ?_
  match n with
  | 0 => decide
  | 1 => decide
  | _ + 2 => exact le_rfl

/-- The older one of two requests is taken out before the tick, the other has not expired. -/
theorem lateClock_keepsLaw :
    ∃ s, KeepsLaw lateClock 4 5 [.tick, .dequeue, .enqueue 2, .enqueue 1] s ∧
      s.dequeued = [⟨1, 0⟩] ∧ s.queue.queued = [⟨2, 8⟩] := by
  have run : (system lateClock 4 5).RunWhere (fun s op => s.ExpiresAtOnce lateClock op)
      [.tick, .dequeue, .enqueue 2, .enqueue 1] _ :=
    .next (.next (.next (.next (.start rfl) (by decide) ⟨by decide, rfl⟩) (by decide)
      ⟨by decide, rfl⟩) (by decide) ⟨by decide, rfl⟩) (by decide) ⟨by decide, rfl⟩
  exact ⟨_, (queueHistory_keepsLaw_iff lateClock monotone_lateClock 4 5 _ _).mpr run, by decide,
    by decide⟩

theorem run_unique {capacity : ℤ} {maxWait : ℤ} {C : QueueHistory → QueueOp → Prop}
    {trace : List QueueOp} {s s' : QueueHistory}
    (run : (system clock capacity maxWait).Run trace s)
    (run' : (system clock capacity maxWait).RunWhere C trace s') : s = s' := by
  induction run generalizing s' with
  | start hinit =>
    cases run' with
    | start hinit' => exact hinit.trans hinit'.symm
  | next _ _ hstep ih =>
    cases run' with
    | next run' _ hstep' =>
      obtain rfl := ih run'
      exact Option.some.inj (hstep.2.symm.trans hstep'.2)

/-- Of two requests the older one has waited for ten, and stays behind the newer one. -/
theorem lateClock_overdue :
    ∃ s, (system lateClock 4 5).Run [.tick, .enqueue 2, .enqueue 1] s ∧
      ⟨1, 0⟩ ∈ s.queue.queued ∧ ¬KeepsLaw lateClock 4 5 [.tick, .enqueue 2, .enqueue 1] s := by
  have before : (system lateClock 4 5).Run [.enqueue 2, .enqueue 1] _ :=
    .next (.next (.start rfl) trivial ⟨by decide, rfl⟩) trivial ⟨by decide, rfl⟩
  refine ⟨_, .next before trivial ⟨trivial, rfl⟩, by decide, fun h => ?_⟩
  cases h.lawful with
  | next run' hlawful hstep =>
    obtain rfl := run_unique before run'
    obtain ⟨cells, hinv⟩ := inv_of_run monotone_lateClock before
    exact absurd ((lawful_iff hinv monotone_lateClock _).mp hlawful) (by decide)

end QueueHistory

end BiddingAuction

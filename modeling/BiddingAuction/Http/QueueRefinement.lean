import BiddingAuction.Http.LinkedQueue
import Mathlib.Data.List.TakeWhile

/-!
# The queue as a list

The workers are modelled with a queue that is one list and reads the clock once at a tick. The
parts of the queue, with their pointers, their counter and a clock that goes on during a tick,
do nothing that this queue does not do.
-/

namespace BiddingAuction

open Foundation

namespace LinkedCurlRequestQueue

variable {q : LinkedCurlRequestQueue} {cells : List RequestCell}

/-- While shutting down every request is answered, the oldest one first. -/
theorem Rep.drain (rep : q.Rep cells) {n : ℕ} (hn : cells.length < n) (effects : CurlEffects) :
    ∃ q', LinkedCurlRequestQueue.drain n q effects = some (q', { effects with
        invoked := effects.invoked ++ cells.reverse.map fun cell =>
          ⟨cell.2.key.id, .internalError "Shutting down."⟩ }) ∧
      q'.Rep [] ∧ Frame q q' := by
  induction n generalizing q cells effects with
  | zero => exact absurd hn (Nat.not_lt_zero _)
  | succ n ih =>
    -- the tail goes first, so the list is taken apart from its end
    rcases List.eq_nil_or_concat' cells with rfl | ⟨init, cell, rfl⟩
    · refine ⟨q, ?_, rep, .refl q⟩
      rw [LinkedCurlRequestQueue.drain, rep.dequeue_nil]
      simp
    · obtain ⟨q', hdequeue, hrep, hframe⟩ := rep.dequeue_concat
      have hlength : init.length < n := by
        rw [List.length_append, List.length_singleton] at hn
        omega
      obtain ⟨q'', hdrain, hrep', hframe'⟩ := ih hrep hlength { effects with
        invoked := effects.invoked ++ [⟨cell.2.key.id, .internalError "Shutting down."⟩] }
      refine ⟨q'', ?_, hrep', hframe.trans hframe'⟩
      rw [LinkedCurlRequestQueue.drain, hdequeue]
      simpa using hdrain

/-! ## The queue as a list -/

/-- The parts make up a queue. -/
structure Represents (q : LinkedCurlRequestQueue) (Q : CurlRequestQueue)
    (cells : List RequestCell) : Prop where
  rep : q.Rep cells
  capacity : q.capacity = Q.capacity
  maxWait : q.maxWait = Q.maxWait
  requests : Q.requests = cells.map fun cell => cell.2.key
  shuttingDown : q.shuttingDown = Q.shuttingDown
  shutdownCompleted : q.shutdownCompleted = Q.shutdownCompleted

variable {Q : CurlRequestQueue}

theorem Represents.frame {q' : LinkedCurlRequestQueue} {cells' : List RequestCell}
    {requests : List CurlRequestData} (h : q.Represents Q cells) (hframe : Frame q q')
    (rep : q'.Rep cells') (hrequests : requests = cells'.map fun cell => cell.2.key) :
    q'.Represents { Q with requests } cells' where
  rep := rep
  capacity := hframe.capacity.trans h.capacity
  maxWait := hframe.maxWait.trans h.maxWait
  requests := hrequests
  shuttingDown := hframe.shuttingDown.trans h.shuttingDown
  shutdownCompleted := hframe.shutdownCompleted.trans h.shutdownCompleted

/-- The requests on the list were put in one after the other, the newest one is the first. -/
structure Sorted (latest : ℤ) (cells : List RequestCell) : Prop where
  startTime_le : ∀ cell ∈ cells, cell.2.key.startTime ≤ latest
  sorted : cells.Pairwise fun cell older => older.2.key.startTime ≤ cell.2.key.startTime

theorem Sorted.sublist {latest latest' : ℤ} {cells' : List RequestCell} (h : Sorted latest cells)
    (hcells : cells'.Sublist cells) (hle : latest ≤ latest') : Sorted latest' cells' where
  startTime_le cell hcell := (h.startTime_le cell (hcells.subset hcell)).trans hle
  sorted := h.sorted.sublist hcells

theorem Represents.enqueue (h : q.Represents Q cells) {now : ℤ} (hsorted : Sorted now cells)
    {id : ℕ} (hfresh : id ∉ Q.requests.map CurlRequestData.id) :
    ∃ q' cells', q.enqueue id now = some (q', (Q.enqueue id now).2) ∧
      q'.Represents (Q.enqueue id now).1 cells' ∧ Sorted now cells' := by
  by_cases hshutting : Q.shuttingDown = true
  · have henqueue : Q.enqueue id now =
        (Q, { invoked := [⟨id, .internalError "Shutting down."⟩] }) := if_pos hshutting
    refine ⟨q, cells, ?_, henqueue ▸ h, hsorted⟩
    rw [henqueue]
    exact if_pos (h.shuttingDown.trans hshutting)
  · have henqueue : Q.enqueue id now = ({ Q with requests := ⟨id, now⟩ :: Q.requests }, {}) :=
      if_neg hshutting
    have hfresh' : id ∉ cells.map cellId := by
      rw [h.requests, List.map_map] at hfresh
      exact hfresh
    obtain ⟨q', node, henqueue', hrep, hframe⟩ :=
      h.rep.enqueue (h.shuttingDown.trans (Bool.eq_false_iff.mpr hshutting)) now hfresh'
    rw [henqueue]
    exact ⟨q', _, henqueue', h.frame hframe hrep (congrArg (_ :: ·) h.requests),
      List.forall_mem_cons.mpr ⟨le_rfl, hsorted.startTime_le⟩,
      List.pairwise_cons.mpr ⟨hsorted.startTime_le, hsorted.sorted⟩⟩

theorem Represents.dequeue (h : q.Represents Q cells) :
    match Q.dequeue with
    | none => q.dequeue = some none
    | some (Q', request) =>
      ∃ q' cells', q.dequeue = some (some (q', request)) ∧ q'.Represents Q' cells' ∧
        cells'.Sublist cells := by
  unfold CurlRequestQueue.dequeue
  rw [h.requests]
  rcases List.eq_nil_or_concat' cells with rfl | ⟨init, cell, rfl⟩
  · exact h.rep.dequeue_nil
  · obtain ⟨q', hdequeue, hrep, hframe⟩ := h.rep.dequeue_concat
    rw [List.map_append, List.map_singleton, List.getLast?_concat, List.dropLast_concat]
    exact ⟨q', init, hdequeue, h.frame hframe hrep rfl, List.sublist_append_left _ _⟩

/-- The clock goes on during the loop, but what it reads first decides: what is older than an
expired request has expired too. -/
theorem take_expiring {clock : ℕ → ℤ} (hclock : Monotone clock) (Q : CurlRequestQueue) (reads : ℕ)
    (hsorted : cells.Pairwise fun cell older => older.2.key.startTime ≤ cell.2.key.startTime) :
    (cells.take (expiring clock Q.maxWait reads cells)).map (fun cell => cell.2.key) =
        (cells.map fun cell => cell.2.key).takeWhile (Q.isExpired (clock reads)) ∧
      (cells.drop (expiring clock Q.maxWait reads cells)).map (fun cell => cell.2.key) =
        (cells.map fun cell => cell.2.key).dropWhile (Q.isExpired (clock reads)) := by
  cases cells with
  | nil => exact ⟨rfl, rfl⟩
  | cons cell cells =>
    by_cases hwait : clock reads - cell.2.key.startTime < Q.maxWait
    · have hunexpired : Q.isExpired (clock reads) cell.2.key = false :=
        decide_eq_false (Int.not_le.mpr hwait)
      rw [expiring, if_pos hwait, List.map_cons,
        List.takeWhile_cons_of_neg (by simp [hunexpired]),
        List.dropWhile_cons_of_neg (by simp [hunexpired])]
      exact ⟨rfl, rfl⟩
    · have hexpired : ∀ older ∈ cell :: cells,
          Q.maxWait ≤ clock reads - older.2.key.startTime := by
        refine List.forall_mem_cons.mpr ⟨Int.not_lt.mp hwait, fun older holder => ?_⟩
        have := (List.pairwise_cons.mp hsorted).1 older holder
        omega
      have hall : ∀ request ∈ (cell :: cells).map fun cell => cell.2.key,
          Q.isExpired (clock reads) request = true := by
        intro request hrequest
        obtain ⟨older, holder, rfl⟩ := List.mem_map.mp hrequest
        exact decide_eq_true (hexpired older holder)
      rw [expiring_of_expired hclock hexpired, List.takeWhile_eq_self_iff.mpr hall,
        List.dropWhile_eq_nil_iff.mpr hall, List.take_length, List.drop_length]
      exact ⟨rfl, rfl⟩

theorem Represents.removeExpiredEntries (h : q.Represents Q cells) {clock : ℕ → ℤ}
    (hclock : Monotone clock) (reads : ℕ)
    (hsorted : cells.Pairwise fun cell older => older.2.key.startTime ≤ cell.2.key.startTime) :
    ∃ q' reads' n, q.removeExpiredEntries clock reads =
        some (q', reads', (Q.removeExpiredEntries (clock reads)).2) ∧ reads ≤ reads' ∧
      q'.Represents (Q.removeExpiredEntries (clock reads)).1 (cells.drop n) := by
  have hlength : cells.length < q.size.toNat + 1 := by
    rw [h.rep.counted]
    exact Nat.lt_succ_self _
  by_cases hshutting : Q.shuttingDown = true
  · obtain ⟨q', hdrain, hrep, hframe⟩ := h.rep.drain hlength {}
    have hremove : Q.removeExpiredEntries (clock reads) =
        ({ Q with requests := [], shutdownCompleted := true },
          { invoked := Q.requests.reverse.map fun request =>
            ⟨request.id, .internalError "Shutting down."⟩ }) := if_pos hshutting
    have hrepresents := h.frame hframe hrep rfl
    rw [hremove]
    refine ⟨{ q' with shutdownCompleted := true }, reads, cells.length, ?_, le_rfl, ?_⟩
    · rw [LinkedCurlRequestQueue.removeExpiredEntries, if_pos (h.shuttingDown.trans hshutting),
        hdrain, h.requests]
      simp [List.map_reverse]
    · rw [List.drop_length]
      exact {
        rep := ⟨hrep.holds, hrep.ids_nodup, hrep.mapped, hrep.counted⟩
        capacity := hrepresents.capacity
        maxWait := hrepresents.maxWait
        requests := rfl
        shuttingDown := hrepresents.shuttingDown
        shutdownCompleted := rfl }
  · obtain ⟨htake, hdrop⟩ := take_expiring hclock Q reads hsorted
    obtain ⟨q', hexpire, hrep, hframe⟩ := h.rep.expireFrom clock reads hlength {}
    have hremove : Q.removeExpiredEntries (clock reads) = Q.removeExpired (clock reads) :=
      if_neg hshutting
    rw [h.maxWait] at hexpire hrep
    rw [hremove]
    refine ⟨q', reads + readings clock Q.maxWait reads cells, _, ?_, Nat.le_add_right _ _,
      h.frame hframe hrep ?_⟩
    · rw [LinkedCurlRequestQueue.removeExpiredEntries, h.shuttingDown, if_neg hshutting, hexpire]
      unfold CurlRequestQueue.removeExpired
      rw [h.requests, ← htake, List.map_map]
      rfl
    · rw [h.requests, hdrop]

end LinkedCurlRequestQueue

/-! ## Runs of the parts -/

/-- A call of the owner of a queue, or of its ticker. -/
inductive QueueCall where
  | enqueue (id : ℕ)
  | dequeue
  | tick
  | shutDown

/-- What a call does and returns. -/
structure QueueOutcome where
  effects : CurlEffects := {}
  request : Option CurlRequestData := none

/-- The parts of a queue, and how often the clock was read. -/
structure ClockedQueue where
  queue : LinkedCurlRequestQueue
  reads : ℕ := 0

def ClockedQueue.call (clock : ℕ → ℤ) (s : ClockedQueue) :
    QueueCall → Option (ClockedQueue × QueueOutcome)
  | .enqueue id => do
    let (queue, effects) ← s.queue.enqueue id (clock s.reads)
    return (⟨queue, if s.queue.shuttingDown then s.reads else s.reads + 1⟩, { effects })
  | .dequeue => do
    match ← s.queue.dequeue with
    | none => return (s, {})
    | some (queue, request) => return ({ s with queue }, { request })
  | .tick => do
    let (queue, reads, effects) ← s.queue.removeExpiredEntries clock s.reads
    return (⟨queue, reads⟩, { effects })
  | .shutDown => some ({ s with queue := { s.queue with shuttingDown := true } }, {})

/-- The same call of the queue that is one list, at one time. -/
def CurlRequestQueue.call (Q : CurlRequestQueue) (now : ℤ) :
    QueueCall → CurlRequestQueue × QueueOutcome
  | .enqueue id => ((Q.enqueue id now).1, { effects := (Q.enqueue id now).2 })
  | .dequeue =>
    match Q.dequeue with
    | none => (Q, {})
    | some (rest, request) => (rest, { request })
  | .tick => ((Q.removeExpiredEntries now).1, { effects := (Q.removeExpiredEntries now).2 })
  | .shutDown => ({ Q with shuttingDown := true }, {})

/-- A request that is put in belongs to the caller, so it is not in the queue. -/
def QueueCall.Admissible (queued : List CurlRequestData) : QueueCall → Prop
  | .enqueue id => id ∉ queued.map CurlRequestData.id
  | _ => True

/-- The runs of the parts; an action is a call, when it reads the clock first, and its outcome. -/
def partsSystem (clock : ℕ → ℤ) (capacity : ℕ) (maxWait : ℤ) :
    LTS ClockedQueue (QueueCall × ℤ × QueueOutcome) where
  init s := s = { queue := { capacity := capacity, maxWait := maxWait } }
  step s action s' := action.1.Admissible s.queue.queued ∧ action.2.1 = clock s.reads ∧
    s.call clock action.1 = some (s', action.2.2)

def listSystem (capacity : ℕ) (maxWait : ℤ) :
    LTS CurlRequestQueue (QueueCall × ℤ × QueueOutcome) where
  init Q := Q = { capacity := capacity, maxWait := maxWait }
  step Q action Q' := Q.call action.2.1 action.1 = (Q', action.2.2)

open LinkedCurlRequestQueue

variable {clock : ℕ → ℤ} {s : ClockedQueue} {Q : CurlRequestQueue}

/-- The parts and the list hold the same requests, the newest ones first. -/
def ClockedQueue.Matches (clock : ℕ → ℤ) (s : ClockedQueue) (Q : CurlRequestQueue) : Prop :=
  ∃ cells, s.queue.Represents Q cells ∧ Sorted (clock s.reads) cells

/-- The step lemma: a call of the parts returns, and does what the call of the list does. -/
theorem ClockedQueue.Matches.call (h : s.Matches clock Q) (hclock : Monotone clock)
    {call : QueueCall} (hadmissible : call.Admissible s.queue.queued) :
    ∃ s', s.call clock call = some (s', (Q.call (clock s.reads) call).2) ∧
      s'.Matches clock (Q.call (clock s.reads) call).1 := by
  obtain ⟨cells, h, hsorted⟩ := h
  cases call with
  | enqueue id =>
    have hfresh : id ∉ Q.requests.map CurlRequestData.id := by
      rw [h.requests, ← h.rep.queued_eq]
      exact hadmissible
    obtain ⟨q', cells', henqueue, hrep, hsorted'⟩ := h.enqueue hsorted hfresh
    have hreads : s.reads ≤ if s.queue.shuttingDown then s.reads else s.reads + 1 := by
      split <;> omega
    refine ⟨⟨q', if s.queue.shuttingDown then s.reads else s.reads + 1⟩, ?_, cells', hrep,
      hsorted'.sublist (.refl _) (hclock hreads)⟩
    simp only [ClockedQueue.call, henqueue]
    rfl
  | dequeue =>
    have hdequeue := h.dequeue
    unfold CurlRequestQueue.call ClockedQueue.call
    cases hnext : Q.dequeue with
    | none =>
      rw [hnext] at hdequeue
      exact ⟨s, by simp [hdequeue], cells, h, hsorted⟩
    | some next =>
      rw [hnext] at hdequeue
      obtain ⟨q', cells', hdequeue, hrep, hsublist⟩ := hdequeue
      exact ⟨{ s with queue := q' }, by simp [hdequeue], cells', hrep,
        hsorted.sublist hsublist le_rfl⟩
  | tick =>
    obtain ⟨q', reads', n, htick, hle, hrep⟩ :=
      h.removeExpiredEntries hclock s.reads hsorted.sorted
    refine ⟨⟨q', reads'⟩, ?_, _, hrep, hsorted.sublist (List.drop_sublist _ _) (hclock hle)⟩
    simp [ClockedQueue.call, htick, CurlRequestQueue.call]
  | shutDown =>
    have rep : Rep { s.queue with shuttingDown := true } cells :=
      ⟨h.rep.holds, h.rep.ids_nodup, h.rep.mapped, h.rep.counted⟩
    exact ⟨_, rfl, cells, { h with rep, shuttingDown := rfl }, hsorted⟩

/-- The parts simulate the list. -/
theorem partsSystem_simulated (clock : ℕ → ℤ) (hclock : Monotone clock) (capacity : ℕ)
    (maxWait : ℤ) {trace : List (QueueCall × ℤ × QueueOutcome)} {s : ClockedQueue}
    (run : (partsSystem clock capacity maxWait).Run trace s) :
    (∃ Q, (listSystem capacity maxWait).Run trace Q ∧ s.queue.queued = Q.requests ∧
      s.queue.full = Q.full ∧ s.queue.shutdownCompleted = Q.shutdownCompleted) ∧
      ∀ call : QueueCall, call.Admissible s.queue.queued → (s.call clock call).isSome = true := by
  obtain ⟨Q, run', hmatches⟩ :
      ∃ Q, (listSystem capacity maxWait).Run trace Q ∧ s.Matches clock Q := by
    refine run.simulated ?_ ?_
    · rintro s rfl
      exact ⟨_, rfl, [], ⟨new_rep capacity maxWait, rfl, rfl, rfl, rfl, rfl⟩,
        fun _ h => absurd h List.not_mem_nil, .nil⟩
    · rintro s Q ⟨call, now, outcome⟩ s' hmatches ⟨hadmissible, rfl, hcall⟩
      obtain ⟨s'', hcall', hmatches'⟩ := hmatches.call hclock hadmissible
      obtain ⟨rfl, houtcome⟩ := Prod.mk.inj (Option.some.inj (hcall.symm.trans hcall'))
      exact ⟨_, Prod.ext rfl houtcome.symm, hmatches'⟩
  refine ⟨⟨Q, run', ?_⟩, fun call hadmissible => ?_⟩
  · obtain ⟨cells, h, -⟩ := hmatches
    refine ⟨h.rep.queued_eq.trans h.requests.symm, ?_, h.shutdownCompleted⟩
    unfold LinkedCurlRequestQueue.full CurlRequestQueue.full
    rw [h.rep.counted, h.capacity, h.requests, List.length_map]
    exact decide_eq_decide.mpr Nat.cast_inj
  · obtain ⟨s', hcall, -⟩ := hmatches.call hclock hadmissible
    rw [hcall]
    rfl

/-- Two requests are answered in the order in which they came, at the first tick after shutdown. -/
theorem partsSystem_simulated_drained :
    ∃ (trace : List (QueueCall × ℤ × QueueOutcome)) (s : ClockedQueue),
      (∃ Q, (listSystem 4 5).Run trace Q ∧ s.queue.queued = Q.requests ∧
        s.queue.full = Q.full ∧ s.queue.shutdownCompleted = Q.shutdownCompleted) ∧
      (∀ call : QueueCall, call.Admissible s.queue.queued →
        (s.call QueueHistory.lateClock call).isSome = true) ∧
      trace.head? = some (.tick, 10, { effects := { invoked :=
        [⟨1, .internalError "Shutting down."⟩, ⟨2, .internalError "Shutting down."⟩] } }) := by
  have run : (partsSystem QueueHistory.lateClock 4 5).Run
      [(.tick, 10, _), (.shutDown, 10, _), (.enqueue 2, 8, _), (.enqueue 1, 0, _)] _ :=
    .next (.next (.next (.next (.start rfl) trivial ⟨List.not_mem_nil, rfl, rfl⟩) trivial
      ⟨(by decide : 2 ∉ [1]), rfl, rfl⟩) trivial ⟨trivial, rfl, rfl⟩) trivial ⟨trivial, rfl, rfl⟩
  obtain ⟨hlist, hreturns⟩ :=
    partsSystem_simulated QueueHistory.lateClock QueueHistory.monotone_lateClock 4 5 run
  exact ⟨_, _, hlist, hreturns, rfl⟩

end BiddingAuction

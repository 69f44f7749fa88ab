import BiddingAuction.Bidding.ByobReactor
import BiddingAuction.Foundation.Runs

/-!
# A call of `GenerateBidsBinaryReactor`, step by step

The executions of the interest groups are dispatched one after another, and each may fail
to be. Those that were dispatched call back in any order, also before the last one is
dispatched. Without batching the task tracker counts the callbacks; with it a thread of the
executor dispatches the batch, waits until its counter is zero, cancelling what is left when
the time is over, and hands the responses on.

An execution that is dispatched is assumed to call back once, cancelled or not, and one that
is not dispatched never to.
-/

namespace BiddingAuction

open Foundation

namespace Byob

structure BinaryCall (F : Type) where
  setup : Setup F
  /-- The names of the interest groups for bidding. -/
  igNames : List String
  /-- `IsCancelled`, as `Execute` is entered. -/
  isCancelledAtStart : Bool := false
  /-- `batch_start_timeout_`, in milliseconds. -/
  batchStartTimeout : Option ℕ := none

namespace BinaryCall

/-! ## States -/

inductive Phase where
  | notStarted
  /-- `ExecuteManyWithSharedTimeouts` is called. -/
  | requestingBatch
  /-- The executor has the batch. -/
  | queued
  /-- In the loop over the interest groups, before this one is dispatched. -/
  | dispatching (igIndex : ℕ)
  /-- The loop is left. -/
  | awaiting
  /-- The executions of the batch that are under way were cancelled. -/
  | cancelled
  /-- `ExecuteManyWithSharedTimeoutsImpl` returned. -/
  | returned
  /-- The responses of the batch were processed. -/
  | finished
  /-- The call was cancelled at the start, or the batch was not taken. -/
  | ended
deriving DecidableEq, Repr

inductive Task where
  | waiting
  | running
  /-- The binary called back, without batching with this status of its task. -/
  | answered (taskStatus : Option TaskStatus)
  | counted
deriving DecidableEq, Repr

/-- An execution, and what was written into its slot of `responses`, latest first. -/
structure Slot (F : Type) where
  task : Task := .waiting
  writes : List (UdfResponse F) := []

/-- What is left in the slot; a slot of a new vector holds an unknown error. -/
def Slot.response {F : Type} (slot : Slot F) : UdfResponse F :=
  slot.writes.head?.getD (.error .unknown)

structure State (F : Type) where
  phase : Phase := .notStarted
  slots : List (Slot F)
  reactor : Reactor F := {}
  asyncTaskTracker : AsyncTaskTracker
  /-- `count`, of `ExecuteManyWithSharedTimeoutsImpl`. -/
  count : ℤ := 0
  /-- What `Finish` was called with. -/
  finished : List (GrpcStatusCode × String) := []

/-! ## Steps -/

inductive Action (F : Type) where
  | execute
  /-- `ExecuteManyWithSharedTimeouts` takes the batch, or there are too many. -/
  | request (accepted : Bool)
  /-- The executor runs the batch. -/
  | run
  /-- The execution of the next interest group is dispatched, or fails to be. -/
  | dispatch (executionToken : Except GrpcStatusCode Unit)
  | answer (igIndex : ℕ) (response : UdfResponse F)
  /-- The callback of an execution is counted. -/
  | complete (igIndex : ℕ)
  /-- `AwaitOrCancelAllCallbacks` returns. -/
  | awaited
  | timeout
  /-- The callback of the batch. -/
  | callback

section Steps

variable {F : Type} (c : BinaryCall F) (s : State F)

def start : State F where
  slots := c.igNames.map fun _ => {}
  asyncTaskTracker := .setNumTasksToTrack c.igNames.length

def isBatch : Bool := c.batchStartTimeout.isSome

def State.finish (finish : Finish F) : State F :=
  { s with finished := s.finished ++ finish.statuses }

def State.setSlot (igIndex : ℕ) (slot : Slot F) : State F :=
  { s with slots := s.slots.set igIndex slot }

def taskCompleted (taskStatus : TaskStatus) : State F :=
  let completed := s.asyncTaskTracker.taskCompleted taskStatus
  let s := { s with asyncTaskTracker := completed.1 }
  match completed.2 with
  | none => s
  | some anySuccessfulBid => s.finish (c.setup.onAllBidsDone s.reactor anySuccessfulBid)

def loopAt (igIndex : ℕ) : Phase :=
  if igIndex < c.igNames.length then .dispatching igIndex else .awaiting

/-- `Execute`, with `DispatchExecutions` up to its loop. -/
def execute : State F :=
  if c.setup.enableCancellation && c.isCancelledAtStart then
    { s with phase := .ended }.finish
      (c.setup.encryptResponseAndFinish (.cancelled, kRequestCancelled) [])
  else if c.isBatch then { s with phase := .requestingBatch }
  else
    { s with
      phase := c.loopAt 0
      asyncTaskTracker := .setNumTasksToTrack c.igNames.length
      reactor :=
        { udfStats := { total := c.igNames.length }
          adsWithBidsByIg := List.replicate c.igNames.length [] } }

/-- `DispatchExecutionsInBatch`, with what the client returns. -/
def request (accepted : Bool) : State F :=
  if accepted then { s with phase := .queued }
  else { s with phase := .ended }.finish (c.setup.finishBatch [] (.error .resourceExhausted))

/-- `ExecuteManyWithSharedTimeoutsImpl` up to its loop. -/
def run : State F := { s with phase := c.loopAt 0, count := c.igNames.length }

/-- The slots from an index on are written with the same status, and counted as one. -/
def abandon (igIndex : ℕ) (code : GrpcStatusCode) : State F :=
  { s with
    phase := .awaiting
    slots := s.slots.take igIndex ++ (s.slots.drop igIndex).map fun slot =>
      { task := .counted, writes := .error code :: slot.writes }
    count := s.count - (c.igNames.length - igIndex) }

/-- One turn of the loop, in `DispatchExecutions` or in `ExecuteManyWithSharedTimeoutsImpl`. -/
def dispatch (igIndex : ℕ) (slot : Slot F) : Except GrpcStatusCode Unit → State F
  | .ok () =>
    { s with phase := c.loopAt (igIndex + 1) }.setSlot igIndex { slot with task := .running }
  | .error code =>
    match c.batchStartTimeout with
    | none =>
      -- no callback comes, so the task is completed here
      c.taskCompleted ({ s with phase := c.loopAt (igIndex + 1) }.setSlot igIndex
        { slot with task := .counted }) .error
    | some 0 =>
      -- with no time given to start, the others are dispatched all the same
      { s with phase := c.loopAt (igIndex + 1), count := s.count - 1 }.setSlot igIndex
        { task := .counted, writes := .error code :: slot.writes }
    | some _ => c.abandon s igIndex code

def answer (igIndex : ℕ) (slot : Slot F) (igName : String) (response : UdfResponse F) : State F :=
  if c.isBatch then
    s.setSlot igIndex { task := .answered none, writes := response :: slot.writes }
  else
    let processed := c.setup.processResponse s.reactor response igName igIndex
    { s with reactor := processed.1 }.setSlot igIndex
      { slot with task := .answered (some processed.2) }

def complete (igIndex : ℕ) (slot : Slot F) : Option TaskStatus → State F
  | none => { s with count := s.count - 1 }.setSlot igIndex { slot with task := .counted }
  | some taskStatus =>
    c.taskCompleted (s.setSlot igIndex { slot with task := .counted }) taskStatus

/-- The responses of the batch, with the names of their interest groups. -/
def answers : List (Answer F) :=
  List.zipWith Answer.mk c.igNames (s.slots.map Slot.response)

/-- The callback of `DispatchExecutionsInBatch`. -/
def callback : State F :=
  { s with phase := .finished }.finish (c.setup.finishBatch (c.answers s) (.ok ()))

def step : Action F → Option (State F)
  | .execute => if s.phase = .notStarted then some (c.execute s) else none
  | .request accepted => if s.phase = .requestingBatch then some (c.request s accepted) else none
  | .run => if s.phase = .queued then some (c.run s) else none
  | .dispatch executionToken =>
    match s.phase with
    | .dispatching igIndex =>
      s.slots[igIndex]?.map fun slot => c.dispatch s igIndex slot executionToken
    | _ => none
  | .answer igIndex response =>
    match s.slots[igIndex]?, c.igNames[igIndex]? with
    | some slot, some igName =>
      if slot.task = .running then some (c.answer s igIndex slot igName response) else none
    | _, _ => none
  | .complete igIndex =>
    match s.slots[igIndex]? with
    | some slot =>
      match slot.task with
      | .answered taskStatus => some (c.complete s igIndex slot taskStatus)
      | _ => none
    | none => none
  | .awaited =>
    if c.isBatch ∧ (s.phase = .awaiting ∨ s.phase = .cancelled) ∧ s.count = 0 then
      some { s with phase := .returned }
    else none
  | .timeout =>
    if c.isBatch ∧ s.phase = .awaiting ∧ s.count ≠ 0 then some { s with phase := .cancelled }
    else none
  | .callback => if s.phase = .returned then some (c.callback s) else none

def system : LTS (State F) (Action F) := .ofStep (· = c.start) c.step

end Steps

end BinaryCall

end Byob

end BiddingAuction

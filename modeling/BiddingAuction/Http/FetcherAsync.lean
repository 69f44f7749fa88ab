import BiddingAuction.Foundation.Runs
import BiddingAuction.Http.FetchUrls

/-!
# `MultiCurlHttpFetcherAsync`

A request is handed from one owner to the next: a queue, the worker thread that took
it off the queue, an event of the worker's event loop, the map of the transfers under
way, and a closure given to the executor, which at last invokes its callback. Each
queue has one worker, and the pairs do not touch each other. The destructor stops the
workers first and the queues after them. What the queues still hold is answered then;
what a worker's event loop still holds is dropped with it.
-/

namespace BiddingAuction

open Foundation

/-- A request in a queue, and `start_time`. -/
structure CurlRequestData where
  id : ℕ
  startTime : ℤ
deriving DecidableEq, Repr

/-- What a step does to the requests it lets go of: closures are given to the
executor, callbacks invoked on the spot, requests dropped with their callback. -/
structure CurlEffects where
  scheduled : List DoneCall := []
  invoked : List DoneCall := []
  dropped : List ℕ := []

namespace CurlEffects

def ids (effects : CurlEffects) : List ℕ :=
  effects.scheduled.map DoneCall.id ++ effects.invoked.map DoneCall.id ++ effects.dropped

end CurlEffects

/-! ## The queue -/

/-- `CurlRequestQueue`; `requests` is `dll_` from its head, and as long as `size_`. -/
structure CurlRequestQueue where
  capacity : ℕ
  maxWait : ℤ
  requests : List CurlRequestData := []
  shuttingDown : Bool := false
  shutdownCompleted : Bool := false
deriving DecidableEq, Repr

namespace CurlRequestQueue

variable (q : CurlRequestQueue)

def full : Bool := q.requests.length = q.capacity

def enqueue (id : ℕ) (now : ℤ) : CurlRequestQueue × CurlEffects :=
  if q.shuttingDown then (q, { invoked := [⟨id, .internalError "Shutting down."⟩] })
  else ({ q with requests := ⟨id, now⟩ :: q.requests }, {})

/-- `Dequeue`: the request at the tail. -/
def dequeue : Option (CurlRequestQueue × CurlRequestData) :=
  match q.requests.getLast? with
  | none => none
  | some request => some ({ q with requests := q.requests.dropLast }, request)

/-- The request waited for `max_wait_`. -/
def isExpired (now : ℤ) (request : CurlRequestData) : Bool :=
  q.maxWait ≤ now - request.startTime

/-- `RemoveExpiredEntries` of a queue that is not shutting down: from the head, up to
the first request that has not expired. -/
def removeExpired (now : ℤ) : CurlRequestQueue × CurlEffects :=
  ({ q with requests := q.requests.dropWhile (q.isExpired now) },
    { scheduled := (q.requests.takeWhile (q.isExpired now)).map fun request =>
        ⟨request.id, .internalError "Request timed out waiting in the queue"⟩ })

/-- `RemoveExpiredEntries`, the callback of the ticker. -/
def removeExpiredEntries (now : ℤ) : CurlRequestQueue × CurlEffects :=
  if q.shuttingDown then
    ({ q with requests := [], shutdownCompleted := true },
      { invoked := q.requests.reverse.map fun request =>
          ⟨request.id, .internalError "Shutting down."⟩ })
  else
    q.removeExpired now

end CurlRequestQueue

/-! ## The event loop of a worker -/

/-- How far a transfer is that `OnProcessingStarted` took to be added. -/
inductive TransferPhase where
  /-- libcurl did not take the handle. -/
  | refused
  | running
  /-- A message waits to be read. -/
  | done (msg : CURLMsg)
deriving DecidableEq, Repr

namespace TransferPhase

def isDone : TransferPhase → Bool
  | .done _ => true
  | _ => false

end TransferPhase

/-- An entry of `easy_curl_request_data_`. -/
structure CurlTransfer where
  id : ℕ
  phase : TransferPhase
deriving DecidableEq, Repr

namespace CurlTransfer

/-- The callback that `PerformCurlUpdate` schedules for a transfer. -/
def doneCall? (lib : LibCurl) (t : CurlTransfer) : Option DoneCall :=
  match t.phase with
  | .done msg => some ⟨t.id, lib.getResultFromMsg msg⟩
  | _ => none

end CurlTransfer

/-- `MultiCurlRequestManager`: the requests in arguments of events that have not run,
and those in the map. -/
structure MultiCurlRequestManager where
  events : List ℕ := []
  easyCurlRequestData : List CurlTransfer := []
  shutdownComplete : Bool := false
deriving DecidableEq, Repr

namespace MultiCurlRequestManager

variable (m : MultiCurlRequestManager) (lib : LibCurl)

def startProcessing (id : ℕ) : MultiCurlRequestManager := { m with events := m.events ++ [id] }

/-- `OnProcessingStarted`, the callback of the `k`-th event. -/
def onProcessingStarted (k : ℕ) (mc : CURLMcode) :
    Option (MultiCurlRequestManager × CurlEffects) :=
  match m.events[k]? with
  | none => none
  | some id =>
    let m := { m with events := m.events.eraseIdx k }
    if mc.isTakenAsAdded then
      let phase := if mc.isAdded then .running else .refused
      some ({ m with easyCurlRequestData := m.easyCurlRequestData ++ [⟨id, phase⟩] }, {})
    else
      some (m, { scheduled := [⟨id, lib.addError mc⟩] })

/-- libcurl is done with the `k`-th transfer. -/
def transferDone (k : ℕ) (msg : CURLMsg) : Option MultiCurlRequestManager :=
  match m.easyCurlRequestData[k]? with
  | some ⟨id, .running⟩ =>
    some { m with easyCurlRequestData := m.easyCurlRequestData.set k ⟨id, .done msg⟩ }
  | _ => none

def performCurlUpdate : MultiCurlRequestManager × CurlEffects :=
  ({ m with easyCurlRequestData := m.easyCurlRequestData.filter fun t => !t.phase.isDone },
    { scheduled := m.easyCurlRequestData.filterMap (CurlTransfer.doneCall? lib) })

/-- `ShutdownEventLoop` and the rest of the destructor. The events that have not run
never will, their arguments leak, and the map is destroyed with what it holds. -/
def shutdownEventLoop : MultiCurlRequestManager × CurlEffects :=
  let updated := m.performCurlUpdate lib
  ({ events := [], easyCurlRequestData := [], shutdownComplete := true },
    { updated.2 with
      dropped := updated.1.events ++ updated.1.easyCurlRequestData.map CurlTransfer.id })

end MultiCurlRequestManager

/-! ## A worker and its queue -/

/-- `CurlRequestWorker` with the queue it takes its requests from; `request` is the
local variable of `ProcessRequests`. -/
structure CurlRequestWorker where
  queue : CurlRequestQueue
  request : Option ℕ := none
  manager : MultiCurlRequestManager := {}
  shutdownRequested : Bool := false
  shutdownComplete : Bool := false
deriving DecidableEq, Repr

inductive WorkerEvent where
  /-- The worker thread finds a request in the queue. -/
  | dequeue
  /-- The worker thread hands it to the event loop. -/
  | startProcessing
  /-- The worker thread finds `shutdown_requested_`. -/
  | leaveLoop
  | onProcessingStarted (k : ℕ) (mc : CURLMcode)
  | transferDone (k : ℕ) (msg : CURLMsg)
  | performCurlUpdate
  /-- The ticker of the queue. -/
  | removeExpiredEntries (now : ℤ)
  /-- The destructor of the worker begins. -/
  | requestShutdown
  | shutdownEventLoop
  /-- The destructor of the queue begins. -/
  | shutDownQueue
deriving DecidableEq, Repr

namespace CurlRequestWorker

variable (w : CurlRequestWorker) (lib : LibCurl)

/-- `ScheduleAsyncCurlRequest`, once the queue is chosen. -/
def schedule (id : ℕ) (now : ℤ) : CurlRequestWorker × CurlEffects :=
  if w.queue.full then
    (w, { invoked := [⟨id, .resourceExhaustedError "Request Queue Limit Exceeded."⟩] })
  else
    let enqueued := w.queue.enqueue id now
    ({ w with queue := enqueued.1 }, enqueued.2)

/-- One step of a worker; `none` for what cannot happen now. -/
def step : WorkerEvent → Option (CurlRequestWorker × CurlEffects)
  | .dequeue =>
    if w.shutdownRequested || w.shutdownComplete || w.request.isSome then none
    else
      match w.queue.dequeue with
      | none => none
      | some (queue, request) => some ({ w with queue, request := some request.id }, {})
  | .startProcessing =>
    match w.request with
    | none => none
    | some id => some ({ w with request := none, manager := w.manager.startProcessing id }, {})
  | .leaveLoop =>
    if !w.shutdownRequested || w.shutdownComplete || w.request.isSome then none
    else some ({ w with shutdownComplete := true }, {})
  | .onProcessingStarted k mc =>
    if w.manager.shutdownComplete then none
    else
      match w.manager.onProcessingStarted lib k mc with
      | none => none
      | some (manager, effects) => some ({ w with manager }, effects)
  | .transferDone k msg =>
    if w.manager.shutdownComplete then none
    else
      match w.manager.transferDone k msg with
      | none => none
      | some manager => some ({ w with manager }, {})
  | .performCurlUpdate =>
    if w.manager.shutdownComplete then none
    else
      let updated := w.manager.performCurlUpdate lib
      some ({ w with manager := updated.1 }, updated.2)
  | .removeExpiredEntries now =>
    if w.queue.shutdownCompleted then none
    else
      let removed := w.queue.removeExpiredEntries now
      some ({ w with queue := removed.1 }, removed.2)
  | .requestShutdown =>
    if w.shutdownRequested then none else some ({ w with shutdownRequested := true }, {})
  | .shutdownEventLoop =>
    if !w.shutdownComplete || w.manager.shutdownComplete then none
    else
      let shutDown := w.manager.shutdownEventLoop lib
      some ({ w with manager := shutDown.1 }, shutDown.2)
  | .shutDownQueue =>
    if !w.manager.shutdownComplete || w.queue.shuttingDown then none
    else some ({ w with queue := { w.queue with shuttingDown := true } }, {})

end CurlRequestWorker

/-! ## The fetcher -/

/-- `MultiCurlHttpFetcherAsync`, the closures the executor has not run, and the
callbacks that were invoked or dropped. Requests are numbered as they come. -/
structure FetcherAsync where
  workers : List CurlRequestWorker
  submitted : ℕ := 0
  closures : List DoneCall := []
  invoked : List DoneCall := []
  dropped : List ℕ := []
  destructing : Bool := false
deriving DecidableEq, Repr

namespace FetcherAsync

inductive Event where
  /-- A request is scheduled on the `i`-th queue. -/
  | schedule (i : ℕ) (now : ℤ)
  | worker (i : ℕ) (event : WorkerEvent)
  /-- The executor runs the `k`-th closure. -/
  | runClosure (k : ℕ)
  /-- The destructor begins. -/
  | destruct
deriving DecidableEq, Repr

def new (numCurlWorkers curlQueueLength : ℕ) (curlMaxWaitTime : ℤ) : FetcherAsync where
  workers := List.replicate numCurlWorkers
    { queue := { capacity := curlQueueLength, maxWait := curlMaxWaitTime } }

variable (s : FetcherAsync) (lib : LibCurl)

/-- The destructor destroys the workers, and the queues when no worker is left. -/
def mayRun : WorkerEvent → Bool
  | .requestShutdown => s.destructing
  | .shutDownQueue => s.workers.all fun w => w.manager.shutdownComplete
  | _ => true

/-- The `i`-th worker becomes `w`. -/
def update (i : ℕ) (w : CurlRequestWorker) (effects : CurlEffects) : FetcherAsync :=
  { s with
    workers := s.workers.set i w
    closures := s.closures ++ effects.scheduled
    invoked := s.invoked ++ effects.invoked
    dropped := s.dropped ++ effects.dropped }

/-- One step; `none` for what cannot happen now. -/
def step : Event → Option FetcherAsync
  | .schedule i now =>
    match s.workers[i]? with
    | none => none
    | some w =>
      let scheduled := w.schedule s.submitted now
      some { s.update i scheduled.1 scheduled.2 with submitted := s.submitted + 1 }
  | .worker i event =>
    match s.workers[i]? with
    | none => none
    | some w =>
      if !s.mayRun event then none
      else
        match w.step lib event with
        | none => none
        | some (w, effects) => some (s.update i w effects)
  | .runClosure k =>
    match s.closures[k]? with
    | none => none
    | some call =>
      some { s with closures := s.closures.eraseIdx k, invoked := s.invoked ++ [call] }
  | .destruct => if s.destructing then none else some { s with destructing := true }

/-- The runs of a fetcher, of any number of workers with queues of any capacity. -/
def system : LTS FetcherAsync Event :=
  LTS.ofStep
    (fun s => ∃ numCurlWorkers curlQueueLength curlMaxWaitTime,
      s = new numCurlWorkers curlQueueLength curlMaxWaitTime)
    (fun s event => s.step lib event)

def calls (id : ℕ) : ℕ := callsOf s.invoked id

/-- What has become of the `FetchUrls` whose requests got the numbers `requests`. -/
def fetchUrls (requests : List ℕ) : FetchUrlsLifetime := .after s.invoked requests

/-- The destructor is done, and the executor with what it was given. -/
def IsSettled : Prop :=
  (∀ w ∈ s.workers, w.queue.shutdownCompleted = true) ∧ s.closures = []

end FetcherAsync

end BiddingAuction

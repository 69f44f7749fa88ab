import BiddingAuction.Foundation.Runs
import BiddingAuction.Http.FetchUrls

/-!
# `MultiCurlHttpFetcherAsyncNoQueue`

The calling thread adds a transfer to libcurl itself, then puts its handle into a set,
then gives up the data of the request: three steps, with the event loop running
beside them. The event loop takes a finished transfer out of libcurl, erases its handle
from the set and gives the data to the executor. The destructor waits for the event
loop to stop and answers what is in the set.
-/

namespace BiddingAuction

open Foundation

namespace NoQueue

/-- How far the thread is that called `ExecuteCurlRequest`. -/
inductive CallerPhase where
  /-- It found no shutdown. -/
  | checked
  /-- libcurl has the handle, the set has not. -/
  | added
  /-- The set has the handle; the data is to be released. -/
  | recorded
  | returned
deriving DecidableEq, Repr

namespace CallerPhase

def isOut : CallerPhase → Bool
  | .recorded | .returned => true
  | _ => false

end CallerPhase

inductive HandlePhase where
  | fresh
  /-- libcurl did not take it, but was taken to have it. -/
  | refused
  | running
  | done (msg : CURLMsg)
  /-- The event loop has read its message. -/
  | read (result : HTTPResult)
  /-- And removed it from the multi handle. -/
  | removed (result : HTTPResult)
  /-- And erased it from the set. -/
  | erased (result : HTTPResult)
  /-- The executor has the data. -/
  | scheduled (result : HTTPResult)
  | ended
deriving DecidableEq, Repr

namespace HandlePhase

def isListed : HandlePhase → Bool
  | .running | .done _ | .read _ | .removed _ => true
  | _ => false

/-- The event loop is in the middle of `PerformCurlUpdate` with it. -/
def isInLoop : HandlePhase → Bool
  | .read _ | .removed _ | .erased _ => true
  | _ => false

def isHandedOn : HandlePhase → Bool
  | .scheduled _ | .ended => true
  | _ => false

def isScheduled : HandlePhase → Bool
  | .scheduled _ => true
  | _ => false

end HandlePhase

/-- A request; `releases` counts how often its data was freed. -/
structure Request where
  caller : CallerPhase
  handle : HandlePhase
  inHandleSet : Bool := false
  releases : ℕ := 0
deriving DecidableEq, Repr

inductive RequestEvent where
  /-- The caller adds the transfer. -/
  | add (mc : CURLMcode)
  /-- The caller puts the handle into the set. -/
  | record
  | release
  /-- libcurl is done with the transfer. -/
  | transferDone (msg : CURLMsg)
  | getUpdate
  | removeFromMulti
  | removeFromSet
  /-- `executor_->Run` -/
  | run
  /-- The executor runs the closure. -/
  | runClosure
deriving DecidableEq, Repr

namespace Request

/-- One step of a request, with what its callback is invoked with, if it is. -/
def step (lib : LibCurl) (r : Request) : RequestEvent → Option (Request × Option HTTPResult)
  | .add mc =>
    match r.caller with
    | .checked =>
      if mc.isTakenAsAdded then
        some ({ r with
          caller := .added
          handle := if mc.isAdded then .running else .refused }, none)
      else
        some ({ r with caller := .returned, handle := .ended, releases := r.releases + 1 },
          some (lib.addError mc))
    | _ => none
  | .record =>
    match r.caller with
    | .added => some ({ r with caller := .recorded, inHandleSet := true }, none)
    | _ => none
  | .release =>
    match r.caller with
    | .recorded => some ({ r with caller := .returned }, none)
    | _ => none
  | .transferDone msg =>
    match r.handle with
    | .running => some ({ r with handle := .done msg }, none)
    | _ => none
  | .getUpdate =>
    match r.handle with
    | .done msg => some ({ r with handle := .read (lib.getResultFromMsg msg) }, none)
    | _ => none
  | .removeFromMulti =>
    match r.handle with
    | .read result => some ({ r with handle := .removed result }, none)
    | _ => none
  | .removeFromSet =>
    match r.handle with
    | .removed result => some ({ r with handle := .erased result, inHandleSet := false }, none)
    | _ => none
  | .run =>
    match r.handle with
    | .erased result => some ({ r with handle := .scheduled result }, none)
    | _ => none
  | .runClosure =>
    match r.handle with
    | .scheduled result =>
      some ({ r with handle := .ended, releases := r.releases + 1 }, some result)
    | _ => none

/-- The destructor finds the handle in the set, or does not. A closure that has the data
too still runs after it. -/
def destroy (r : Request) : Request :=
  if r.inHandleSet then
    { r with
      handle := if r.handle.isScheduled then r.handle else .ended
      inHandleSet := false
      releases := r.releases + 1 }
  else r

/-- What the destructor invokes for the `i`-th request. -/
def cancel? (r : Request) (i : ℕ) : Option DoneCall :=
  if r.inHandleSet then
    some ⟨i, .internalError "Request cancelled due to server shutdown."⟩
  else none

end Request

/-! ## The fetcher -/

/-- The fetcher: its requests in the order they came in, and the callbacks invoked. -/
structure Fetcher where
  requests : List Request := []
  invoked : List DoneCall := []
  shutdownRequested : Bool := false
  /-- `shutdown_complete_` -/
  shutdownComplete : Bool := false
  destroyed : Bool := false
deriving DecidableEq, Repr

inductive Event where
  /-- `FetchUrl` or `PutUrl`, up to the check for shutdown. -/
  | submit
  | request (i : ℕ) (event : RequestEvent)
  /-- The destructor begins. -/
  | requestShutdown
  | shutdownEventLoop
  /-- The destructor answers what is in the set. -/
  | destroy
deriving DecidableEq, Repr

namespace Fetcher

variable (s : Fetcher) (lib : LibCurl)

/-- The event loop is in the middle of `PerformCurlUpdate`. -/
def inLoop : Bool := s.requests.any fun r => r.handle.isInLoop

def mayRun : RequestEvent → Bool
  | .add _ | .record => !s.destroyed
  | .release | .runClosure => true
  | .getUpdate => !s.shutdownComplete && !s.inLoop
  | .transferDone _ | .removeFromMulti | .removeFromSet | .run => !s.shutdownComplete

/-- The callbacks that the destructor invokes for the handles in the set. -/
def cancelled : List DoneCall :=
  s.requests.zipIdx.filterMap fun entry => entry.1.cancel? entry.2

/-- One step; `none` for what cannot happen now. -/
def step : Event → Option Fetcher
  | .submit =>
    if s.destroyed then none
    else if s.shutdownRequested then
      some { s with
        requests := s.requests ++ [{ caller := .returned, handle := .ended, releases := 1 }]
        invoked := s.invoked ++
          [⟨s.requests.length, .internalError "Client is shutting down."⟩] }
    else
      some { s with requests := s.requests ++ [{ caller := .checked, handle := .fresh }] }
  | .request i event =>
    match s.requests[i]? with
    | none => none
    | some r =>
      if !s.mayRun event then none
      else
        match r.step lib event with
        | none => none
        | some (r, result) =>
          some { s with
            requests := s.requests.set i r
            invoked := s.invoked ++ (result.map (DoneCall.mk i)).toList }
  | .requestShutdown =>
    if s.shutdownRequested then none else some { s with shutdownRequested := true }
  | .shutdownEventLoop =>
    if !s.shutdownRequested || s.shutdownComplete || s.inLoop then none
    else some { s with shutdownComplete := true }
  | .destroy =>
    if !s.shutdownComplete || s.destroyed then none
    else
      some { s with
        requests := s.requests.map Request.destroy
        invoked := s.invoked ++ s.cancelled
        destroyed := true }

def system : LTS Fetcher Event := LTS.ofStep (fun s => s = {}) (fun s event => s.step lib event)

def calls (i : ℕ) : ℕ := callsOf s.invoked i

/-- What has become of the `FetchUrls` whose requests got the numbers `requests`. -/
def fetchUrls (requests : List ℕ) : FetchUrlsLifetime := .after s.invoked requests

/-- The destructor is done, and the executor with what it was given. -/
def IsSettled : Prop :=
  s.destroyed = true ∧ ∀ r ∈ s.requests, r.handle.isScheduled = false

end Fetcher

end NoQueue

end BiddingAuction

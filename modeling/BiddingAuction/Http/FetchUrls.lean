import BiddingAuction.Foundation.Runs
import Mathlib.Data.Int.Notation
import Mathlib.Data.Nat.Notation
import Mathlib.Tactic.Common

/-!
# What libcurl reports

The codes of libcurl that the fetchers branch on, and the status that a message about
a finished transfer is turned into. The texts of libcurl are a parameter.
-/

namespace BiddingAuction

/-- What `curl_multi_add_handle` returns. -/
inductive CURLMcode where
  | callMultiPerform
  | ok
  | badHandle
  | badEasyHandle
  | outOfMemory
  | internalError
  | badSocket
  | unknownOption
  | addedAlready
  | recursiveApiCall
  | wakeupFailure
  | badFunctionArgument
  | abortedByCallback
  | unrecoverablePoll
  | last
deriving DecidableEq, Repr

namespace CURLMcode

/-- The codes after which the fetchers take the transfer to be under way. -/
def isTakenAsAdded : CURLMcode → Bool
  | .callMultiPerform | .ok | .addedAlready | .recursiveApiCall | .last => true
  | _ => false

/-- The codes after which libcurl has the handle, and will report it. -/
def isAdded : CURLMcode → Bool
  | .callMultiPerform | .ok | .addedAlready => true
  | _ => false

end CURLMcode

/-- `CURLcode`: the result of a transfer. -/
inductive CURLcode where
  | ok
  | operationTimedout
  | urlMalformat
  | other (code : ℕ)
deriving DecidableEq, Repr

/-- A `CURLMSG_DONE`, with the response code and the effective URL of its handle. -/
structure CURLMsg where
  result : CURLcode
  httpCode : ℕ := 200
  requestUrl : String := ""
deriving DecidableEq, Repr

/-- What a `done_callback` is invoked with. -/
inductive HTTPResult where
  | response
  | internalError (message : String)
  | deadlineExceededError (message : String)
  | invalidArgumentError (message : String)
  | resourceExhaustedError (message : String)
deriving DecidableEq, Repr

structure LibCurl where
  easyStrerror : CURLcode → String
  multiStrerror : CURLMcode → String

def kFailCurl := "Failed to curl]"

namespace LibCurl

variable (lib : LibCurl)

def getResultFromMsg (msg : CURLMsg) : HTTPResult :=
  match msg.result with
  | .ok =>
    if msg.httpCode ≥ 400 then
      .internalError (kFailCurl ++ " HTTP Code: " ++ toString msg.httpCode ++ "; " ++
        msg.requestUrl)
    else
      .response
  | .operationTimedout => .deadlineExceededError (lib.easyStrerror msg.result)
  | .urlMalformat => .invalidArgumentError (lib.easyStrerror msg.result)
  | .other _ => .internalError (lib.easyStrerror msg.result)

def addError (mc : CURLMcode) : HTTPResult :=
  .internalError ("Failed to invoke request via curl with error " ++ lib.multiStrerror mc)

end LibCurl

/-!
# Several requests at once

`FetchUrls` hands its requests to `FetchUrl` one by one, and counts their results. Both
fetchers share it. Here it is related to the callbacks that were invoked: that of the
whole is invoked with the last result, and only then.
-/

open Foundation

/-- An invocation of the `done_callback` of a request. -/
structure DoneCall where
  id : ℕ
  result : HTTPResult
deriving DecidableEq, Repr

def callsOf (invoked : List DoneCall) (id : ℕ) : ℕ := (invoked.map DoneCall.id).count id

@[simp] theorem callsOf_nil (id : ℕ) : callsOf [] id = 0 := rfl

theorem callsOf_cons (call : DoneCall) (rest : List DoneCall) (id : ℕ) :
    callsOf (call :: rest) id = callsOf rest id + if call.id = id then 1 else 0 := by
  simp [callsOf, List.count_cons]

theorem callsOf_append (earlier later : List DoneCall) (id : ℕ) :
    callsOf (earlier ++ later) id = callsOf earlier id + callsOf later id := by
  simp [callsOf]

/-- `FetchUrlsWithMetadataLifetime`; `allDone` is what `all_done_callback` was invoked
with, each time it was. -/
structure FetchUrlsLifetime where
  pendingResults : ℤ
  results : List (Option HTTPResult)
  allDone : List (List (Option HTTPResult)) := []
deriving DecidableEq, Repr

namespace FetchUrlsLifetime

/-- `FetchUrlsWithMetadata`, before it schedules its requests. -/
def new (numRequests : ℕ) : FetchUrlsLifetime where
  pendingResults := numRequests
  results := List.replicate numRequests none
  allDone := if numRequests = 0 then [[]] else []

/-- The callback of the `i`-th request. -/
def onDone (l : FetchUrlsLifetime) (i : ℕ) (result : HTTPResult) : FetchUrlsLifetime :=
  let results := l.results.set i (some result)
  let pendingResults := l.pendingResults - 1
  if pendingResults = 0 then
    { pendingResults, results := [], allDone := l.allDone ++ [results] }
  else
    { l with pendingResults, results }

/-- A callback was invoked: the one of the `i`-th of `requests`, or of none of them. -/
def onCall (requests : List ℕ) (l : FetchUrlsLifetime) (call : DoneCall) : FetchUrlsLifetime :=
  match requests.idxOf? call.id with
  | none => l
  | some i => l.onDone i call.result

/-- What has become of the `FetchUrls` whose requests got the numbers `requests`. -/
def after (invoked : List DoneCall) (requests : List ℕ) : FetchUrlsLifetime :=
  invoked.foldl (onCall requests) (new requests.length)

theorem onDone_pendingResults (l : FetchUrlsLifetime) (i : ℕ) (result : HTTPResult) :
    (l.onDone i result).pendingResults = l.pendingResults - 1 := by
  unfold onDone
  dsimp only
  split <;> rfl

theorem onDone_allDone (l : FetchUrlsLifetime) (i : ℕ) (result : HTTPResult) :
    (l.onDone i result).allDone.length =
      l.allDone.length + if l.pendingResults = 1 then 1 else 0 := by
  unfold onDone
  dsimp only
  split
  · rename_i hzero
    rw [if_pos (by omega)]
    exact List.length_append
  · rename_i hnot
    rw [if_neg (by omega), Nat.add_zero]

theorem foldl_onCall_allDone (requests : List ℕ) (calls : List DoneCall)
    (l : FetchUrlsLifetime) :
    (calls.foldl (onCall requests) l).allDone.length =
      l.allDone.length + if 1 ≤ l.pendingResults ∧
        l.pendingResults ≤ (calls.filter fun call => call.id ∈ requests).length then 1 else 0 := by
  induction calls generalizing l with
  | nil =>
    rw [List.foldl_nil, List.filter_nil, if_neg]
    · rfl
    · show ¬ (1 ≤ l.pendingResults ∧ l.pendingResults ≤ 0)
      omega
  | cons call rest ih =>
    rw [List.foldl_cons, ih]
    cases hindex : requests.idxOf? call.id with
    | none =>
      have hnot : call.id ∉ requests := List.idxOf?_eq_none_iff.mp hindex
      rw [List.filter_cons_of_neg (by simpa using hnot), onCall, hindex]
    | some i =>
      have hmem : call.id ∈ requests := by
        by_contra hnot
        rw [List.idxOf?_eq_none_iff.mpr hnot] at hindex
        cases hindex
      rw [List.filter_cons_of_pos (by simpa using hmem), List.length_cons,
        onCall, hindex]
      show (l.onDone i call.result).allDone.length + _ = _
      rw [onDone_pendingResults, onDone_allDone]
      push_cast
      split <;> split <;> split <;> omega

theorem filter_invoked_length {requests : List ℕ} (hnodup : requests.Nodup)
    (calls : List DoneCall) :
    (calls.filter fun call => call.id ∈ requests).length =
      total (callsOf calls) requests := by
  induction requests with
  | nil => simp
  | cons id rest ih =>
    obtain ⟨hnot, hrest⟩ := List.nodup_cons.mp hnodup
    rw [total_cons, ← ih hrest]
    clear ih
    induction calls with
    | nil => rfl
    | cons call more ih =>
      rw [callsOf_cons]
      simp only [List.filter_cons, List.mem_cons, decide_eq_true_eq] at ih ⊢
      by_cases hid : call.id = id
      · have hout : call.id ∉ rest := hid ▸ hnot
        rw [if_pos (.inl hid), if_neg hout, if_pos hid, List.length_cons]
        omega
      · rw [if_neg hid]
        simp only [hid, false_or]
        split
        · rw [List.length_cons, List.length_cons]
          omega
        · omega

theorem after_allDone (invoked : List DoneCall) {requests : List ℕ} (hnodup : requests.Nodup) :
    (after invoked requests).allDone.length =
      if requests.length ≤ total (callsOf invoked) requests then 1 else 0 := by
  rw [after, foldl_onCall_allDone, filter_invoked_length hnodup]
  cases requests with
  | nil => rfl
  | cons id rest =>
    simp only [new, List.length_cons, Nat.add_eq_zero_iff, Nat.one_ne_zero, and_false, if_false,
      List.length_nil, Nat.zero_add]
    push_cast
    split <;> split <;> omega

theorem total_le_length {requests : List ℕ} {f : ℕ → ℕ} (h : ∀ id ∈ requests, f id ≤ 1) :
    total f requests ≤ requests.length := by
  induction requests with
  | nil => exact le_rfl
  | cons id rest ih =>
    obtain ⟨hid, hrest⟩ := List.forall_mem_cons.mp h
    have := ih hrest
    rw [total_cons, List.length_cons]
    omega

theorem length_le_total_iff {requests : List ℕ} {f : ℕ → ℕ} (h : ∀ id ∈ requests, f id ≤ 1) :
    requests.length ≤ total f requests ↔ ∀ id ∈ requests, f id = 1 := by
  induction requests with
  | nil => simp
  | cons id rest ih =>
    obtain ⟨hid, hrest⟩ := List.forall_mem_cons.mp h
    have hle := total_le_length hrest
    rw [List.forall_mem_cons, ← ih hrest, total_cons, List.length_cons]
    omega

/-- Where no request is answered twice, the callback of the whole was invoked once if all
are answered, and not at all before. -/
theorem after_allDone_of_le_one {invoked : List DoneCall} {requests : List ℕ}
    (hnodup : requests.Nodup) (h : ∀ id ∈ requests, callsOf invoked id ≤ 1) :
    (after invoked requests).allDone.length =
      if ∀ id ∈ requests, callsOf invoked id = 1 then 1 else 0 := by
  rw [after_allDone invoked hnodup]
  simp only [length_le_total_iff h]

end FetchUrlsLifetime

end BiddingAuction

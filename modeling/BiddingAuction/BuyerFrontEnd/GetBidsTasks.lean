import BiddingAuction.BuyerFrontEnd.GetBidsReactor

/-!
# The tasks of `GetBids`

The handler of a task completes it, waits for one more callback, returns without either, or
finishes the call by itself. Which of these, is decided by the request, the configuration
and what the callback brings.
-/

namespace BiddingAuction

open Foundation

namespace BuyerFrontEnd

/-! ## What decides how a handler leaves -/

namespace Setup

variable (u : Setup)

def hasKeys : Bool :=
  u.buyerInputForBidding.interestGroups.any fun ig => !ig.biddingSignalsKeys.isEmpty

def hasProtectedAppSignals : Bool :=
  (u.rawRequest.protectedAppSignalsBuyerInput.bind
    SelectAd.ProtectedAppSignalsBuyerInput.protectedAppSignals).isSome

def fetchesSignals : Bool := u.config.biddingSignalsFetchMode ≠ .notFetched

/-- The request is not refused, is no chaff, and has inputs: its tasks are started. -/
def startsTasks (o : Outcome) : Bool :=
  !(u.config.enableCancellation && o.isCancelled) && u.refusal.isNone && !u.isChaff &&
    !u.isMissingInputs

def Prepared.isAborted : Prepared → Bool
  | .aborted => true
  | _ => false

end Setup

namespace Reactor

/-- A request to the second version drops its task: nothing is to be looked up. -/
def dropsAtV2 (u : Setup) : Bool := u.fetchesSignals && u.kvAsyncClient && !u.hasKeys

def givesUpAtV2 (u : Setup) : Bool := !u.fetchesSignals || !u.kvAsyncClient

/-- A response of the first version is handed on to the second one. -/
def goesOnToV2 (u : Setup) (isHybrid : Bool) (response : Except String GetBuyerValuesOutput)
    (o : Outcome) : Bool :=
  !(u.config.enableCancellation && o.isCancelled) && isHybrid &&
    match response with
    | .error _ => false
    | .ok output => !(toBiddingSignals u.rawRequest.clientType output).isHybridV1Return

namespace Event

/-- The handler returns without completing its task, waiting or finishing: no interest group
has keys for a request to the second version, the counted input is not the one that is used,
or there are no protected app signals. -/
def dropsTask (u : Setup) : Event → Bool
  | execute o => u.startsTasks o &&
      if u.getProtectedAudienceBids then u.usesKvV2 && dropsAtV2 u
      else u.countsProtectedAudience
  | getProtectedSignalsBids _ => !u.hasProtectedAppSignals
  | biddingSignals isHybrid response o => goesOnToV2 u isHybrid response o && dropsAtV2 u
  | _ => false

/-- The handler finishes the call with its task still open: there is no provider or client
for the bidding signals. -/
def givesUpTask (u : Setup) : Event → Bool
  | execute o => u.startsTasks o && u.getProtectedAudienceBids && u.fetchesSignals &&
      if u.usesKvV2 then givesUpAtV2 u else !u.biddingSignalsAsyncProvider
  | biddingSignals isHybrid response o => goesOnToV2 u isHybrid response o && givesUpAtV2 u
  | _ => false

def aborts (u : Setup) : Event → Bool
  | execute o =>
    u.startsTasks o && u.getProtectedAudienceBids && !u.fetchesSignals &&
      (u.prepare {}).isAborted
  | biddingSignals isHybrid response o =>
    !(u.config.enableCancellation && o.isCancelled) && !goesOnToV2 u isHybrid response o &&
      match response with
      | .error _ => false
      | .ok output => (u.prepare (toBiddingSignals u.rawRequest.clientType output)).isAborted
  | biddingSignalsV2 response o =>
    !(u.config.enableCancellation && o.isCancelled) &&
      match response with
      | .error _ => false
      | .ok contents =>
        match convertV2BiddingSignalsToV1 u contents with
        | .ok signals => (u.prepare signals).isAborted
        | .error failure => failure = .aborted
  | _ => false

end Event

end Reactor

/-! ## Tasks -/

inductive Task where
  | protectedAudience
  | protectedSignals
deriving DecidableEq, Repr

namespace Pending

def task? : Pending → Option Task
  | biddingSignals _ | biddingSignalsV2 | generateBids => some .protectedAudience
  | getProtectedSignalsBids | generateProtectedAppSignalsBids => some .protectedSignals
  | chaff => none

/-- How many callbacks may still come for the task, itself counted. -/
def weight : Pending → ℕ
  | biddingSignals _ => 3
  | biddingSignalsV2 | getProtectedSignalsBids => 2
  | generateBids | generateProtectedAppSignalsBids | chaff => 1

end Pending

namespace Reactor

variable {u : Setup} {o : Outcome} {r r₁ r' : Reactor}

/-- What the account of the tasks is kept of. -/
structure SameTasks (r r₁ : Reactor) : Prop where
  executed : r₁.executed = r.executed
  tracker : r₁.asyncTaskTracker = r.asyncTaskTracker
  announced : r₁.announced = r.announced
  completed : r₁.completed = r.completed
  pending : r₁.pending = r.pending
  finished : r₁.finished = r.finished
  aborted : r₁.aborted = r.aborted

theorem SameTasks.refl (r : Reactor) : SameTasks r r := ⟨rfl, rfl, rfl, rfl, rfl, rfl, rfl⟩

theorem SameTasks.trans {r₂ : Reactor} (h : SameTasks r r₁) (h' : SameTasks r₁ r₂) :
    SameTasks r r₂ :=
  ⟨h'.executed.trans h.executed, h'.tracker.trans h.tracker, h'.announced.trans h.announced,
    h'.completed.trans h.completed, h'.pending.trans h.pending, h'.finished.trans h.finished,
    h'.aborted.trans h.aborted⟩

/-- How a handler of a task leaves: it completes the task, waits for a callback of a smaller
weight, drops the task, finishes the call by itself, or the process ends. -/
inductive Left (u : Setup) (task : Task) (bound : ℕ) (r : Reactor) :
    Reactor → Bool → Bool → Bool → Prop
  | completes {r₁ : Reactor} (same : SameTasks r r₁) (o : Outcome) (status : TaskStatus) :
      Left u task bound r (r₁.taskCompleted u o status) false false false
  | awaits {r₁ : Reactor} (same : SameTasks r r₁) {p : Pending} (htask : p.task? = some task)
      (hweight : p.weight < bound) : Left u task bound r (r₁.await p) false false false
  | drops {r₁ : Reactor} (same : SameTasks r r₁) : Left u task bound r r₁ true false false
  | finishes {r₁ : Reactor} (same : SameTasks r r₁) (haudience : task = .protectedAudience)
      (status : Status) : Left u task bound r (r₁.finish .early status) false true false
  | aborts {r₁ : Reactor} (same : SameTasks r r₁) (haudience : task = .protectedAudience) :
      Left u task bound r r₁.abort false false true

section Handlers

variable {task : Task} {bound : ℕ} {drops early aborts : Bool}

theorem Left.of_same (same : SameTasks r r₁) (h : Left u task bound r₁ r' drops early aborts) :
    Left u task bound r r' drops early aborts := by
  cases h with
  | completes same' o status => exact .completes (same.trans same') o status
  | awaits same' htask hweight => exact .awaits (same.trans same') htask hweight
  | drops same' => exact .drops (same.trans same')
  | finishes same' haudience status => exact .finishes (same.trans same') haudience status
  | aborts same' haudience => exact .aborts (same.trans same') haudience

theorem left_completed {status : TaskStatus} :
    Left u task bound r (r.taskCompleted u o status) false false false :=
  .completes (.refl r) o status

theorem left_failed {message : String} :
    Left u task bound r (r.taskFailed u o message) false false false := by
  have same : SameTasks r { r with bidErrors := r.bidErrors ++ [message] } :=
    ⟨rfl, rfl, rfl, rfl, rfl, rfl, rfl⟩
  exact .completes same o .error

theorem left_executeInternal {p : Pending} (htask : p.task? = some task)
    (hweight : p.weight < bound) :
    Left u task bound r (r.executeInternal u o p) false false false := by
  unfold executeInternal
  split
  · exact .awaits (.refl r) htask hweight
  · exact left_failed

theorem left_prepareAndGenerate (hbound : 1 < bound) (signals : BiddingSignals) :
    Left u .protectedAudience bound r (r.prepareAndGenerateProtectedAudienceBid u o signals)
      false false (u.prepare signals).isAborted := by
  unfold prepareAndGenerateProtectedAudienceBid
  cases u.prepare signals with
  | aborted => exact .aborts (.refl r) rfl
  | emptyResponse => exact left_completed
  | error message => exact left_failed
  | request updateIgs request =>
    refine Left.of_same ?_ (left_executeInternal rfl hbound)
    exact ⟨rfl, rfl, rfl, rfl, rfl, rfl, rfl⟩

theorem createV2BiddingRequest_isOk (byosOutput : Option String) :
    (createV2BiddingRequest u.rawRequest u.buyerInputForBidding
      u.config.propagateBuyerSignalsToTkv byosOutput).isOk = u.hasKeys := by
  unfold createV2BiddingRequest validateInterestGroups Setup.hasKeys
  cases hgroups : u.buyerInputForBidding.interestGroups with
  | nil => rfl
  | cons ig rest =>
    rw [List.isEmpty_cons, if_neg Bool.false_ne_true]
    cases hany : (ig :: rest).any fun ig => !ig.biddingSignalsKeys.isEmpty with
    | true => rfl
    | false => rfl

theorem left_mayGetProtectedAudienceBidsV2 (hbound : 2 < bound) (byosOutput : Option String) :
    Left u .protectedAudience bound r (r.mayGetProtectedAudienceBidsV2 u o byosOutput)
      (dropsAtV2 u) (givesUpAtV2 u) false := by
  unfold mayGetProtectedAudienceBidsV2 dropsAtV2 givesUpAtV2 Setup.fetchesSignals
  by_cases hmode : u.config.biddingSignalsFetchMode = .notFetched
  · simp only [hmode, if_true, ne_eq, not_true_eq_false, decide_false, Bool.false_and,
      Bool.not_false, Bool.true_or]
    exact .finishes (.refl r) rfl _
  · simp only [hmode, if_false, ne_eq, not_false_eq_true, decide_true, Bool.true_and,
      Bool.not_true, Bool.false_or]
    cases hclient : u.kvAsyncClient with
    | false => exact .finishes (.refl r) rfl _
    | true =>
      have hok := createV2BiddingRequest_isOk (u := u) byosOutput
      simp only [Bool.not_true, Bool.true_and, Bool.false_eq_true, if_false]
      rw [← hok]
      cases createV2BiddingRequest u.rawRequest u.buyerInputForBidding
        u.config.propagateBuyerSignalsToTkv byosOutput with
      | error message => exact .drops (.refl r)
      | ok request =>
        refine Left.of_same ?_ (left_executeInternal rfl hbound)
        exact ⟨rfl, rfl, rfl, rfl, rfl, rfl, rfl⟩

theorem left_mayGetProtectedAudienceBidsV1 (hbound : 3 < bound) (isHybrid : Bool)
    (hmode : u.fetchesSignals = true) :
    Left u .protectedAudience bound r (r.mayGetProtectedAudienceBidsV1 u isHybrid)
      false (!u.biddingSignalsAsyncProvider) false := by
  unfold mayGetProtectedAudienceBidsV1
  rw [if_neg (by simpa [Setup.fetchesSignals] using hmode)]
  cases u.biddingSignalsAsyncProvider with
  | false => exact .finishes (.refl r) rfl _
  | true =>
    refine Left.awaits ?_ rfl hbound
    exact ⟨rfl, rfl, rfl, rfl, rfl, rfl, rfl⟩

theorem left_getProtectedAudienceBids (hbound : 3 < bound) :
    Left u .protectedAudience bound r (r.getProtectedAudienceBids u o)
      (u.usesKvV2 && dropsAtV2 u)
      (u.fetchesSignals && if u.usesKvV2 then givesUpAtV2 u else !u.biddingSignalsAsyncProvider)
      (!u.fetchesSignals && (u.prepare {}).isAborted) := by
  unfold getProtectedAudienceBids
  cases hfetches : u.fetchesSignals with
  | true =>
    rw [if_pos (by simpa [Setup.fetchesSignals] using hfetches)]
    cases hversion : u.usesKvV2 with
    | true => exact left_mayGetProtectedAudienceBidsV2 (by omega) none
    | false =>
      rw [if_neg Bool.false_ne_true]
      split
      · exact left_mayGetProtectedAudienceBidsV1 hbound true hfetches
      · exact left_mayGetProtectedAudienceBidsV1 hbound false hfetches
  | false =>
    rw [if_neg (by simpa [Setup.fetchesSignals] using hfetches)]
    have hkeeps : (u.usesKvV2 && dropsAtV2 u) = false := by
      simp [dropsAtV2, hfetches]
    rw [hkeeps]
    exact left_prepareAndGenerate (by omega) {}

theorem left_onBiddingSignals (isHybrid : Bool) (response : Except String GetBuyerValuesOutput) :
    Left u .protectedAudience 3 r (r.onBiddingSignals u o isHybrid response)
      (Event.dropsTask u (.biddingSignals isHybrid response o))
      (Event.givesUpTask u (.biddingSignals isHybrid response o))
      (Event.aborts u (.biddingSignals isHybrid response o)) := by
  unfold onBiddingSignals
  cases hcancelled : u.config.enableCancellation && o.isCancelled with
  | true =>
    have hgoes : goesOnToV2 u isHybrid response o = false := by simp [goesOnToV2, hcancelled]
    simp only [Event.dropsTask, Event.givesUpTask, Event.aborts, hgoes, hcancelled,
      Bool.false_and, Bool.not_true, if_true]
    exact left_completed
  | false =>
    simp only [Event.dropsTask, Event.givesUpTask, Event.aborts, hcancelled, Bool.not_false,
      Bool.true_and, Bool.false_eq_true, if_false]
    cases response with
    | error message =>
      have hgoes : goesOnToV2 u isHybrid (.error message) o = false := by simp [goesOnToV2]
      simp only [hgoes, Bool.false_and, Bool.and_false]
      exact left_failed
    | ok output =>
      have hgoes : goesOnToV2 u isHybrid (.ok output) o =
          (isHybrid && !(toBiddingSignals u.rawRequest.clientType output).isHybridV1Return) := by
        simp [goesOnToV2, hcancelled]
      simp only [hgoes]
      cases isHybrid && !(toBiddingSignals u.rawRequest.clientType output).isHybridV1Return with
      | true => exact left_mayGetProtectedAudienceBidsV2 (by decide) _
      | false => exact left_prepareAndGenerate (by decide) _

theorem left_onBiddingSignalsV2 (response : Except String (List String)) :
    Left u .protectedAudience 2 r (r.onBiddingSignalsV2 u o response) false false
      (Event.aborts u (.biddingSignalsV2 response o)) := by
  unfold onBiddingSignalsV2
  cases hcancelled : u.config.enableCancellation && o.isCancelled with
  | true =>
    simp only [Event.aborts, hcancelled, Bool.not_true, Bool.false_and, if_true]
    exact left_completed
  | false =>
    simp only [Event.aborts, hcancelled, Bool.not_false, Bool.true_and, Bool.false_eq_true,
      if_false]
    cases response with
    | error message => exact left_failed
    | ok contents =>
      dsimp only
      cases convertV2BiddingSignalsToV1 u contents with
      | ok signals => exact left_prepareAndGenerate (by decide) signals
      | error failure =>
        cases failure with
        | aborted => exact .aborts (.refl r) rfl
        | invalidArgument message => exact left_failed
        | jsonParseError => exact left_failed
        | serializationError => exact left_failed

theorem left_onGenerateBids (response : Except String GenerateBidsRawResponse) :
    Left u .protectedAudience 1 r (r.onGenerateBids u o response) false false false := by
  unfold onGenerateBids
  cases response with
  | error message => exact left_failed
  | ok response =>
    dsimp only
    split
    · refine Left.of_same ?_ left_completed
      exact ⟨rfl, rfl, rfl, rfl, rfl, rfl, rfl⟩
    · split
      · refine Left.of_same ?_ left_completed
        exact ⟨rfl, rfl, rfl, rfl, rfl, rfl, rfl⟩
      · refine Left.of_same ?_ left_completed
        exact ⟨rfl, rfl, rfl, rfl, rfl, rfl, rfl⟩

theorem left_getProtectedSignalsBids :
    Left u .protectedSignals 2 r (r.getProtectedSignalsBids u o) (!u.hasProtectedAppSignals)
      false false := by
  unfold getProtectedSignalsBids Setup.hasProtectedAppSignals
  cases u.rawRequest.protectedAppSignalsBuyerInput.bind
    SelectAd.ProtectedAppSignalsBuyerInput.protectedAppSignals with
  | none => exact .drops (.refl r)
  | some protectedAppSignals =>
    refine Left.of_same ?_ (left_executeInternal rfl (by decide))
    exact ⟨rfl, rfl, rfl, rfl, rfl, rfl, rfl⟩

theorem left_onGenerateProtectedAppSignalsBids
    (response : Except String GenerateProtectedAppSignalsBidsRawResponse) :
    Left u .protectedSignals 1 r (r.onGenerateProtectedAppSignalsBids u o response)
      false false false := by
  unfold onGenerateProtectedAppSignalsBids
  cases response with
  | error message => exact left_failed
  | ok response =>
    dsimp only
    split
    · refine Left.of_same ?_ left_completed
      exact ⟨rfl, rfl, rfl, rfl, rfl, rfl, rfl⟩
    · split
      · refine Left.of_same ?_ left_completed
        exact ⟨rfl, rfl, rfl, rfl, rfl, rfl, rfl⟩
      · refine Left.of_same ?_ left_completed
        exact ⟨rfl, rfl, rfl, rfl, rfl, rfl, rfl⟩

theorem left_handle {e : Event} {p : Pending} (he : e.callback? = some p)
    (htask : p.task? = some task) :
    Left u task p.weight r (r.handle u e) (e.dropsTask u) (e.givesUpTask u) (e.aborts u) := by
  cases e with
  | execute o => cases he
  | getProtectedSignalsBids o =>
    cases he
    cases htask
    exact left_getProtectedSignalsBids
  | biddingSignals isHybrid response o =>
    cases he
    cases htask
    exact left_onBiddingSignals isHybrid response
  | biddingSignalsV2 response o =>
    cases he
    cases htask
    exact left_onBiddingSignalsV2 response
  | generateBids response o =>
    cases he
    cases htask
    exact left_onGenerateBids response
  | generateProtectedAppSignalsBids response o =>
    cases he
    cases htask
    exact left_onGenerateProtectedAppSignalsBids response
  | chaff =>
    cases he
    cases htask

end Handlers

end Reactor

end BuyerFrontEnd

end BiddingAuction

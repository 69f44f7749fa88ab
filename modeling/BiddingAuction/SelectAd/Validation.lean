import BiddingAuction.SelectAd.CompressedConfig
import Mathlib.Data.Finset.Sort

/-!
# Validation of a `SelectAdRequest`

What `Execute` does with a request that is decrypted: the errors of the decoding are there, those
of the auction config and of the protected input are reported, and the request ends or the buyers
are asked. The errors are kept by who may see them.
-/

namespace BiddingAuction

open Foundation.Cbor

namespace SelectAd

/-! ## Errors -/

inductive ErrorVisibility where
  | clientVisible
  | adServerVisible
deriving DecidableEq, Repr

/-- `std::map<ErrorCode, std::set<std::string>>`. -/
abbrev ErrorMap := FlatHashMap Int32 (Finset String)

structure ErrorAccumulator where
  dstErrorMap : FlatHashMap ErrorVisibility ErrorMap := ∅

namespace ErrorAccumulator

variable (errorAccumulator : ErrorAccumulator)

def getErrors (errorVisibility : ErrorVisibility) : ErrorMap :=
  (errorAccumulator.dstErrorMap.lookup errorVisibility).getD ∅

def reportError (errorVisibility : ErrorVisibility) (msg : String)
    (errorCode : Int32 := kClientSide) : ErrorAccumulator where
  dstErrorMap :=
    let errorMap := errorAccumulator.getErrors errorVisibility
    errorAccumulator.dstErrorMap.insert errorVisibility
      (errorMap.insert errorCode (insert msg ((errorMap.lookup errorCode).getD ∅)))

def hasErrors : Bool := !errorAccumulator.dstErrorMap.entries.isEmpty

def getAccumulatedErrorString (errorVisibility : ErrorVisibility) : String :=
  match (errorAccumulator.getErrors errorVisibility).lookup kClientSide with
  | none => ""
  | some messages => kErrorDelimiter.intercalate messages.sort

def reportAll (errorVisibility : ErrorVisibility) (messages : List String) : ErrorAccumulator :=
  messages.foldl (fun errorAccumulator msg => errorAccumulator.reportError errorVisibility msg)
    errorAccumulator

/-- `HaveClientVisibleErrors`, `HaveAdServerVisibleErrors`. -/
def haveErrors (errorVisibility : ErrorVisibility) : Bool :=
  !(errorAccumulator.getErrors errorVisibility).entries.isEmpty

def messages (errorVisibility : ErrorVisibility) : Finset String :=
  ((errorAccumulator.getErrors errorVisibility).lookup kClientSide).getD ∅

variable {errorAccumulator : ErrorAccumulator} {v w : ErrorVisibility}

theorem getAccumulatedErrorString_eq (v : ErrorVisibility) :
    errorAccumulator.getAccumulatedErrorString v =
      kErrorDelimiter.intercalate (errorAccumulator.messages v).sort := by
  unfold getAccumulatedErrorString messages
  cases (errorAccumulator.getErrors v).lookup kClientSide with
  | none =>
    rw [Option.getD_none, Finset.sort_empty]
    rfl
  | some messages => rfl

theorem getErrors_reportError_self (msg : String) :
    (errorAccumulator.reportError v msg).getErrors v =
      (errorAccumulator.getErrors v).insert kClientSide
        (insert msg (errorAccumulator.messages v)) := by
  unfold getErrors reportError
  rw [AList.lookup_insert]
  rfl

theorem getErrors_reportError_of_ne (h : w ≠ v) (msg : String) :
    (errorAccumulator.reportError v msg).getErrors w = errorAccumulator.getErrors w := by
  unfold getErrors reportError
  rw [AList.lookup_insert_ne h]

theorem messages_reportAll (msgs : List String) :
    (errorAccumulator.reportAll v msgs).messages w =
      if w = v then errorAccumulator.messages w ∪ msgs.toFinset
      else errorAccumulator.messages w := by
  induction msgs generalizing errorAccumulator with
  | nil =>
    show errorAccumulator.messages w = _
    rw [List.toFinset_nil, Finset.union_empty, ite_self]
  | cons msg msgs ih =>
    show ((errorAccumulator.reportError v msg).reportAll v msgs).messages w = _
    rw [ih]
    unfold messages
    by_cases h : w = v
    · subst h
      rw [if_pos rfl, if_pos rfl, getErrors_reportError_self, AList.lookup_insert]
      rw [Option.getD_some, List.toFinset_cons, Finset.union_insert, Finset.insert_union]
      rfl
    · rw [if_neg h, if_neg h, getErrors_reportError_of_ne h]

theorem haveErrors_reportAll (msgs : List String) :
    (errorAccumulator.reportAll v msgs).haveErrors w =
      (errorAccumulator.haveErrors w || (decide (w = v) && !msgs.isEmpty)) := by
  induction msgs generalizing errorAccumulator with
  | nil =>
    show errorAccumulator.haveErrors w = _
    simp
  | cons msg msgs ih =>
    show ((errorAccumulator.reportError v msg).reportAll v msgs).haveErrors w = _
    rw [ih]
    unfold haveErrors
    by_cases h : w = v
    · subst h
      rw [getErrors_reportError_self]
      have hnonempty : ((errorAccumulator.getErrors w).insert kClientSide
          (insert msg (errorAccumulator.messages w))).entries.isEmpty = false := rfl
      rw [hnonempty]
      simp
    · rw [getErrors_reportError_of_ne h]
      simp [h]

theorem hasErrors_reportAll (msgs : List String) :
    (errorAccumulator.reportAll v msgs).hasErrors =
      (errorAccumulator.hasErrors || !msgs.isEmpty) := by
  induction msgs generalizing errorAccumulator with
  | nil =>
    show errorAccumulator.hasErrors = _
    simp
  | cons msg msgs ih =>
    show ((errorAccumulator.reportError v msg).reportAll v msgs).hasErrors = _
    have hnonempty : (errorAccumulator.reportError v msg).hasErrors = true := rfl
    rw [ih, hnonempty]
    simp

theorem messages_empty (v : ErrorVisibility) : messages {} v = ∅ := rfl

theorem haveErrors_empty (v : ErrorVisibility) : haveErrors {} v = false := rfl

-- a membership in the messages is not to be computed
attribute [irreducible] messages

end ErrorAccumulator

/-! ## Mandatory fields -/

def kMissingGenerationId := "Request is missing generation ID"
def kMissingPublisherName := "Request is missing publisher name"
def kMissingBuyerInputs := "Request is missing buyer inputs"
def kMissingInterestGroupsAndProtectedSignals (buyer : String) :=
  "Request is missing interest groups and protected signals for buyer: " ++ buyer
def kEmptyInterestGroupOwner := "One or more interest group owner name is empty in buyer inputs"
def kNonEmptyBuyerInputMalformed (errors : String) :=
  "BuyerInput map is present but malformed: " ++ errors

def observedErrors (buyer : String) (buyerInputForBidding : BuyerInputForBidding) : List String :=
  reportError buyer.isEmpty kEmptyInterestGroupOwner ++
  reportError (buyerInputForBidding.interestGroups.isEmpty &&
    !buyerInputForBidding.protectedAppSignals.isSome)
    (kMissingInterestGroupsAndProtectedSignals buyer)

/-- `ValidateProtectedAuctionInput`: the errors it reports. -/
def validateProtectedAuctionInput (protectedAuctionInput : ProtectedAuctionInput)
    (buyerInputs : FlatHashMap String BuyerInputForBidding) : List String :=
  reportError protectedAuctionInput.generationId.isEmpty kMissingGenerationId ++
  reportError protectedAuctionInput.publisherName.isEmpty kMissingPublisherName ++
  if buyerInputs.entries.isEmpty then [kMissingBuyerInputs]
  else
    let observed := buyerInputs.entries.map fun buyer => observedErrors buyer.1 buyer.2
    -- an input is valid if nothing is observed of it
    let isAnyBuyerInputValid := observed.any List.isEmpty
    reportError (!isAnyBuyerInputValid)
      (kNonEmptyBuyerInputMalformed
        (kErrorDelimiter.intercalate observed.flatten.toFinset.sort))

/-! ## The end of a request -/

/-- `FinishWithStatus` on the way to an answer. The encoder reports through it what it fails
with, and `OnScoreAdsDone` then fails as well; `packages` tells whether a response can be compressed
and encrypted. -/
def finishes (packages : Option EncryptionCloudPlatform → NonEncryptedResponse → Bool) :
    Answer → List Answer
  | .response recipient (.cbor encoded) =>
    encoded.reported.map (fun message => .finished ⟨kInternal, message⟩) ++
      [if encoded.result.isOk && packages recipient (.cbor encoded) then
        .response recipient (.cbor encoded)
      else .finished ⟨kInternal, kInternalServerError⟩]
  | .response recipient (.message auctionResult) =>
    [if packages recipient (.message auctionResult) then
      .response recipient (.message auctionResult)
    else .finished ⟨kInternal, kInternalServerError⟩]
  | answer => [answer]

/-- How `Execute` leaves a request. -/
inductive Exit where
  | ended (answer : Answer)
  | fetchBids

/-- What is left of a run of `Execute`. -/
structure ExecuteRun where
  errorAccumulator : ErrorAccumulator
  exits : List Exit
  getBidsRequests : List SentGetBids := []

namespace ConfiguredReactor

variable (packages : Option EncryptionCloudPlatform → NonEncryptedResponse → Bool)
  (r : ConfiguredReactor)

/-- `MayPopulateAdServerVisibleErrors`: the errors, and the priority signals if there is a value
to be moved into the member. -/
def mayPopulateAdServerVisibleErrors (errorAccumulator : ErrorAccumulator) :
    ErrorAccumulator × Option (List (String × Json)) :=
  (errorAccumulator.reportAll .adServerVisible r.adServerVisibleErrors,
    r.prioritySignalsVector.toOption)

/-- The reactor with the client-visible errors that have been reported. -/
def withErrors (errorAccumulator : ErrorAccumulator) : ConfiguredReactor :=
  { r with decrypted :=
    { r.decrypted with clientVisibleErrors := (errorAccumulator.messages .clientVisible).sort } }

/-- `OnScoreAdsDone` with an empty response, where there are errors. -/
def onErrors (errorAccumulator : ErrorAccumulator) : List Exit :=
  if errorAccumulator.haveErrors .adServerVisible then
    [.ended (.finished
      ⟨kInvalidArgument, errorAccumulator.getAccumulatedErrorString .adServerVisible⟩)]
  else
    (finishes packages ((r.withErrors errorAccumulator).onScoreAdsDone ∅ ∅ ∅ (.ok {}))).map .ended

/-- The mandatory fields are validated if decoding went through fine. -/
def validated (errorAccumulator : ErrorAccumulator) : ErrorAccumulator :=
  if errorAccumulator.haveErrors .clientVisible then errorAccumulator
  else errorAccumulator.reportAll .clientVisible
    (validateProtectedAuctionInput r.decrypted.protectedAuctionInput r.decrypted.buyerInputs)

/-- `Execute` behind `MayPopulateAdServerVisibleErrors`. -/
def executePopulated (errorAccumulator : ErrorAccumulator) : ExecuteRun :=
  if errorAccumulator.haveErrors .adServerVisible then
    ⟨errorAccumulator, r.onErrors packages errorAccumulator, []⟩
  else if (r.validated errorAccumulator).hasErrors then
    ⟨r.validated errorAccumulator, r.onErrors packages (r.validated errorAccumulator), []⟩
  else ⟨r.validated errorAccumulator, [.fetchBids], r.getBidsRequests⟩

/-- `Execute` from the decryption on; the decoding has reported its errors. -/
def executeDecrypted (decodingErrors : List String) : ExecuteRun :=
  let populated := r.mayPopulateAdServerVisibleErrors
    (ErrorAccumulator.reportAll {} .clientVisible decodingErrors)
  match populated.2 with
  | none => ⟨populated.1, [.ended .aborted], []⟩
  | some _ => r.executePopulated packages populated.1

end ConfiguredReactor

end SelectAd

end BiddingAuction

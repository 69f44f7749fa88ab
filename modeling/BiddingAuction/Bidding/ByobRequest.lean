import BiddingAuction.SelectAd.GetBidsRequest

/-!
# The requests to a bidding binary

The interest groups of a request are dispatched one after another, each with a request of
its own to the binary. There is one request object: it starts with the fields of the whole
request, and each interest group is written over the one before.
-/

namespace BiddingAuction

open SelectAd (DeviceSignals BrowserSignalsForBidding)

namespace Byob

/-! ## Messages -/

structure InterestGroupForBidding where
  name : String := ""
  trustedBiddingSignalsKeys : List String := []
  adRenderIds : List String := []
  adComponentRenderIds : List String := []
  userBiddingSignals : String := ""
  trustedBiddingSignals : String := ""
  deviceSignalsForBidding : Option (DeviceSignals BrowserSignalsForBidding) := none
deriving DecidableEq, Repr

structure ForDebuggingOnlyFlags where
  enableSampledDebugReporting : Bool := false
  inCooldownOrLockout : Bool := false
deriving DecidableEq, Repr

structure GenerateBidsRawRequest where
  interestGroupForBidding : List InterestGroupForBidding := []
  auctionSignals : String := ""
  buyerSignals : String := ""
  enableDebugReporting : Bool := false
  seller : String := ""
  publisherName : String := ""
  topLevelSeller : String := ""
  multiBidLimit : Int32 := 0
  dataVersion : UInt32 := 0
  fdoFlags : ForDebuggingOnlyFlags := {}
deriving DecidableEq, Repr

structure ProtectedAudienceInterestGroup where
  name : String := ""
  trustedBiddingSignalsKeys : List String := []
  adRenderIds : List String := []
  adComponentRenderIds : List String := []
  userBiddingSignals : String := ""
deriving DecidableEq, Repr

structure ProtectedAudienceAndroidSignals where
  topLevelSeller : String := ""
deriving DecidableEq, Repr

structure ProtectedAudienceBrowserSignals where
  topWindowHostname : String := ""
  seller : String := ""
  topLevelSeller : String := ""
  joinCount : Int64 := 0
  bidCount : Int64 := 0
  recency : Int64 := 0
  prevWins : String := ""
  multiBidLimit : Int32 := 0
  prevWinsMs : String := ""
  forDebuggingOnlyInCooldownOrLockout : Bool := false
deriving DecidableEq, Repr

/-- The `oneof` of the device signals. -/
inductive ProtectedAudienceDeviceSignals where
  | android (signals : ProtectedAudienceAndroidSignals)
  | browser (signals : ProtectedAudienceBrowserSignals)
deriving DecidableEq, Repr

structure ServerMetadata where
  debugReportingEnabled : Bool := false
  loggingEnabled : Bool := false
deriving DecidableEq, Repr

structure GenerateProtectedAudienceBidRequest where
  interestGroup : ProtectedAudienceInterestGroup := {}
  auctionSignals : String := ""
  perBuyerSignals : String := ""
  trustedBiddingSignals : String := ""
  deviceSignals : Option ProtectedAudienceDeviceSignals := none
  serverMetadata : ServerMetadata := {}
deriving DecidableEq, Repr

namespace GenerateProtectedAudienceBidRequest

def mutableAndroidSignals (request : GenerateProtectedAudienceBidRequest) :
    ProtectedAudienceAndroidSignals :=
  match request.deviceSignals with
  | some (.android signals) => signals
  | _ => {}

def mutableBrowserSignals (request : GenerateProtectedAudienceBidRequest) :
    ProtectedAudienceBrowserSignals :=
  match request.deviceSignals with
  | some (.browser signals) => signals
  | _ => {}

end GenerateProtectedAudienceBidRequest

/-! ## Writing a request -/

def buildCommonProtectedAudienceBidRequest (rawRequest : GenerateBidsRawRequest)
    (loggingEnabled debugReportingEnabled : Bool) : GenerateProtectedAudienceBidRequest where
  auctionSignals := rawRequest.auctionSignals
  perBuyerSignals := rawRequest.buyerSignals
  serverMetadata := ⟨debugReportingEnabled, loggingEnabled⟩

/-- The device signals that are written for an interest group, over those that are there. -/
def updateDeviceSignals (bidRequest : GenerateProtectedAudienceBidRequest)
    (rawRequest : GenerateBidsRawRequest) :
    Option (DeviceSignals BrowserSignalsForBidding) → Option ProtectedAudienceDeviceSignals
  | some .android =>
    some (.android
      { bidRequest.mutableAndroidSignals with topLevelSeller := rawRequest.topLevelSeller })
  | some (.browser signals) =>
    some (.browser { bidRequest.mutableBrowserSignals with
      topWindowHostname := rawRequest.publisherName
      seller := rawRequest.seller
      topLevelSeller := rawRequest.topLevelSeller
      joinCount := signals.joinCount
      bidCount := signals.bidCount
      recency := signals.recencyMs.getD (signals.recency * 1000)
      prevWins := signals.prevWins
      prevWinsMs := signals.prevWinsMs.getD ""
      multiBidLimit := rawRequest.multiBidLimit
      forDebuggingOnlyInCooldownOrLockout := rawRequest.fdoFlags.inCooldownOrLockout })
  | none => bidRequest.deviceSignals

/-- `UpdateProtectedAudienceBidRequest`, with what it leaves of the interest group: lists
are swapped with those of the request, strings are moved out. -/
def updateProtectedAudienceBidRequest (bidRequest : GenerateProtectedAudienceBidRequest)
    (rawRequest : GenerateBidsRawRequest) (igForBidding : InterestGroupForBidding) :
    GenerateProtectedAudienceBidRequest × InterestGroupForBidding :=
  ({ bidRequest with
      interestGroup := {
        name := igForBidding.name
        trustedBiddingSignalsKeys := igForBidding.trustedBiddingSignalsKeys
        adRenderIds := igForBidding.adRenderIds
        adComponentRenderIds := igForBidding.adComponentRenderIds
        userBiddingSignals := igForBidding.userBiddingSignals }
      trustedBiddingSignals := igForBidding.trustedBiddingSignals
      deviceSignals :=
        updateDeviceSignals bidRequest rawRequest igForBidding.deviceSignalsForBidding },
    { name := ""
      trustedBiddingSignalsKeys := bidRequest.interestGroup.trustedBiddingSignalsKeys
      adRenderIds := bidRequest.interestGroup.adRenderIds
      adComponentRenderIds := bidRequest.interestGroup.adComponentRenderIds
      userBiddingSignals := ""
      trustedBiddingSignals := ""
      deviceSignalsForBidding := igForBidding.deviceSignalsForBidding.map fun
        | .android => .android
        | .browser signals => .browser { signals with prevWins := "", prevWinsMs := some "" } })

/-! ## The two dispatch paths -/

section Dispatch

variable (rawRequest : GenerateBidsRawRequest)

/-- The loop of `DispatchExecutions`: the requests that are dispatched, in order. -/
def dispatchEach (bidRequest : GenerateProtectedAudienceBidRequest) :
    List InterestGroupForBidding → List GenerateProtectedAudienceBidRequest
  | [] => []
  | igForBidding :: rest =>
    let updated := (updateProtectedAudienceBidRequest bidRequest rawRequest igForBidding).1
    updated :: dispatchEach updated rest

/-- The loop of `ExecuteManyWithSharedTimeoutsImpl`, from a position on. Where the batch
waits for workers, a request that is not taken is the last one. -/
def dispatchMany (startTimeoutIsZero : Bool) (isTaken : ℕ → Bool) :
    ℕ → GenerateProtectedAudienceBidRequest → List InterestGroupForBidding →
      List GenerateProtectedAudienceBidRequest
  | _, _, [] => []
  | i, bidRequest, igForBidding :: rest =>
    let updated := (updateProtectedAudienceBidRequest bidRequest rawRequest igForBidding).1
    if isTaken i || startTimeoutIsZero then
      updated :: dispatchMany startTimeoutIsZero isTaken (i + 1) updated rest
    else [updated]

variable (loggingEnabled debugReportingEnabled : Bool)

def dispatchExecutions : List GenerateProtectedAudienceBidRequest :=
  dispatchEach rawRequest
    (buildCommonProtectedAudienceBidRequest rawRequest loggingEnabled debugReportingEnabled)
    rawRequest.interestGroupForBidding

def dispatchExecutionsInBatch (startTimeoutIsZero : Bool) (isTaken : ℕ → Bool) :
    List GenerateProtectedAudienceBidRequest :=
  dispatchMany rawRequest startTimeoutIsZero isTaken 0
    (buildCommonProtectedAudienceBidRequest rawRequest loggingEnabled debugReportingEnabled)
    rawRequest.interestGroupForBidding

end Dispatch

/-! ## What an interest group is dispatched with -/

def ownSignals (rawRequest : GenerateBidsRawRequest) (igForBidding : InterestGroupForBidding) :
    Option ProtectedAudienceDeviceSignals :=
  updateDeviceSignals {} rawRequest igForBidding.deviceSignalsForBidding

/-- What the interest groups of a list leave in the device signals of the request. -/
def residue (rawRequest : GenerateBidsRawRequest)
    (deviceSignals : Option ProtectedAudienceDeviceSignals) (igs : List InterestGroupForBidding) :
    Option ProtectedAudienceDeviceSignals :=
  igs.foldl (fun left igForBidding => (ownSignals rawRequest igForBidding).or left) deviceSignals

/-- The request of an interest group that comes after others. -/
def requestAfter (bidRequest : GenerateProtectedAudienceBidRequest)
    (rawRequest : GenerateBidsRawRequest)
    (left : Option ProtectedAudienceDeviceSignals) (igForBidding : InterestGroupForBidding) :
    GenerateProtectedAudienceBidRequest :=
  { bidRequest with
    interestGroup := {
      name := igForBidding.name
      trustedBiddingSignalsKeys := igForBidding.trustedBiddingSignalsKeys
      adRenderIds := igForBidding.adRenderIds
      adComponentRenderIds := igForBidding.adComponentRenderIds
      userBiddingSignals := igForBidding.userBiddingSignals }
    trustedBiddingSignals := igForBidding.trustedBiddingSignals
    deviceSignals := (ownSignals rawRequest igForBidding).or left }

variable {rawRequest : GenerateBidsRawRequest} {bidRequest : GenerateProtectedAudienceBidRequest}
  {igForBidding : InterestGroupForBidding} {pre post : List InterestGroupForBidding}

/-- Signals of its own are written over every field; without them those that are there
stay. -/
theorem updateProtectedAudienceBidRequest_eq :
    (updateProtectedAudienceBidRequest bidRequest rawRequest igForBidding).1 =
      requestAfter bidRequest rawRequest bidRequest.deviceSignals igForBidding := by
  unfold updateProtectedAudienceBidRequest requestAfter ownSignals
  rcases igForBidding.deviceSignalsForBidding with _ | (_ | signals) <;> rfl

theorem ownSignals_eq_none :
    ownSignals rawRequest igForBidding = none ↔ igForBidding.deviceSignalsForBidding = none := by
  unfold ownSignals
  rcases igForBidding.deviceSignalsForBidding with _ | (_ | signals)
  · exact iff_of_true rfl rfl
  · exact iff_of_false nofun nofun
  · exact iff_of_false nofun nofun

theorem getElem?_dispatchEach :
    (dispatchEach rawRequest bidRequest (pre ++ igForBidding :: post))[pre.length]? =
      some (requestAfter bidRequest rawRequest
        (residue rawRequest bidRequest.deviceSignals pre) igForBidding) := by
  induction pre generalizing bidRequest with
  | nil => exact congrArg some updateProtectedAudienceBidRequest_eq
  | cons first rest ih =>
    show (dispatchEach rawRequest _ (rest ++ igForBidding :: post))[rest.length]? = _
    rw [ih, updateProtectedAudienceBidRequest_eq]
    rfl

theorem isPrefix_dispatchMany (startTimeoutIsZero : Bool) (isTaken : ℕ → Bool) (i : ℕ)
    (igs : List InterestGroupForBidding) :
    dispatchMany rawRequest startTimeoutIsZero isTaken i bidRequest igs <+:
      dispatchEach rawRequest bidRequest igs := by
  induction igs generalizing i bidRequest with
  | nil => exact List.prefix_rfl
  | cons first rest ih =>
    unfold dispatchMany dispatchEach
    split
    · exact (List.prefix_cons_inj _).mpr (ih (i + 1))
    · exact (List.prefix_cons_inj _).mpr List.nil_prefix

/-- The interest groups of a request are exchanged for others. -/
def GenerateBidsRawRequest.withGroups (rawRequest : GenerateBidsRawRequest)
    (igs : List InterestGroupForBidding) : GenerateBidsRawRequest :=
  { rawRequest with interestGroupForBidding := igs }

/-- What is dispatched for each interest group stays the same when others are changed or
removed, in both paths and whichever requests are taken. -/
def Isolates (rawRequest : GenerateBidsRawRequest) (loggingEnabled debugReportingEnabled : Bool) :
    Prop :=
  ∀ pre igForBidding post, rawRequest.interestGroupForBidding = pre ++ igForBidding :: post →
  ∀ pre' post', pre'.length ≤ pre.length → post'.length ≤ post.length →
    (dispatchExecutions (rawRequest.withGroups (pre' ++ igForBidding :: post')) loggingEnabled
        debugReportingEnabled)[pre'.length]? =
      (dispatchExecutions rawRequest loggingEnabled debugReportingEnabled)[pre.length]? ∧
    ∀ startTimeoutIsZero isTaken isTaken' request request',
      (dispatchExecutionsInBatch rawRequest loggingEnabled debugReportingEnabled
        startTimeoutIsZero isTaken)[pre.length]? = some request →
      (dispatchExecutionsInBatch (rawRequest.withGroups (pre' ++ igForBidding :: post'))
        loggingEnabled debugReportingEnabled startTimeoutIsZero isTaken')[pre'.length]? =
          some request' →
      request' = request

theorem ownSignals_withGroups {igs : List InterestGroupForBidding} :
    ownSignals (rawRequest.withGroups igs) igForBidding = ownSignals rawRequest igForBidding := by
  unfold ownSignals
  rcases igForBidding.deviceSignalsForBidding with _ | (_ | signals) <;> rfl

theorem residue_withGroups {igs : List InterestGroupForBidding}
    {left : Option ProtectedAudienceDeviceSignals} :
    residue (rawRequest.withGroups igs) left pre = residue rawRequest left pre := by
  induction pre generalizing left with
  | nil => rfl
  | cons first rest ih =>
    show residue _ ((ownSignals (rawRequest.withGroups igs) first).or left) rest = _
    rw [ownSignals_withGroups, ih]
    rfl

section Isolates

variable {loggingEnabled debugReportingEnabled : Bool}

theorem getElem?_dispatchExecutions_withGroups :
    (dispatchExecutions (rawRequest.withGroups (pre ++ igForBidding :: post)) loggingEnabled
        debugReportingEnabled)[pre.length]? =
      some (requestAfter (buildCommonProtectedAudienceBidRequest rawRequest loggingEnabled
        debugReportingEnabled) rawRequest (residue rawRequest none pre) igForBidding) := by
  refine getElem?_dispatchEach.trans (congrArg some ?_)
  rw [residue_withGroups]
  unfold requestAfter
  rw [ownSignals_withGroups]
  rfl

theorem getElem?_dispatchExecutionsInBatch {startTimeoutIsZero : Bool} {isTaken : ℕ → Bool}
    {i : ℕ} {request : GenerateProtectedAudienceBidRequest}
    (h : (dispatchExecutionsInBatch rawRequest loggingEnabled debugReportingEnabled
      startTimeoutIsZero isTaken)[i]? = some request) :
    (dispatchExecutions rawRequest loggingEnabled debugReportingEnabled)[i]? = some request := by
  obtain ⟨hi, hrequest⟩ := List.getElem?_eq_some_iff.mp h
  have htaken := List.prefix_iff_getElem?.mp
    (isPrefix_dispatchMany startTimeoutIsZero isTaken 0 rawRequest.interestGroupForBidding) i hi
  exact htaken.trans (congrArg some hrequest)

def androidGroup : InterestGroupForBidding where
  deviceSignalsForBidding := some .android

/-- Interest groups do not leak into each other exactly if all but the first have device
signals of their own. -/
theorem isolates_iff : Isolates rawRequest loggingEnabled debugReportingEnabled ↔
    ∀ igForBidding ∈ rawRequest.interestGroupForBidding.tail,
      igForBidding.deviceSignalsForBidding ≠ none := by
  constructor
  · intro h igForBidding hmem hnone
    obtain ⟨before, post, htail⟩ := List.append_of_mem hmem
    obtain ⟨first, hgroups⟩ : ∃ first,
        rawRequest.interestGroupForBidding = (first :: before) ++ igForBidding :: post := by
      cases hgroups : rawRequest.interestGroupForBidding with
      | nil =>
        rw [hgroups] at htail
        exact absurd htail (by simp)
      | cons first rest =>
        rw [hgroups] at htail
        exact ⟨first, by rw [List.cons_append, ← htail]; rfl⟩
    have hown : ownSignals rawRequest igForBidding = none := ownSignals_eq_none.mpr hnone
    have hat : rawRequest = rawRequest.withGroups ((first :: before) ++ igForBidding :: post) := by
      rw [← hgroups]
      rfl
    have hleft (pre' : List InterestGroupForBidding) (hlength : pre'.length ≤ before.length + 1) :
        residue rawRequest none pre' = residue rawRequest none (first :: before) := by
      have hsame := (h (first :: before) igForBidding post hgroups pre' post hlength
        (Nat.le_refl _)).1
      rw [getElem?_dispatchExecutions_withGroups] at hsame
      conv at hsame => rhs; rw [hat]
      rw [getElem?_dispatchExecutions_withGroups] at hsame
      have hsignals := congrArg GenerateProtectedAudienceBidRequest.deviceSignals
        (Option.some.inj hsame)
      simpa only [requestAfter, hown, Option.none_or] using hsignals
    -- nothing is left by no group, and an Android group leaves its signals
    have hnothing := hleft [] (Nat.zero_le _)
    have handroid := hleft [androidGroup] (by simp)
    cases hnothing.trans handroid.symm
  · intro h pre igForBidding post hgroups pre' post' hpre _
    have hat : rawRequest = rawRequest.withGroups (pre ++ igForBidding :: post) := by
      rw [← hgroups]
      rfl
    have hsame : (dispatchExecutions (rawRequest.withGroups (pre' ++ igForBidding :: post'))
          loggingEnabled debugReportingEnabled)[pre'.length]? =
        (dispatchExecutions rawRequest loggingEnabled debugReportingEnabled)[pre.length]? := by
      conv => rhs; rw [hat]
      rw [getElem?_dispatchExecutions_withGroups, getElem?_dispatchExecutions_withGroups]
      cases hown : ownSignals rawRequest igForBidding with
      | some signals => simp only [requestAfter, hown, Option.some_or]
      | none =>
        -- such a group is the first one, and nothing was there before it
        have hfirst : pre = [] := by
          cases pre with
          | nil => rfl
          | cons first rest =>
            rw [hgroups] at h
            exact absurd (ownSignals_eq_none.mp hown) (h igForBidding (by simp))
        subst hfirst
        rw [List.eq_nil_of_length_eq_zero (Nat.le_zero.mp hpre)]
    refine ⟨hsame, fun startTimeoutIsZero isTaken isTaken' request request' hat hat' => ?_⟩
    have hrequest := getElem?_dispatchExecutionsInBatch hat
    have hrequest' := getElem?_dispatchExecutionsInBatch hat'
    rw [hsame] at hrequest'
    exact Option.some.inj (hrequest'.symm.trans hrequest)

/-- A group without device signals gets those of the Android group before it. -/
theorem isolates_false :
    ¬ Isolates { interestGroupForBidding := [androidGroup, { name := "b" }] } false false := by
  intro h
  have hsame := (h [androidGroup] { name := "b" } [] rfl [] [] (by decide) (by decide)).1
  exact absurd hsame (by decide)

end Isolates

end Byob

end BiddingAuction

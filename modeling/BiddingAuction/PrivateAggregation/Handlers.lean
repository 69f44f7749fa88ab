import BiddingAuction.KAnon.AuctionResultData
import BiddingAuction.Proto.GetBids

/-!
# Private aggregation after an auction

Contributions are filtered by the outcome for their bid, resolved with what the
auction came to, and taken out of the bid: what is left in its place is an empty
contribution. The handler of the ghost winners runs first, on the same bids.
-/

namespace BiddingAuction

/-! ## Resolving a contribution -/

/-- The floating-point operations of the resolution, as the machine does them. -/
structure FloatOps (F : Type) where
  zero : F
  isPositive : F → Bool
  ofInt : Int32 → F
  toInt : F → Int32
  /-- `static_cast<uint64_t>(value * scale)`. -/
  mulToUInt64 : F → F → UInt64
  /-- `static_cast<int>(value * scale)`. -/
  mulToInt : Int32 → F → Int32
  /-- What a `float` holds that was never set. -/
  uninitialized : F

def SellerRejectionReason.number : SellerRejectionReason → Int32
  | sellerRejectionReasonNotAvailable => 0
  | invalidBid => 1
  | bidBelowAuctionFloor => 2
  | pendingApprovalByExchange => 3
  | disapprovedByExchange => 4
  | blockedByPublisher => 5
  | languageExclusions => 6
  | categoryExclusions => 7
  | didNotMeetTheKAnonymityThreshold => 8
  | bidFromGenerateBidFailedCurrencyCheck => 9
  | bidFromScoreAdFailedCurrencyCheck => 10

structure BaseValues (F : Type) where
  winningBid : F
  highestScoringOtherBid : F
  rejectReason : Option SellerRejectionReason := none

def kInvalidPrivateAggregationBucketType :=
  "Invalid Private Aggregation Bucket with neither bucket_128_bit or signal_bucket."
def kPrivateAggregationBucketNegativeFinalValue :=
  "Invalid Private Aggregation Signal Bucket BaseValue * scale - offset < 0."
def kInvalidPrivateAggregationValueType :=
  "Invalid Private Aggregation Value with neither Int or Extended Value."
def kBaseValueNotSupported := "Input base value is not supported."
def kBaseValuesRejectReasonNotAvailable := "Reject reason is not available."

variable {F : Type}

/-- The number a base value stands for, taken from the floats by `ofFloat` and from
the rejection reason by `ofReason`. -/
def baseValueNumber {N : Type} (baseValues : BaseValues F) (ofFloat : F → N)
    (ofReason : Int32 → N) : BaseValue → Except String N
  | .winningBid => .ok (ofFloat baseValues.winningBid)
  | .highestScoringOtherBid => .ok (ofFloat baseValues.highestScoringOtherBid)
  | .bidRejectionReason =>
    match baseValues.rejectReason with
    | some reason => .ok (ofReason reason.number)
    | none => .error kBaseValuesRejectReasonNotAvailable
  | _ => .error kBaseValueNotSupported

/-- `MakeUint128` of the words of an offset. -/
def BucketOffset.magnitude (offset : BucketOffset) : ℕ :=
  (offset.value.getD 1 0).toNat * 2 ^ 64 + (offset.value.getD 0 0).toNat

def uint128Words (n : ℕ) : List UInt64 := [UInt64.ofNat n, UInt64.ofNat (n / 2 ^ 64)]

def getPrivateAggregationBucketPostAuction (ops : FloatOps F) (baseValues : BaseValues F)
    (bucket : Option (PrivateAggregationBucket F)) : Except String (List UInt64) :=
  match bucket with
  | none => .error kInvalidPrivateAggregationBucketType
  | some (.bucket128Bit bits) => .ok bits
  | some (.signalBucket signalBucket) => do
    let baseValue ← baseValueNumber baseValues id ops.ofInt signalBucket.baseValue
    let offsetValue := signalBucket.offset.magnitude
    let finalValue := (ops.mulToUInt64 baseValue signalBucket.scale).toNat
    if signalBucket.offset.isNegative then
      if finalValue < offsetValue then throw kPrivateAggregationBucketNegativeFinalValue
      else return uint128Words (finalValue - offsetValue)
    else return uint128Words ((finalValue + offsetValue) % 2 ^ 128)

def getPrivateAggregationValuePostAuction (ops : FloatOps F) (baseValues : BaseValues F)
    (value : Option (PrivateAggregationValue F)) : Except String Int32 :=
  match value with
  | none => .error kInvalidPrivateAggregationValueType
  | some (.intValue value) => .ok value
  | some (.extendedValue extendedValue) => do
    let finalValue ← baseValueNumber baseValues ops.toInt id extendedValue.baseValue
    return ops.mulToInt finalValue extendedValue.scale + extendedValue.offset

/-- A contribution resolved: its event is cleared. `none` when it cannot be. -/
def postAuction (ops : FloatOps F) (baseValues : BaseValues F)
    (contribution : PrivateAggregateContribution F) : Option (PrivateAggregateContribution F) := do
  let value ← (getPrivateAggregationValuePostAuction ops baseValues contribution.value).toOption
  let bits ← (getPrivateAggregationBucketPostAuction ops baseValues contribution.bucket).toOption
  return { contribution with
    value := some (.intValue value)
    bucket := some (.bucket128Bit bits)
    event := {} }

theorem postAuction_event {ops : FloatOps F} {baseValues : BaseValues F}
    {contribution resolved : PrivateAggregateContribution F}
    (h : postAuction ops baseValues contribution = some resolved) : resolved.event = {} := by
  unfold postAuction at h
  simp only [Option.bind_eq_bind, Option.bind_eq_some_iff] at h
  obtain ⟨value, -, bits, -, hresolved⟩ := h
  cases hresolved
  rfl

theorem contributionFields_of_postAuction {ops : FloatOps F} {baseValues : BaseValues F}
    {contribution resolved : PrivateAggregateContribution F}
    (h : postAuction ops baseValues contribution = some resolved) :
    (contributionFields resolved).isSome = true := by
  unfold postAuction at h
  simp only [Option.bind_eq_bind, Option.bind_eq_some_iff] at h
  obtain ⟨value, -, bits, -, hresolved⟩ := h
  cases hresolved
  rfl

/-! ## Filtering -/

def isWinEvent (contribution : PrivateAggregateContribution F) : Bool :=
  contribution.event.eventType = .win || contribution.event.eventType = .custom ||
    contribution.event.eventType = .always

def isLossEvent (contribution : PrivateAggregateContribution F) : Bool :=
  contribution.event.eventType = .loss || contribution.event.eventType = .always

def filterWinContributions (ad : AdWithBid F) : AdWithBid F :=
  { ad with
    privateAggregationContributions := ad.privateAggregationContributions.filter isWinEvent }

def filterLossContributions (ad : AdWithBid F) : AdWithBid F :=
  { ad with
    privateAggregationContributions := ad.privateAggregationContributions.filter isLossEvent }

/-- `GetProcessedAndFilteredContributions`: what was resolved, and the bid that each
resolved contribution was moved out of. -/
def getProcessedAndFilteredContributions (ops : FloatOps F) (baseValues : BaseValues F)
    (ad : AdWithBid F) : List (PrivateAggregateContribution F) × AdWithBid F :=
  (ad.privateAggregationContributions.filterMap (postAuction ops baseValues),
    { ad with
      privateAggregationContributions := ad.privateAggregationContributions.map fun contribution =>
        if (postAuction ops baseValues contribution).isSome then {} else contribution })

/-! ## The winner and the losing bids -/

def getBaseValues (ops : FloatOps F) (highScore : AdScore F) : BaseValues F where
  winningBid :=
    if ops.isPositive highScore.incomingBidInSellerCurrency then
      highScore.incomingBidInSellerCurrency
    else highScore.buyerBid
  highestScoringOtherBid :=
    (highScore.igOwnerHighestScoringOtherBidsMap.entries.head?.bind fun entry =>
      entry.2.head?).getD ops.zero

def isOfWinner (highScore : AdScore F) (igOwner : String) (ad : AdWithBid F) : Bool :=
  highScore.interestGroupOwner = igOwner && ad.interestGroupName = highScore.interestGroupName

/-- The base values for a bid: of one that lost, with its rejection reason, if any. -/
def baseValuesFor (ops : FloatOps F) (highScore : AdScore F) (igOwner : String)
    (ad : AdWithBid F) : BaseValues F :=
  let baseValues := getBaseValues ops highScore
  if isOfWinner highScore igOwner ad then baseValues
  else { baseValues with
    rejectReason := (highScore.adRejectionReasons.find? fun rejection =>
      rejection.interestGroupOwner = igOwner &&
        rejection.interestGroupName = ad.interestGroupName).map fun rejection =>
          rejection.rejectionReason }

/-- `set_ig_idx`. -/
def withIgIdx (igIdx : ℕ) (contribution : PrivateAggregateContribution F) :
    PrivateAggregateContribution F :=
  { contribution with igIdx := some (Int32.ofNat igIdx) }

/-- One turn of the loop over the bids of a buyer: what is reported for the bid, and
what is left of it. -/
def handleBid (ops : FloatOps F) (interestGroupIndexMap : FlatHashMap InterestGroupIdentity ℕ)
    (highScore : AdScore F) (igOwner : String) (ad : AdWithBid F) :
    List (PrivateAggregateContribution F) × AdWithBid F :=
  if ad.privateAggregationContributions.isEmpty then ([], ad)
  else
    match interestGroupIndexMap.lookup ⟨igOwner, ad.interestGroupName⟩ with
    | none => ([], ad)
    | some igIdx =>
      let filtered :=
        if isOfWinner highScore igOwner ad then filterWinContributions ad
        else filterLossContributions ad
      let processed := getProcessedAndFilteredContributions ops
        (baseValuesFor ops highScore igOwner ad) filtered
      (processed.1.map (withIgIdx igIdx), processed.2)

/-- The response for a buyer, if there is anything to report. -/
def reportingResponse (igOwner : String)
    (contributions : List (PrivateAggregateContribution F)) :
    Option (PrivateAggregateReportingResponse F) :=
  if contributions.isEmpty then none
  else some { contributions := contributions, adtechOrigin := igOwner }

def mapValues {K V W : Type} (f : K → V → W) (m : FlatHashMap K V) : FlatHashMap K W where
  entries := m.entries.map fun e => ⟨e.1, f e.1 e.2⟩
  nodupKeys := by
    have hkeys : (m.entries.map fun e => (⟨e.1, f e.1 e.2⟩ : Sigma fun _ : K => W)).keys =
        m.entries.keys := by
      simp [List.keys, Function.comp_def]
    show List.Nodup (List.keys _)
    rw [hkeys]
    exact m.nodupKeys

/-- `HandlePrivateAggregationContributions`: the winner with the responses added, and
the bids. -/
def handlePrivateAggregationContributions (ops : FloatOps F)
    (interestGroupIndexMap : FlatHashMap InterestGroupIdentity ℕ) (highScore : AdScore F)
    (sharedBuyerBidsMap : BuyerBidsResponseMap F) : AdScore F × BuyerBidsResponseMap F :=
  ({ highScore with
      topLevelContributions := highScore.topLevelContributions ++
        sharedBuyerBidsMap.entries.filterMap fun buyer =>
          reportingResponse buyer.1 (buyer.2.flatMap fun ad =>
            (handleBid ops interestGroupIndexMap highScore buyer.1 ad).1) },
    mapValues (fun igOwner bids => bids.map fun ad =>
      (handleBid ops interestGroupIndexMap highScore igOwner ad).2) sharedBuyerBidsMap)

/-! ## Ghost winners -/

/-- The base values for a ghost winner: only the rejection reason is set. -/
def ghostBaseValues (ops : FloatOps F) : BaseValues F where
  winningBid := ops.uninitialized
  highestScoringOtherBid := ops.uninitialized
  rejectReason := some .didNotMeetTheKAnonymityThreshold

/-- The loop over the bids of a ghost winner's owner; it ends at the first bid with
anything to report. -/
def handleGhostBids (ops : FloatOps F)
    (interestGroupIndexMap : FlatHashMap InterestGroupIdentity ℕ) (ig : InterestGroupIdentity) :
    List (AdWithBid F) → List (PrivateAggregateContribution F) × List (AdWithBid F)
  | [] => ([], [])
  | ad :: ads =>
    let rest := handleGhostBids ops interestGroupIndexMap ig ads
    if ad.privateAggregationContributions.isEmpty || ad.interestGroupName ≠ ig.interestGroupName
    then (rest.1, ad :: rest.2)
    else
      match interestGroupIndexMap.lookup ig with
      | none => (rest.1, ad :: rest.2)
      | some igIdx =>
        let processed := getProcessedAndFilteredContributions ops (ghostBaseValues ops)
          (filterLossContributions ad)
        if processed.1.isEmpty then (rest.1, processed.2 :: rest.2)
        else (processed.1.map (withIgIdx igIdx), processed.2 :: ads)

def handlePrivateAggregationContributionsForGhostWinner (ops : FloatOps F)
    (interestGroupIndexMap : FlatHashMap InterestGroupIdentity ℕ)
    (sharedBuyerBidsMap : BuyerBidsResponseMap F) (ghostWinningScore : AdScore F) :
    AdScore F × BuyerBidsResponseMap F :=
  match sharedBuyerBidsMap.lookup ghostWinningScore.interestGroupOwner with
  | none => (ghostWinningScore, sharedBuyerBidsMap)
  | some bids =>
    let handled := handleGhostBids ops interestGroupIndexMap
      ⟨ghostWinningScore.interestGroupOwner, ghostWinningScore.interestGroupName⟩ bids
    ({ ghostWinningScore with
        topLevelContributions := ghostWinningScore.topLevelContributions ++
          (reportingResponse ghostWinningScore.interestGroupOwner handled.1).toList },
      mapValues (fun igOwner bids =>
        if igOwner = ghostWinningScore.interestGroupOwner then handled.2 else bids)
        sharedBuyerBidsMap)

def handleGhostWinners (ops : FloatOps F)
    (interestGroupIndexMap : FlatHashMap InterestGroupIdentity ℕ) :
    List (AdScore F) → BuyerBidsResponseMap F → List (AdScore F) × BuyerBidsResponseMap F
  | [], sharedBuyerBidsMap => ([], sharedBuyerBidsMap)
  | ghost :: ghosts, sharedBuyerBidsMap =>
    let handled := handlePrivateAggregationContributionsForGhostWinner ops interestGroupIndexMap
      sharedBuyerBidsMap ghost
    let rest := handleGhostWinners ops interestGroupIndexMap ghosts handled.2
    (handled.1 :: rest.1, rest.2)

/-! ## The end of an auction -/

structure ScoreAdsRawResponse (F : Type) where
  adScore : Option (AdScore F) := none
  ghostWinningAdScores : List (AdScore F) := []

/-- What the response to the client is made from. -/
structure ScoreAdsDone (F : Type) where
  highScore : Option (AdScore F)
  ghostWinners : Option (List (AdScore F))
  sharedBuyerBidsMap : BuyerBidsResponseMap F

/-- `SelectAdReactor::OnScoreAdsDone` for a response that came without an error, up to
the response to the client. -/
def onScoreAdsDone (ops : FloatOps F) (enableBuyerPrivateAggregateReporting : Bool)
    (interestGroupIndexMap : FlatHashMap InterestGroupIdentity ℕ)
    (sharedBuyerBidsMap : BuyerBidsResponseMap F) (response : ScoreAdsRawResponse F) :
    ScoreAdsDone F :=
  let highScore := response.adScore.filter fun adScore => ops.isPositive adScore.buyerBid
  let handled :=
    if enableBuyerPrivateAggregateReporting then
      handleGhostWinners ops interestGroupIndexMap response.ghostWinningAdScores
        sharedBuyerBidsMap
    else (response.ghostWinningAdScores, sharedBuyerBidsMap)
  let ghostWinners := if handled.1.isEmpty then none else some handled.1
  match highScore with
  | none => ⟨none, ghostWinners, handled.2⟩
  | some highScore =>
    if enableBuyerPrivateAggregateReporting then
      let done := handlePrivateAggregationContributions ops interestGroupIndexMap highScore
        handled.2
      ⟨some done.1, ghostWinners, done.2⟩
    else ⟨some highScore, ghostWinners, handled.2⟩

end BiddingAuction

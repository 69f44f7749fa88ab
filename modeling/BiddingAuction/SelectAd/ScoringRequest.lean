import BiddingAuction.SelectAd.CompressedConfig
import BiddingAuction.SelectAd.CurrencyFilter

/-!
# The bids in the request for scoring

A response to a chaff request is replaced by an empty one before it reaches the reactor. The
bids of the others are kept by owner and joined with the input of the owner by the name of the
interest group, whose position is remembered for the contributions of private aggregation.
-/

namespace BiddingAuction

namespace SelectAd.Scoring

/-! ## Messages -/

/-- `AdWithBid`, with what only scoring reads; bids are floats, costs are doubles. -/
structure AdWithBid (F G : Type) extends BiddingAuction.AdWithBid F where
  allowComponentAuction : Bool := false
  adCost : G
  modelingSignals : Int32 := 0
  dataVersion : Int32 := 0

structure AdWithBidMetadata (F G : Type) where
  ad : Option Json := none
  bid : F
  render : String := ""
  adComponents : List String := []
  allowComponentAuction : Bool := false
  interestGroupName : String := ""
  interestGroupOwner : String := ""
  joinCount : Int32 := 0
  recency : Int64 := 0
  modelingSignals : Int32 := 0
  adCost : G
  bidCurrency : String := ""
  interestGroupOrigin : String := ""
  buyerReportingId : Option String := none
  buyerAndSellerReportingId : Option String := none
  selectedBuyerAndSellerReportingId : Option String := none
  kAnonStatus : Bool := false
  dataVersion : UInt32 := 0
  interestGroupIdx : ℕ := 0

structure GetBidsRawResponse (F G : Type) where
  bids : List (AdWithBid F G) := []
  protectedAppSignalsBids : List ProtectedAppSignalsAdWithBid := []

/-- What comes of a call: it fails, or a payload is decrypted, which may not decode. -/
inductive CallOutcome (F G : Type) where
  | failed
  | payload (decoded : Option (GetBidsRawResponse F G))

/-- A call of the reactor and what came of it. -/
structure GetBidsCall (F G : Type) (r : ConfiguredReactor) where
  sent : SentGetBids
  wasSent : sent ∈ r.getBidsRequests
  outcome : CallOutcome F G

variable {F G : Type} (r : ConfiguredReactor)

/-! ## The responses -/

/-- `BuyerFrontEndAsyncGrpcClient::OnGetBidsDone`: the response of the buyer is not looked at
where the request was chaff. -/
def onGetBidsDone (isChaffRequest : Bool) : CallOutcome F G → Option (GetBidsRawResponse F G)
  | .failed => none
  | .payload decodedPayload => if isChaffRequest then some {} else decodedPayload

def hasNoBids (response : GetBidsRawResponse F G) : Bool :=
  (!r.rpcSetup.isProtectedAudienceEnabled || response.bids.isEmpty) &&
    (!r.rpcSetup.isPasEnabled || response.protectedAppSignalsBids.isEmpty)

/-- `OnFetchBidsDone`, for one call. -/
def onFetchBidsDone (sharedBuyerBidsMap : FlatHashMap String (GetBidsRawResponse F G))
    (call : GetBidsCall F G r) : FlatHashMap String (GetBidsRawResponse F G) :=
  match onGetBidsDone call.sent.request.isChaff call.outcome with
  | none => sharedBuyerBidsMap
  | some response =>
    if hasNoBids r response then sharedBuyerBidsMap
    else FlatHashMap.emplace sharedBuyerBidsMap call.sent.buyerName response

/-- One turn of the loop of `FilterBidsWithMismatchingCurrency`. -/
def filterBuyer (buyerIgOwner : String) (response : GetBidsRawResponse F G) :
    GetBidsRawResponse F G :=
  match r.rpcSetup.buyerCurrencies.lookup buyerIgOwner with
  | none => response
  | some buyerCurrency =>
    if buyerCurrency = "" then response
    else {
      bids := deleteMismatching (fun bid => bid.bidCurrency) buyerCurrency response.bids
      protectedAppSignalsBids := deleteMismatching (fun bid => bid.bidCurrency) buyerCurrency
        response.protectedAppSignalsBids }

/-- The responses that are kept: `shared_buyer_bids_map_` as the bids are scored. -/
def keptResponses (calls : List (GetBidsCall F G r)) :
    FlatHashMap String (GetBidsRawResponse F G) :=
  FlatHashMap.eraseIf (fun _ response => hasNoBids r response)
    (mapValues (filterBuyer r) (calls.foldl (onFetchBidsDone r) ∅))

/-! ## One bid -/

def kMillisInMinute : Int64 := 60000
def kSecsInMinute : Int64 := 60

/-- `browser_signals()`: the empty message where there are none. -/
def browserSignals (interestGroup : InterestGroup BrowserSignalsForBidding) :
    BrowserSignalsForBidding :=
  match interestGroup.deviceSignals with
  | some (.browser signals) => signals
  | _ => {}

/-- Minutes, through an `int`. -/
def recency (signals : BrowserSignalsForBidding) : Int64 :=
  match signals.recencyMs with
  | some recencyMs => (recencyMs / kMillisInMinute).toInt32.toInt64
  | none => (signals.recency / kSecsInMinute).toInt32.toInt64

/-- The loop over the interest groups, with the index it counts: the first one of the name. -/
def findInterestGroup (name : String) :
    List (InterestGroup BrowserSignalsForBidding) → ℕ →
      Option (ℕ × InterestGroup BrowserSignalsForBidding)
  | [], _ => none
  | interestGroup :: interestGroups, interestGroupIdx =>
    if interestGroup.name = name then some (interestGroupIdx, interestGroup)
    else findInterestGroup name interestGroups (interestGroupIdx + 1)

/-- The string that `data()` of a view of an owner points to: it ends at a NUL. -/
def dataOf (interestGroupOwner : String) : String :=
  .ofList (interestGroupOwner.toList.takeWhile fun c => c.toNat ≠ 0)

def copyFields (input : AdWithBid F G) (interestGroupOwner : String) (kAnonStatus : Bool) :
    AdWithBidMetadata F G where
  ad := input.ad
  bid := input.bid
  render := input.render
  allowComponentAuction := input.allowComponentAuction
  adComponents := input.adComponents
  interestGroupName := input.interestGroupName
  adCost := input.adCost
  modelingSignals := input.modelingSignals
  bidCurrency := input.bidCurrency
  dataVersion := input.dataVersion.toUInt32
  interestGroupOwner := interestGroupOwner
  kAnonStatus := if r.enableEnforceKanon then kAnonStatus else true
  buyerReportingId := input.buyerReportingId
  buyerAndSellerReportingId := input.buyerAndSellerReportingId
  selectedBuyerAndSellerReportingId := input.selectedBuyerAndSellerReportingId

/-- The fields that come from the interest group of the bid; only a browser has signals. -/
def setInterestGroup (result : AdWithBidMetadata F G) (interestGroupIdx : ℕ)
    (interestGroup : InterestGroup BrowserSignalsForBidding) : AdWithBidMetadata F G :=
  let result := { result with
    interestGroupOrigin := interestGroup.origin
    interestGroupIdx := interestGroupIdx }
  if r.clientType = .browser then
    { result with
      joinCount := (browserSignals interestGroup).joinCount.toInt32
      recency := recency (browserSignals interestGroup) }
  else result

/-- `BuildAdWithBidMetadata`. It reads past the end of `buyer_inputs_`, here `none`, where the
owner has no input. -/
def buildAdWithBidMetadata (input : AdWithBid F G) (interestGroupOwner : String)
    (kAnonStatus : Bool) (interestGroupIndexMap : FlatHashMap InterestGroupIdentity ℕ) :
    Option (AdWithBidMetadata F G × FlatHashMap InterestGroupIdentity ℕ) := do
  let buyerInputForBidding ← r.decrypted.buyerInputs.lookup interestGroupOwner
  let result := copyFields r input interestGroupOwner kAnonStatus
  match findInterestGroup input.interestGroupName buyerInputForBidding.interestGroups 0 with
  | none => return (result, interestGroupIndexMap)
  | some (interestGroupIdx, interestGroup) =>
    return (setInterestGroup r result interestGroupIdx interestGroup,
      FlatHashMap.emplace interestGroupIndexMap
        ⟨dataOf interestGroupOwner, input.interestGroupName⟩ interestGroupIdx)

/-! ## All bids -/

/-- The bids in the order in which they are sent, each with its pointer. -/
def bidsToScore (sharedBuyerBidsMap : FlatHashMap String (GetBidsRawResponse F G)) :
    List (BidPointer × AdWithBid F G) :=
  if r.server.isProtectedAudienceEnabled then
    (r.server.ord.entries sharedBuyerBidsMap).flatMap fun buyer =>
      buyer.2.bids.zipIdx.map fun bid => (⟨buyer.1, bid.2⟩, bid.1)
  else []

def addAdBid (bidKAnonStatus : FlatHashMap BidPointer Bool)
    (acc : List (AdWithBidMetadata F G) × FlatHashMap InterestGroupIdentity ℕ)
    (bid : BidPointer × AdWithBid F G) :
    Option (List (AdWithBidMetadata F G) × FlatHashMap InterestGroupIdentity ℕ) := do
  let built ← buildAdWithBidMetadata r bid.2 bid.1.buyerIgOwner
    ((bidKAnonStatus.lookup bid.1).getD false) acc.2
  return (acc.1 ++ [built.1], built.2)

/-- `CreateScoreAdsRequest`: the bids of the request, and the map of indices it leaves. -/
def createScoreAdsRequest (bidKAnonStatus : FlatHashMap BidPointer Bool)
    (sharedBuyerBidsMap : FlatHashMap String (GetBidsRawResponse F G)) :
    Option (List (AdWithBidMetadata F G) × FlatHashMap InterestGroupIdentity ℕ) :=
  (bidsToScore r sharedBuyerBidsMap).foldlM (addAdBid r bidKAnonStatus) ([], ∅)

end SelectAd.Scoring

/-!
# The ads that are scored are the bids that are kept

Each kept bid has one ad in the request, in order, with the fields of the bid and those of the
first interest group of its name. A kept response is that of a buyer that was called for real,
so its input is there. The count of joins and the minutes go through 32 bits, and only a
browser's are sent.
-/

namespace SelectAd.Scoring

variable {F G : Type}

/-! ## What it is for -/

/-- The interest group at this position is the first of the name. -/
structure IsFirstNamed (name : String)
    (interestGroups : List (InterestGroup BrowserSignalsForBidding)) (position : ℕ)
    (interestGroup : InterestGroup BrowserSignalsForBidding) : Prop where
  at_position : interestGroups[position]? = some interestGroup
  named : interestGroup.name = name
  first : ∀ earlier < position, ∀ other, interestGroups[earlier]? = some other → other.name ≠ name

/-- The value is one of an `int`. -/
def FitsInt (value : ℤ) : Prop := -2 ^ 31 ≤ value ∧ value < 2 ^ 31

/-- Whole minutes since the group was joined, of its milliseconds or else of its seconds. -/
def wholeMinutes (signals : BrowserSignalsForBidding) : ℤ :=
  match signals.recencyMs with
  | some recencyMs => recencyMs.toInt.tdiv 60000
  | none => signals.recency.toInt.tdiv 60

/-- What the ad says of the interest group. -/
structure DescribesGroup (clientType : ClientType) (position : ℕ)
    (interestGroup : InterestGroup BrowserSignalsForBidding) (ad : AdWithBidMetadata F G) :
    Prop where
  origin : ad.interestGroupOrigin = interestGroup.origin
  index : ad.interestGroupIdx = position
  joinCount : clientType = .browser → FitsInt (browserSignals interestGroup).joinCount.toInt →
    ad.joinCount.toInt = (browserSignals interestGroup).joinCount.toInt
  recency : clientType = .browser → FitsInt (wholeMinutes (browserSignals interestGroup)) →
    ad.recency.toInt = wholeMinutes (browserSignals interestGroup)

structure CarriesBid (input : AdWithBid F G) (result : AdWithBidMetadata F G) : Prop where
  ad : result.ad = input.ad
  bid : result.bid = input.bid
  render : result.render = input.render
  adComponents : result.adComponents = input.adComponents
  allowComponentAuction : result.allowComponentAuction = input.allowComponentAuction
  interestGroupName : result.interestGroupName = input.interestGroupName
  adCost : result.adCost = input.adCost
  modelingSignals : result.modelingSignals = input.modelingSignals
  bidCurrency : result.bidCurrency = input.bidCurrency
  buyerReportingId : result.buyerReportingId = input.buyerReportingId
  buyerAndSellerReportingId : result.buyerAndSellerReportingId = input.buyerAndSellerReportingId
  selectedBuyerAndSellerReportingId :
    result.selectedBuyerAndSellerReportingId = input.selectedBuyerAndSellerReportingId
  dataVersion : 0 ≤ input.dataVersion.toInt →
    (result.dataVersion.toNat : ℤ) = input.dataVersion.toInt

/-- The ad represents the bid of the owner, whose input this is. -/
structure Represents (clientType : ClientType) (buyerInput : BuyerInputForBidding) (owner : String)
    (bid : AdWithBid F G) (ad : AdWithBidMetadata F G) : Prop where
  carriesBid : CarriesBid bid ad
  interestGroupOwner : ad.interestGroupOwner = owner
  interestGroup : ∀ position interestGroup,
    IsFirstNamed bid.interestGroupName buyerInput.interestGroups position interestGroup →
      DescribesGroup clientType position interestGroup ad
  noInterestGroup : (∀ interestGroup ∈ buyerInput.interestGroups,
      interestGroup.name ≠ bid.interestGroupName) →
    ad.interestGroupOrigin = "" ∧ ad.interestGroupIdx = 0 ∧ ad.joinCount = 0 ∧ ad.recency = 0

def keptBids (r : ConfiguredReactor)
    (sharedBuyerBidsMap : FlatHashMap String (GetBidsRawResponse F G)) :
    List (String × AdWithBid F G) :=
  (r.server.ord.entries sharedBuyerBidsMap).flatMap fun buyer =>
    buyer.2.bids.map fun bid => (buyer.1, bid)

/-- The owner was called for real, and this is its answer, less the bids in another currency. -/
def Answered (r : ConfiguredReactor) (calls : List (GetBidsCall F G r)) (owner : String)
    (response : GetBidsRawResponse F G) : Prop :=
  ∃ call ∈ calls, call.sent.buyerName = owner ∧ call.sent.request.isChaff = false ∧
    ∃ answer, call.outcome = .payload (some answer) ∧
      response.bids.Perm
        (answer.bids.filter fun bid => HasExpectedCurrency r.rpcSetup owner bid.bidCurrency)

/-- The map remembers positions of interest groups that bids were joined with. -/
def IndicesAreRight (r : ConfiguredReactor) (bids : List (String × AdWithBid F G))
    (interestGroupIndexMap : FlatHashMap InterestGroupIdentity ℕ) : Prop :=
  ∀ identity position, interestGroupIndexMap.lookup identity = some position →
    ∃ bid ∈ bids, ∃ input interestGroup,
      identity = ⟨dataOf bid.1, bid.2.interestGroupName⟩ ∧
      r.decrypted.buyerInputs.lookup bid.1 = some input ∧
      IsFirstNamed bid.2.interestGroupName input.interestGroups position interestGroup

/-! ## One bid -/

theorem findInterestGroup_some {name : String}
    {interestGroups : List (InterestGroup BrowserSignalsForBidding)} {start position : ℕ}
    {interestGroup : InterestGroup BrowserSignalsForBidding}
    (h : findInterestGroup name interestGroups start = some (position, interestGroup)) :
    ∃ offset, position = start + offset ∧
      IsFirstNamed name interestGroups offset interestGroup := by
  induction interestGroups generalizing start with
  | nil => cases h
  | cons group interestGroups ih =>
    unfold findInterestGroup at h
    split at h
    · rename_i hname
      cases h
      exact ⟨0, rfl, rfl, hname, fun earlier hearlier => absurd hearlier (Nat.not_lt_zero _)⟩
    · rename_i hname
      obtain ⟨offset, rfl, hfirst⟩ := ih h
      refine ⟨offset + 1, by omega, hfirst.at_position, hfirst.named, ?_⟩
      intro earlier hearlier other hother
      cases earlier with
      | zero =>
        cases hother
        exact hname
      | succ earlier => exact hfirst.first earlier (by omega) other hother

theorem findInterestGroup_none {name : String}
    {interestGroups : List (InterestGroup BrowserSignalsForBidding)} {start : ℕ}
    (h : findInterestGroup name interestGroups start = none) :
    ∀ interestGroup ∈ interestGroups, interestGroup.name ≠ name := by
  induction interestGroups generalizing start with
  | nil => nofun
  | cons group interestGroups ih =>
    unfold findInterestGroup at h
    split at h
    · cases h
    · rename_i hname
      exact List.forall_mem_cons.mpr ⟨hname, ih h⟩

theorem IsFirstNamed.unique {name : String}
    {interestGroups : List (InterestGroup BrowserSignalsForBidding)} {position position' : ℕ}
    {interestGroup interestGroup' : InterestGroup BrowserSignalsForBidding}
    (h : IsFirstNamed name interestGroups position interestGroup)
    (h' : IsFirstNamed name interestGroups position' interestGroup') :
    position = position' ∧ interestGroup = interestGroup' := by
  have heq : position = position' := by
    rcases lt_trichotomy position position' with hlt | heq | hgt
    · exact absurd h.named (h'.first _ hlt _ h.at_position)
    · exact heq
    · exact absurd h'.named (h.first _ hgt _ h'.at_position)
  subst heq
  exact ⟨rfl, Option.some.inj (h.at_position.symm.trans h'.at_position)⟩

theorem IsFirstNamed.mem {name : String}
    {interestGroups : List (InterestGroup BrowserSignalsForBidding)} {position : ℕ}
    {interestGroup : InterestGroup BrowserSignalsForBidding}
    (h : IsFirstNamed name interestGroups position interestGroup) :
    interestGroup ∈ interestGroups :=
  List.mem_of_getElem? h.at_position

theorem toInt_toInt32_of_fits {value : Int64} (h : FitsInt value.toInt) :
    value.toInt32.toInt = value.toInt := by
  rw [Int64.toInt_toInt32]
  exact Int.bmod_eq_of_le (by have := h.1; omega) (by have := h.2; omega)

theorem toInt_minutes {duration unit : Int64} (hunit : 1 < unit.toInt)
    (h : FitsInt (duration.toInt.tdiv unit.toInt)) :
    (duration / unit).toInt32.toInt64.toInt = duration.toInt.tdiv unit.toInt := by
  have hdiv : (duration / unit).toInt = duration.toInt.tdiv unit.toInt := by
    refine Int64.toInt_div_of_ne_right _ _ fun hneg => ?_
    rw [hneg] at hunit
    exact absurd hunit (by decide)
  rw [Int32.toInt_toInt64, toInt_toInt32_of_fits (hdiv ▸ h), hdiv]

theorem toInt_recency {signals : BrowserSignalsForBidding} (h : FitsInt (wholeMinutes signals)) :
    (recency signals).toInt = wholeMinutes signals := by
  unfold recency wholeMinutes at *
  cases hms : signals.recencyMs with
  | none =>
    rw [hms] at h
    exact toInt_minutes (by decide : 1 < kSecsInMinute.toInt) h
  | some recencyMs =>
    rw [hms] at h
    exact toInt_minutes (by decide : 1 < kMillisInMinute.toInt) h

theorem toNat_toUInt32_of_nonneg {value : Int32} (h : 0 ≤ value.toInt) :
    (value.toUInt32.toNat : ℤ) = value.toInt := by
  rw [Int32.toNat_toUInt32_of_le (Int32.le_iff_toInt_le.mpr h)]
  exact Int.toNat_of_nonneg h

section Bid

variable {r : ConfiguredReactor}

theorem setInterestGroup_describes (result : AdWithBidMetadata F G) (position : ℕ)
    (interestGroup : InterestGroup BrowserSignalsForBidding) :
    DescribesGroup r.clientType position interestGroup
      (setInterestGroup r result position interestGroup) := by
  unfold setInterestGroup
  refine ⟨?_, ?_, fun hclient hfits => ?_, fun hclient hfits => ?_⟩
  · split <;> rfl
  · split <;> rfl
  · rw [if_pos hclient]
    exact toInt_toInt32_of_fits hfits
  · rw [if_pos hclient]
    exact toInt_recency hfits

theorem copyFields_carries (bid : AdWithBid F G) (owner : String) (status : Bool) :
    CarriesBid bid (copyFields r bid owner status) where
  ad := rfl
  bid := rfl
  render := rfl
  adComponents := rfl
  allowComponentAuction := rfl
  interestGroupName := rfl
  adCost := rfl
  modelingSignals := rfl
  bidCurrency := rfl
  buyerReportingId := rfl
  buyerAndSellerReportingId := rfl
  selectedBuyerAndSellerReportingId := rfl
  dataVersion := toNat_toUInt32_of_nonneg

theorem CarriesBid.setInterestGroup {bid : AdWithBid F G} {ad : AdWithBidMetadata F G}
    (h : CarriesBid bid ad) (position : ℕ)
    (interestGroup : InterestGroup BrowserSignalsForBidding) :
    CarriesBid bid (setInterestGroup r ad position interestGroup) := by
  unfold Scoring.setInterestGroup
  split <;> exact { h with }

theorem represents_setInterestGroup {bid : AdWithBid F G} {owner : String} {status : Bool}
    {buyerInput : BuyerInputForBidding} {position : ℕ}
    {interestGroup : InterestGroup BrowserSignalsForBidding}
    (h : IsFirstNamed bid.interestGroupName buyerInput.interestGroups position interestGroup) :
    Represents r.clientType buyerInput owner bid
      (setInterestGroup r (copyFields r bid owner status) position interestGroup) where
  carriesBid := (copyFields_carries bid owner status).setInterestGroup position interestGroup
  interestGroupOwner := by
    unfold setInterestGroup
    split <;> rfl
  interestGroup position' interestGroup' h' := by
    obtain ⟨rfl, rfl⟩ := h.unique h'
    exact setInterestGroup_describes _ _ _
  noInterestGroup hnone := absurd h.named (hnone _ h.mem)

theorem represents_copyFields {bid : AdWithBid F G} {owner : String} {status : Bool}
    {buyerInput : BuyerInputForBidding}
    (h : ∀ interestGroup ∈ buyerInput.interestGroups,
      interestGroup.name ≠ bid.interestGroupName) :
    Represents r.clientType buyerInput owner bid (copyFields r bid owner status) where
  carriesBid := copyFields_carries bid owner status
  interestGroupOwner := rfl
  interestGroup _ _ hfirst := absurd hfirst.named (h _ hfirst.mem)
  noInterestGroup _ := ⟨rfl, rfl, rfl, rfl⟩

theorem IndicesAreRight.emplace {bids : List (String × AdWithBid F G)}
    {m : FlatHashMap InterestGroupIdentity ℕ} (h : IndicesAreRight r bids m)
    {owner : String} {bid : AdWithBid F G} (hbid : (owner, bid) ∈ bids)
    {input : BuyerInputForBidding} (hinput : r.decrypted.buyerInputs.lookup owner = some input)
    {position : ℕ} {interestGroup : InterestGroup BrowserSignalsForBidding}
    (hfirst : IsFirstNamed bid.interestGroupName input.interestGroups position interestGroup) :
    IndicesAreRight r bids
      (FlatHashMap.emplace m ⟨dataOf owner, bid.interestGroupName⟩ position) := by
  intro identity position' hlookup
  by_cases hmem : identity ∈ m
  · -- an index that is there stays
    refine h identity position' ?_
    by_cases heq : identity = ⟨dataOf owner, bid.interestGroupName⟩
    · subst heq
      unfold FlatHashMap.emplace at hlookup
      rwa [if_pos hmem] at hlookup
    · rwa [FlatHashMap.lookup_emplace_ne heq] at hlookup
  · by_cases heq : identity = ⟨dataOf owner, bid.interestGroupName⟩
    · subst heq
      rw [FlatHashMap.lookup_emplace_of_notMem hmem] at hlookup
      obtain rfl := Option.some.inj hlookup
      exact ⟨(owner, bid), hbid, input, interestGroup, rfl, hinput, hfirst⟩
    · rw [FlatHashMap.lookup_emplace_ne heq] at hlookup
      exact h identity position' hlookup

theorem buildAdWithBidMetadata_represents {bids : List (String × AdWithBid F G)}
    {m : FlatHashMap InterestGroupIdentity ℕ} (hm : IndicesAreRight r bids m)
    {owner : String} {bid : AdWithBid F G} (hbid : (owner, bid) ∈ bids)
    {input : BuyerInputForBidding} (hinput : r.decrypted.buyerInputs.lookup owner = some input)
    (status : Bool) :
    ∃ ad m', buildAdWithBidMetadata r bid owner status m = some (ad, m') ∧
      Represents r.clientType input owner bid ad ∧ IndicesAreRight r bids m' := by
  unfold buildAdWithBidMetadata
  rw [hinput]
  simp only [Option.bind_eq_bind, Option.bind_some]
  cases hfind : findInterestGroup bid.interestGroupName input.interestGroups 0 with
  | none => exact ⟨_, _, rfl, represents_copyFields (findInterestGroup_none hfind), hm⟩
  | some found =>
    obtain ⟨position, interestGroup⟩ := found
    obtain ⟨offset, rfl, hfirst⟩ := findInterestGroup_some hfind
    rw [Nat.zero_add] at *
    exact ⟨_, _, rfl, represents_setInterestGroup hfirst, hm.emplace hbid hinput hfirst⟩

/-! ## All bids -/

theorem foldlM_addAdBid {bids : List (String × AdWithBid F G)}
    (bidKAnonStatus : FlatHashMap BidPointer Bool) {toScore : List (BidPointer × AdWithBid F G)}
    (hbids : ∀ bid ∈ toScore, (bid.1.buyerIgOwner, bid.2) ∈ bids)
    (hinputs : ∀ bid ∈ toScore, ∃ input,
      r.decrypted.buyerInputs.lookup bid.1.buyerIgOwner = some input)
    (ads : List (AdWithBidMetadata F G)) {m : FlatHashMap InterestGroupIdentity ℕ}
    (hm : IndicesAreRight r bids m) :
    ∃ added m', toScore.foldlM (addAdBid r bidKAnonStatus) (ads, m) = some (ads ++ added, m') ∧
      List.Forall₂ (fun bid ad => ∃ input,
        r.decrypted.buyerInputs.lookup bid.1.buyerIgOwner = some input ∧
          Represents r.clientType input bid.1.buyerIgOwner bid.2 ad) toScore added ∧
      IndicesAreRight r bids m' := by
  induction toScore generalizing ads m with
  | nil => exact ⟨[], m, by rw [List.append_nil]; rfl, .nil, hm⟩
  | cons bid toScore ih =>
    obtain ⟨hbid, hbids⟩ := List.forall_mem_cons.mp hbids
    obtain ⟨⟨input, hinput⟩, hinputs⟩ := List.forall_mem_cons.mp hinputs
    obtain ⟨ad, m', hbuilt, hrepresents, hm'⟩ := buildAdWithBidMetadata_represents hm hbid hinput
      ((bidKAnonStatus.lookup bid.1).getD false)
    have hadd : addAdBid r bidKAnonStatus (ads, m) bid = some (ads ++ [ad], m') := by
      unfold addAdBid
      rw [hbuilt]
      rfl
    obtain ⟨added, m'', hrun, hforall, hm''⟩ := ih hbids hinputs (ads ++ [ad]) hm'
    refine ⟨ad :: added, m'', ?_, .cons ⟨input, hinput, hrepresents⟩ hforall, hm''⟩
    rw [List.foldlM_cons, hadd, Option.bind_eq_bind, Option.bind_some, hrun, List.append_assoc]
    rfl

theorem map_bidsToScore (hpa : r.server.isProtectedAudienceEnabled = true)
    (sharedBuyerBidsMap : FlatHashMap String (GetBidsRawResponse F G)) :
    (bidsToScore r sharedBuyerBidsMap).map (fun bid => (bid.1.buyerIgOwner, bid.2)) =
      keptBids r sharedBuyerBidsMap := by
  unfold bidsToScore keptBids
  rw [if_pos hpa, List.map_flatMap]
  refine List.flatMap_congr fun buyer _ => ?_
  rw [List.map_map]
  calc buyer.2.bids.zipIdx.map (fun bid => (buyer.1, bid.1))
      = (buyer.2.bids.zipIdx.map Prod.fst).map fun bid => (buyer.1, bid) := by
        rw [List.map_map]
        rfl
    _ = buyer.2.bids.map fun bid => (buyer.1, bid) := by rw [List.zipIdx_map_fst]

/-! ## The responses that are kept -/

theorem mem_buyerInputs_of_real {sent : SentGetBids} (hsent : sent ∈ r.getBidsRequests)
    (hreal : sent.request.isChaff = false) : sent.buyerName ∈ r.decrypted.buyerInputs := by
  obtain ⟨request, hasked, rfl⟩ := List.mem_map.mp hsent
  have hnot : request.isChaff = false := by
    by_contra hchaff
    rw [Bool.not_eq_false] at hchaff
    dsimp only at hreal
    unfold ConfiguredReactor.getBidsRequest at hreal
    rw [if_pos hchaff] at hreal
    cases hreal
  have htake : request ∈ r.rpcSetup.requestsToMake :=
    List.mem_of_mem_take (List.mem_filter.mp hasked).1
  rcases SelectAdSetup.kinds_of_mem htake with ⟨-, -, hinput⟩ | ⟨hchaff, -⟩
  · -- the names and origins are kept for the buyers with an input
    have hsome : ((mapValues (fun _ input => input.interestGroups.map fun group =>
        (⟨group.name, group.origin⟩ : InterestGroupForBidding)) r.decrypted.buyerInputs).lookup
          request.buyerName).isSome := AList.lookup_isSome.mpr hinput
    rw [lookup_mapValues, Option.isSome_map] at hsome
    exact AList.lookup_isSome.mp hsome
  · rw [hnot] at hchaff
    cases hchaff

theorem foldl_onFetchBidsDone {calls all : List (GetBidsCall F G r)}
    (hall : ∀ call ∈ calls, call ∈ all) {m : FlatHashMap String (GetBidsRawResponse F G)}
    (hm : ∀ owner response, m.lookup owner = some response → ∃ call ∈ all,
      call.sent.buyerName = owner ∧ call.sent.request.isChaff = false ∧
        call.outcome = .payload (some response)) :
    ∀ owner response, (calls.foldl (onFetchBidsDone r) m).lookup owner = some response →
      ∃ call ∈ all, call.sent.buyerName = owner ∧ call.sent.request.isChaff = false ∧
        call.outcome = .payload (some response) := by
  induction calls generalizing m with
  | nil => exact hm
  | cons call calls ih =>
    obtain ⟨hcall, hall⟩ := List.forall_mem_cons.mp hall
    refine ih hall fun owner response hlookup => ?_
    unfold onFetchBidsDone at hlookup
    split at hlookup
    · exact hm owner response hlookup
    · rename_i answer hanswer
      split at hlookup
      · exact hm owner response hlookup
      · rename_i hbids
        by_cases hnew : owner = call.sent.buyerName ∧ owner ∉ m
        · obtain ⟨rfl, hnotMem⟩ := hnew
          rw [FlatHashMap.lookup_emplace_of_notMem hnotMem] at hlookup
          obtain rfl := Option.some.inj hlookup
          refine ⟨call, hcall, rfl, ?_⟩
          -- the empty response to chaff has no bids
          unfold onGetBidsDone at hanswer
          split at hanswer
          · cases hanswer
          · split at hanswer
            · cases hanswer
              exact absurd (by simp [hasNoBids]) hbids
            · rename_i houtcome hchaff
              rw [Bool.not_eq_true] at hchaff
              exact ⟨hchaff, by rw [houtcome, hanswer]⟩
        · refine hm owner response ?_
          by_cases howner : owner = call.sent.buyerName
          · subst howner
            unfold FlatHashMap.emplace at hlookup
            rwa [if_pos (by simpa using hnew)] at hlookup
          · rwa [FlatHashMap.lookup_emplace_ne howner] at hlookup

theorem filterBuyer_perm (owner : String) (response : GetBidsRawResponse F G) :
    (filterBuyer r owner response).bids.Perm
      (response.bids.filter fun bid => HasExpectedCurrency r.rpcSetup owner bid.bidCurrency) := by
  unfold filterBuyer
  cases hlookup : r.rpcSetup.buyerCurrencies.lookup owner with
  | none =>
    refine .of_eq (List.filter_eq_self.mpr fun bid _ => ?_).symm
    refine decide_eq_true fun expected hexpected => ?_
    rw [hlookup] at hexpected
    cases hexpected
  | some buyerCurrency =>
    dsimp only
    have hexpected : ∀ bid : AdWithBid F G,
        HasExpectedCurrency r.rpcSetup owner bid.bidCurrency ↔
          (buyerCurrency ≠ "" → bid.bidCurrency ≠ "" → bid.bidCurrency = buyerCurrency) := by
      intro bid
      unfold HasExpectedCurrency
      rw [hlookup]
      exact ⟨fun h => h buyerCurrency rfl, fun h expected heq => Option.some.inj heq ▸ h⟩
    split
    · rename_i hempty
      refine .of_eq (List.filter_eq_self.mpr fun bid _ => decide_eq_true ?_).symm
      exact (hexpected bid).mpr fun hne => absurd hempty hne
    · rename_i hcurrency
      refine (deleteMismatching_perm _ _ _).trans (.of_eq (List.filter_congr fun bid _ => ?_))
      rw [Bool.eq_iff_iff]
      simp only [Bool.or_eq_true, decide_eq_true_eq]
      rw [hexpected bid]
      constructor
      · rintro (hnone | heq) - hsome
        · exact absurd hnone hsome
        · exact heq.symm
      · intro h
        by_cases hnone : bid.bidCurrency = ""
        · exact .inl hnone
        · exact .inr (h hcurrency hnone).symm

theorem answered_of_kept {calls : List (GetBidsCall F G r)} {owner : String}
    {response : GetBidsRawResponse F G}
    (h : (keptResponses r calls).lookup owner = some response) :
    Answered r calls owner response ∧ owner ∈ r.decrypted.buyerInputs := by
  unfold keptResponses at h
  rw [FlatHashMap.lookup_eraseIf, lookup_mapValues] at h
  obtain ⟨hmapped, -⟩ := Option.filter_eq_some_iff.mp h
  obtain ⟨answer, hanswer, rfl⟩ := Option.map_eq_some_iff.mp hmapped
  obtain ⟨call, hcall, rfl, hreal, houtcome⟩ :=
    foldl_onFetchBidsDone (fun _ h => h) (fun _ _ h => by cases h) _ _ hanswer
  exact ⟨⟨call, hcall, rfl, hreal, answer, houtcome, filterBuyer_perm _ _⟩,
    mem_buyerInputs_of_real call.wasSent hreal⟩

theorem mem_bidsToScore_lookup {calls : List (GetBidsCall F G r)}
    {bid : BidPointer × AdWithBid F G} (h : bid ∈ bidsToScore r (keptResponses r calls)) :
    ∃ input, r.decrypted.buyerInputs.lookup bid.1.buyerIgOwner = some input := by
  unfold bidsToScore at h
  split at h
  · obtain ⟨buyer, hbuyer, hbid⟩ := List.mem_flatMap.mp h
    obtain ⟨numbered, -, rfl⟩ := List.mem_map.mp hbid
    have hinput := (answered_of_kept (HashOrder.mem_entries.mp hbuyer)).2
    exact Option.isSome_iff_exists.mp (AList.lookup_isSome.mpr hinput)
  · cases h

/-- Every kept response is the answer to a real call, less the bids in another currency, and the
request has one ad for each of its bids, which represents it. No input is read that is not
there. -/
theorem ads_represent_bids (r : ConfiguredReactor) (calls : List (GetBidsCall F G r))
    (bidKAnonStatus : FlatHashMap BidPointer Bool) :
    (∀ owner response, (keptResponses r calls).lookup owner = some response →
      Answered r calls owner response) ∧
    ∃ ads indexMap,
      createScoreAdsRequest r bidKAnonStatus (keptResponses r calls) = some (ads, indexMap) ∧
      (r.server.isProtectedAudienceEnabled = false → ads = []) ∧
      (r.server.isProtectedAudienceEnabled = true →
        List.Forall₂ (fun bid ad => ∃ input, r.decrypted.buyerInputs.lookup bid.1 = some input ∧
          Represents r.clientType input bid.1 bid.2 ad) (keptBids r (keptResponses r calls)) ads) ∧
      IndicesAreRight r (keptBids r (keptResponses r calls)) indexMap := by
  refine ⟨fun owner response h => (answered_of_kept h).1, ?_⟩
  have hbids : ∀ bid ∈ bidsToScore r (keptResponses r calls),
      (bid.1.buyerIgOwner, bid.2) ∈ keptBids r (keptResponses r calls) := by
    intro bid hbid
    by_cases hpa : r.server.isProtectedAudienceEnabled = true
    · rw [← map_bidsToScore hpa]
      exact List.mem_map.mpr ⟨bid, hbid, rfl⟩
    · unfold bidsToScore at hbid
      rw [if_neg hpa] at hbid
      cases hbid
  obtain ⟨ads, indexMap, hrun, hforall, hindices⟩ := foldlM_addAdBid bidKAnonStatus hbids
    (fun bid hbid => mem_bidsToScore_lookup hbid) []
    (m := ∅) (fun _ _ h => by cases h)
  refine ⟨ads, indexMap, hrun, fun hoff => ?_, fun hpa => ?_, hindices⟩
  · unfold bidsToScore at hforall
    rw [hoff] at hforall
    cases hforall
    rfl
  · rw [← map_bidsToScore hpa]
    exact List.forall₂_map_left_iff.mpr hforall

end Bid

/-! ## A count of joins beyond 32 bits -/

def manyJoinsGroup : InterestGroup BrowserSignalsForBidding where
  name := "shoes"
  deviceSignals := some (.browser { joinCount := 2147483648, recency := 3600 })
  origin := "https://shop.example"

def manyJoinsReactor : ConfiguredReactor where
  server := compressedServer ⟨fun _ => none, fun _ => none⟩
  services := noBidServices
  clientType := .browser
  decrypted := {
    protectedAuctionInput := { generationId := "1", publisherName := "page" }
    buyerInputs := AList.insert "https://buyer.example" { interestGroups := [manyJoinsGroup] } ∅
    rng := FetchBids.leastRng }
  auctionScope := .singleSeller
  auctionConfig := oneBuyerConfig
  requestAuctionConfig := oneBuyerConfig

def manyJoinsCall : GetBidsCall ℚ ℚ manyJoinsReactor where
  sent := {
    buyerName := "https://buyer.example"
    timeoutMs := 0
    request := manyJoinsReactor.getBidsRequest ⟨"https://buyer.example", false⟩ }
  wasSent := List.mem_map.mpr ⟨⟨"https://buyer.example", false⟩, by decide +kernel, rfl⟩
  outcome := .payload (some { bids := [{ bid := 1, adCost := 0, interestGroupName := "shoes" }] })

/-- The ad says that the group was joined a negative number of times. -/
theorem joinCount_is_cut :
    (∃ ad indexMap, createScoreAdsRequest manyJoinsReactor ∅
        (keptResponses manyJoinsReactor [manyJoinsCall]) = some ([ad], indexMap) ∧
      ad.interestGroupOrigin = "https://shop.example" ∧ ad.recency.toInt = 60 ∧
      ad.joinCount.toInt = -2147483648) ∧
    ¬∃ ads indexMap, createScoreAdsRequest manyJoinsReactor ∅
        (keptResponses manyJoinsReactor [manyJoinsCall]) = some (ads, indexMap) ∧
      List.Forall₂ (fun bid ad => ∃ input, manyJoinsReactor.decrypted.buyerInputs.lookup bid.1 =
          some input ∧ ∀ position interestGroup,
            IsFirstNamed bid.2.interestGroupName input.interestGroups position interestGroup →
              ad.joinCount.toInt = (browserSignals interestGroup).joinCount.toInt)
        (keptBids manyJoinsReactor (keptResponses manyJoinsReactor [manyJoinsCall])) ads := by
  obtain ⟨ad, indexMap, hrun, hrest⟩ : ∃ ad indexMap, createScoreAdsRequest manyJoinsReactor ∅
      (keptResponses manyJoinsReactor [manyJoinsCall]) = some ([ad], indexMap) ∧
        ad.interestGroupOrigin = "https://shop.example" ∧ ad.recency.toInt = 60 ∧
        ad.joinCount.toInt = -2147483648 := ⟨_, _, rfl, by decide +kernel⟩
  refine ⟨⟨ad, indexMap, hrun, hrest⟩, ?_⟩
  rintro ⟨ads, indexMap', hrun', hforall⟩
  rw [hrun] at hrun'
  cases hrun'
  have hkept : keptBids manyJoinsReactor (keptResponses manyJoinsReactor [manyJoinsCall]) =
      [("https://buyer.example", { bid := 1, adCost := 0, interestGroupName := "shoes" })] := rfl
  rw [hkept] at hforall
  obtain ⟨⟨input, hinput, hjoins⟩, -⟩ := List.forall₂_cons.mp hforall
  cases hinput
  have hcount := hjoins 0 manyJoinsGroup ⟨rfl, rfl, fun earlier h => absurd h (Nat.not_lt_zero _)⟩
  rw [hrest.2.2] at hcount
  exact absurd hcount (by decide)

end SelectAd.Scoring

end BiddingAuction

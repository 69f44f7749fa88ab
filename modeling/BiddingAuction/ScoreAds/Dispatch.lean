import BiddingAuction.ScoreAds.Reactor
import Mathlib.Data.List.Induction

/-!
# Dispatch of the bids to `scoreAd`

Each bid becomes a dispatch request whose id is its render URL, and is kept in a
map under that id until its score comes back. The bids are taken from the end of
the request. A bid whose id is already in the map of its type is logged as a
conflict and skipped, so of the bids with one URL the last in the request is
sent. The two types have a map each; a score is looked up among the protected
audience ads first.
-/

namespace BiddingAuction

/-- The arguments of `scoreAd`, in the order of `ScoreAdArgs`. -/
structure ScoreAdInput where
  adMetadata : String
  bid : String
  auctionConfig : String
  scoringSignals : String
  bidMetadata : String
  directFromSellerSignals : String
  featureFlags : String
deriving DecidableEq, Repr

structure DispatchRequest where
  id : String
  versionString : String
  handlerName : String
  input : ScoreAdInput
  tags : List (String × String) := []
deriving DecidableEq, Repr

/-! ## Building a request -/

def appendFeatureFlagValue (featureFlags featureName : String) (isFeatureEnabled : Bool) :
    String :=
  featureFlags ++ "\"" ++ featureName ++ "\": " ++ (if isFeatureEnabled then "true" else "false")

def getFeatureFlagJson (enableLogging enableDebugUrlGeneration : Bool) : String :=
  let logging := appendFeatureFlagValue "\x7b" "enable_logging" enableLogging
  appendFeatureFlagValue (logging ++ ",") "enable_debug_url_generation"
    enableDebugUrlGeneration ++ "\x7d"

structure ReportingIdsParamForBidMetadata where
  buyerReportingId : Option String := none
  buyerAndSellerReportingId : Option String := none
  selectedBuyerAndSellerReportingId : Option String := none

/-- A member of a document under construction, when there is a value for it. -/
def member (name : String) (value : Option Json) : List (String × Json) :=
  value.toList.map fun value => (name, value)

def nonEmpty (text : String) : Option Json := if text.isEmpty then none else some (.string text)

/-- `StartMakingBidMetadataJson`: the members so far. -/
def startMakingBidMetadataJson (publisherHostname interestGroupOwner : String)
    (adComponentRenderUrls : List String) (bidCurrency : String) (sellerDataVersion : UInt32)
    (reportingIds : ReportingIdsParamForBidMetadata := {})
    (fdoFlags : Option ForDebuggingOnlyFlags := none) : List (String × Json) :=
  member "interestGroupOwner" (nonEmpty interestGroupOwner) ++
  member "topWindowHostname" (nonEmpty publisherHostname) ++
  member "adComponents" (if adComponentRenderUrls.isEmpty then none
    else some (.array (adComponentRenderUrls.map .string))) ++
  [("bidCurrency", .string (if bidCurrency.isEmpty then "???" else bidCurrency))] ++
  member "dataVersion" (if sellerDataVersion > 0 then some (.number sellerDataVersion.toNat)
    else none) ++
  member "buyerReportingId" (reportingIds.buyerReportingId.map .string) ++
  member "buyerAndSellerReportingId" (reportingIds.buyerAndSellerReportingId.map .string) ++
  member "selectedBuyerAndSellerReportingId"
    (reportingIds.selectedBuyerAndSellerReportingId.map .string) ++
  member "forDebuggingOnlyInCooldownOrLockout"
    (fdoFlags.map fun flags => .bool flags.inCooldownOrLockout)

def makeBidMetadata (lib : Library) (publisherHostname interestGroupOwner renderUrl : String)
    (adComponentRenderUrls : List String) (topLevelSeller bidCurrency : String)
    (sellerDataVersion : UInt32) (reportingIds : ReportingIdsParamForBidMetadata := {})
    (fdoFlags : Option ForDebuggingOnlyFlags := none) : String :=
  let bidMetadataDoc := startMakingBidMetadataJson publisherHostname interestGroupOwner
    adComponentRenderUrls bidCurrency sellerDataVersion reportingIds fdoFlags ++
    member "topLevelSeller" (nonEmpty topLevelSeller) ++ [("renderUrl", .string renderUrl)]
  (lib.serializeJsonDoc (.object bidMetadataDoc)).getD "\x7b\x7d"

/-- The text of an ad's metadata: an object as JSON, where that succeeds, a
string as it is, anything else empty. -/
def adObjectJson (lib : Library) (ad : Json) : Option String :=
  match ad with
  | .object members => lib.messageToJsonString (.object members)
  | .string s => some s
  | _ => some ""

/-- `BuildScoreAdRequest`, for the metadata of either type of ad. -/
def buildScoreAdRequest (lib : Library) (adRenderUrl : String) (ad : Json)
    (scoringSignals : String) (adBid : ℚ) (auctionConfig bidMetadata : String)
    (enableAdtechCodeLogging enableDebugReporting : Bool) (codeVersion : String) :
    Option DispatchRequest := do
  let adMetadataJson ← adObjectJson lib ad
  return {
    id := adRenderUrl
    versionString := codeVersion
    handlerName := "scoreAdEntryFunction"
    input := {
      adMetadata := adMetadataJson
      bid := lib.toString adBid
      auctionConfig := auctionConfig
      scoringSignals := scoringSignals
      bidMetadata := bidMetadata
      directFromSellerSignals := "\x7b\x7d"
      featureFlags := getFeatureFlagJson enableAdtechCodeLogging enableDebugReporting } }

/-! ## Populating the dispatch requests -/

/-- The signals to send for a render URL; none when they are required and missing. -/
def scoringSignalsFor (requireScoringSignalsForScoring : Bool)
    (scoringSignals : Option (FlatHashMap String String)) (render : String) : Option String :=
  match scoringSignals with
  | none => if requireScoringSignalsForScoring then none else some "null"
  | some signals =>
    match signals.lookup render with
    | some text => some text
    | none => if requireScoringSignalsForScoring then none else some "null"

/-- The requests to dispatch and the bids kept under their ids. -/
structure Dispatched (Bid : Type) where
  adData : FlatHashMap String Bid := ∅
  dispatchRequests : List DispatchRequest := []

def dispatchBid {Bid : Type} (build : Bid → Option DispatchRequest) (d : Dispatched Bid)
    (bid : Bid) : Dispatched Bid :=
  match build bid with
  | none => d
  | some request =>
    if request.id ∈ d.adData then d
    else ⟨d.adData.insert request.id bid, d.dispatchRequests ++ [request]⟩

def dispatchBids {Bid : Type} (build : Bid → Option DispatchRequest) (bids : List Bid) :
    Dispatched Bid :=
  bids.reverse.foldl (dispatchBid build) {}

namespace ScoreAdsReactor

variable (r : ScoreAdsReactor) (lib : Library) (enableDebugReporting : Bool)
  (scoringSignals : Option (FlatHashMap String String)) (auctionConfig : String)

/-- `kRomaTimeoutTag` on a request. -/
def withTimeout (request : DispatchRequest) : DispatchRequest :=
  { request with tags := request.tags ++ [("TimeoutDuration", r.romaTimeoutDuration)] }

/-- The request for a protected audience ad, when it can be built. -/
def protectedAudienceRequest (ad : AdWithBidMetadata) : Option DispatchRequest := do
  let scoringSignalsStr ← scoringSignalsFor r.requireScoringSignalsForScoring scoringSignals
    ad.render
  let request ← buildScoreAdRequest lib ad.render ad.ad scoringSignalsStr ad.bid auctionConfig
    (makeBidMetadata lib r.rawRequest.publisherHostname ad.interestGroupOwner ad.render
      ad.adComponents r.rawRequest.topLevelSeller ad.bidCurrency r.rawRequest.sellerDataVersion
      ⟨ad.buyerReportingId, ad.buyerAndSellerReportingId, ad.selectedBuyerAndSellerReportingId⟩
      (some r.rawRequest.fdoFlags))
    r.enableAdtechCodeLogging enableDebugReporting r.codeVersion
  return r.withTimeout request

/-- The request for a protected app signals ad, when it can be built. -/
def protectedAppSignalsRequest (ad : ProtectedAppSignalsAdWithBidMetadata) :
    Option DispatchRequest := do
  let scoringSignalsStr ← scoringSignalsFor r.requireScoringSignalsForScoring scoringSignals
    ad.render
  let request ← buildScoreAdRequest lib ad.render ad.ad scoringSignalsStr ad.bid auctionConfig
    (makeBidMetadata lib r.rawRequest.publisherHostname ad.owner ad.render []
      r.rawRequest.topLevelSeller ad.bidCurrency r.rawRequest.sellerDataVersion)
    r.enableAdtechCodeLogging enableDebugReporting r.codeVersion
  return r.withTimeout request

def populateProtectedAudienceDispatchRequests : Dispatched AdWithBidMetadata :=
  dispatchBids (r.protectedAudienceRequest lib enableDebugReporting scoringSignals auctionConfig)
    r.rawRequest.adBids

/-- The app install bids, discarded when the feature is off. -/
def protectedAppSignalsBids : List ProtectedAppSignalsAdWithBidMetadata :=
  if r.enableProtectedAppSignals then r.rawRequest.protectedAppSignalsAdBids else []

def mayPopulateProtectedAppSignalsDispatchRequests :
    Dispatched ProtectedAppSignalsAdWithBidMetadata :=
  dispatchBids (r.protectedAppSignalsRequest lib enableDebugReporting scoringSignals auctionConfig)
    r.protectedAppSignalsBids

/-- What `Execute` sends to the scoring engine outside top-level auctions, and
the reactor that waits for the scores. -/
def execute : List DispatchRequest × ScoreAdsReactor :=
  let audience := r.populateProtectedAudienceDispatchRequests lib enableDebugReporting
    scoringSignals auctionConfig
  let appSignals := r.mayPopulateProtectedAppSignalsDispatchRequests lib enableDebugReporting
    scoringSignals auctionConfig
  (audience.dispatchRequests ++ appSignals.dispatchRequests,
    { r with
      rawRequest := { r.rawRequest with adBids := [], protectedAppSignalsAdBids := [] }
      adData := audience.adData
      protectedAppSignalsAdData := appSignals.adData })

end ScoreAdsReactor

/-! ## What the loop sends -/

section Loop

variable {Bid : Type} {build : Bid → Option DispatchRequest}

/-- Of the bids with one id the last one is sent, once, and is the one a score
for the id is attributed to. -/
structure SentOnce (build : Bid → Option DispatchRequest) (bids : List Bid)
    (sent : List DispatchRequest) (attributed : String → Bid → Prop) : Prop where
  distinct : (sent.map DispatchRequest.id).Nodup
  built : ∀ request ∈ sent, ∃ bid ∈ bids, build bid = some request
  last : ∀ front bid back request, bids = front ++ bid :: back → build bid = some request →
    (∀ other ∈ back, ∀ request', build other = some request' → request'.id ≠ request.id) →
    request ∈ sent ∧ attributed request.id bid

/-- The state of the loop after the bids `taken`. -/
structure DispatchInv (build : Bid → Option DispatchRequest) (taken : List Bid)
    (d : Dispatched Bid) : Prop where
  keys : ∀ id, id ∈ d.adData ↔ id ∈ d.dispatchRequests.map DispatchRequest.id
  distinct : (d.dispatchRequests.map DispatchRequest.id).Nodup
  built : ∀ request ∈ d.dispatchRequests, ∃ bid ∈ taken, build bid = some request
  first : ∀ front bid back request, taken = front ++ bid :: back → build bid = some request →
    (∀ other ∈ front, ∀ request', build other = some request' → request'.id ≠ request.id) →
    request ∈ d.dispatchRequests ∧ d.adData.lookup request.id = some bid

theorem snoc_eq_split {α : Type} {l front back : List α} {a b : α}
    (h : l ++ [a] = front ++ b :: back) :
    (l = front ∧ a = b ∧ back = []) ∨ ∃ back', back = back' ++ [a] ∧ l = front ++ b :: back' := by
  rcases List.eq_nil_or_concat back with rfl | ⟨back', c, rfl⟩
  · obtain ⟨hl, ha⟩ := List.append_inj' h rfl
    exact .inl ⟨hl, List.singleton_inj.mp ha, rfl⟩
  · rw [List.concat_eq_append, ← List.cons_append, ← List.append_assoc] at h
    obtain ⟨hl, ha⟩ := List.append_inj' h rfl
    obtain rfl := List.singleton_inj.mp ha
    exact .inr ⟨back', List.concat_eq_append, hl⟩

theorem DispatchInv.skip {taken : List Bid} {d : Dispatched Bid} (inv : DispatchInv build taken d)
    {bid : Bid} (hskip : ∀ request, build bid = some request → request.id ∈ d.adData) :
    DispatchInv build (taken ++ [bid]) d := by
  refine ⟨inv.keys, inv.distinct, ?_, ?_⟩
  · intro request hrequest
    obtain ⟨other, hother, hbuild⟩ := inv.built request hrequest
    exact ⟨other, List.mem_append_left _ hother, hbuild⟩
  · intro front b back request hsplit hbuild hfirst
    rcases snoc_eq_split hsplit with ⟨rfl, rfl, rfl⟩ | ⟨back', rfl, htaken⟩
    · obtain ⟨sent, hsent, hid⟩ := List.mem_map.mp ((inv.keys _).mp (hskip request hbuild))
      obtain ⟨other, hother, hbuild'⟩ := inv.built sent hsent
      exact absurd hid (hfirst other hother sent hbuild')
    · exact inv.first front b back' request htaken hbuild hfirst

theorem DispatchInv.send {taken : List Bid} {d : Dispatched Bid} (inv : DispatchInv build taken d)
    {bid : Bid} {request : DispatchRequest} (hbuild : build bid = some request)
    (hnew : request.id ∉ d.adData) :
    DispatchInv build (taken ++ [bid])
      ⟨d.adData.insert request.id bid, d.dispatchRequests ++ [request]⟩ := by
  have hfresh : request.id ∉ d.dispatchRequests.map DispatchRequest.id :=
    fun h => hnew ((inv.keys _).mpr h)
  refine ⟨?_, ?_, ?_, ?_⟩
  · intro id
    simp [AList.mem_insert, inv.keys, or_comm]
  · show (List.map _ (_ ++ _)).Nodup
    rw [List.map_append, List.nodup_append]
    refine ⟨inv.distinct, List.nodup_singleton _, ?_⟩
    rintro id hid _ hself rfl
    exact hfresh (List.mem_singleton.mp hself ▸ hid)
  · intro sent hsent
    rcases List.mem_append.mp hsent with hsent | hself
    · obtain ⟨other, hother, hbuild'⟩ := inv.built sent hsent
      exact ⟨other, List.mem_append_left _ hother, hbuild'⟩
    · exact ⟨bid, by simp, List.mem_singleton.mp hself ▸ hbuild⟩
  · intro front b back request' hsplit hbuild' hfirst
    rcases snoc_eq_split hsplit with ⟨rfl, rfl, rfl⟩ | ⟨back', rfl, htaken⟩
    · obtain rfl : request = request' := Option.some.inj (hbuild.symm.trans hbuild')
      exact ⟨by simp, AList.lookup_insert _⟩
    · obtain ⟨hsent, hlookup⟩ := inv.first front b back' request' htaken hbuild' hfirst
      refine ⟨List.mem_append_left _ hsent, ?_⟩
      -- an id already sent is not the new one
      show (d.adData.insert request.id bid).lookup request'.id = some b
      rw [AList.lookup_insert_ne, hlookup]
      rintro heq
      exact hfresh (heq ▸ List.mem_map_of_mem hsent)

theorem DispatchInv.step {taken : List Bid} {d : Dispatched Bid} (inv : DispatchInv build taken d)
    (bid : Bid) : DispatchInv build (taken ++ [bid]) (dispatchBid build d bid) := by
  unfold dispatchBid
  split
  · rename_i hnone
    exact inv.skip fun request h => by simp [hnone] at h
  · rename_i request hbuild
    split
    · rename_i hmem
      refine inv.skip fun request' h => ?_
      obtain rfl : request = request' := Option.some.inj (hbuild.symm.trans h)
      exact hmem
    · rename_i hnew
      exact inv.send hbuild hnew

theorem dispatchInv_foldl (build : Bid → Option DispatchRequest) (taken : List Bid) :
    DispatchInv build taken (taken.foldl (dispatchBid build) {}) := by
  induction taken using List.reverseRecOn with
  | nil =>
    refine ⟨fun id => ?_, List.nodup_nil, by simp, by simp⟩
    simp [AList.notMem_empty]
  | append_singleton taken bid ih =>
    rw [List.foldl_append]
    exact ih.step bid

theorem dispatchBids_sentOnce (build : Bid → Option DispatchRequest) (bids : List Bid) :
    SentOnce build bids (dispatchBids build bids).dispatchRequests
      fun id bid => (dispatchBids build bids).adData.lookup id = some bid := by
  have inv := dispatchInv_foldl build bids.reverse
  refine ⟨inv.distinct, ?_, ?_⟩
  · intro request hrequest
    obtain ⟨bid, hbid, hbuild⟩ := inv.built request hrequest
    exact ⟨bid, List.mem_reverse.mp hbid, hbuild⟩
  · intro front bid back request hsplit hbuild hlast
    refine inv.first back.reverse bid front.reverse request ?_ hbuild ?_
    · rw [hsplit]
      simp
    · intro other hother
      exact hlast other (List.mem_reverse.mp hother)

theorem lookup_dispatchBids_eq_none {bids : List Bid} {id : String}
    (h : id ∉ (dispatchBids build bids).dispatchRequests.map DispatchRequest.id) :
    (dispatchBids build bids).adData.lookup id = none := by
  have inv := dispatchInv_foldl build bids.reverse
  exact AList.lookup_eq_none.mpr fun hmem => h ((inv.keys id).mp hmem)

end Loop

/-! ## Bids, requests and scores -/

namespace ScoreAdsReactor

variable (r : ScoreAdsReactor) (lib : Library) (enableDebugReporting : Bool)
  (scoringSignals : Option (FlatHashMap String String)) (auctionConfig : String)

/-- Every bid with a request is sent once and gets its own score. -/
def EveryBidSent : Prop :=
  let sent := (r.execute lib enableDebugReporting scoringSignals auctionConfig).1
  let waiting := (r.execute lib enableDebugReporting scoringSignals auctionConfig).2
  let audience := r.protectedAudienceRequest lib enableDebugReporting scoringSignals auctionConfig
  let appSignals := r.protectedAppSignalsRequest lib enableDebugReporting scoringSignals
    auctionConfig
  sent.Perm (r.rawRequest.adBids.filterMap audience ++
    r.protectedAppSignalsBids.filterMap appSignals) ∧
  (∀ ad ∈ r.rawRequest.adBids, ∀ request, audience ad = some request →
    waiting.findScoredAdType request.id = some (.protectedAudience ad)) ∧
  ∀ ad ∈ r.protectedAppSignalsBids, ∀ request, appSignals ad = some request →
    waiting.findScoredAdType request.id = some (.protectedAppSignals ad)

theorem protectedAudienceRequest_id {r : ScoreAdsReactor} {ad : AdWithBidMetadata}
    {request : DispatchRequest}
    (h : r.protectedAudienceRequest lib enableDebugReporting scoringSignals auctionConfig ad =
      some request) : request.id = ad.render := by
  simp only [protectedAudienceRequest, buildScoreAdRequest, Option.bind_eq_bind,
    Option.bind_eq_some_iff] at h
  obtain ⟨_, -, _, ⟨_, -, hbuild⟩, h⟩ := h
  cases hbuild
  cases h
  rfl

theorem protectedAppSignalsRequest_id {r : ScoreAdsReactor}
    {ad : ProtectedAppSignalsAdWithBidMetadata} {request : DispatchRequest}
    (h : r.protectedAppSignalsRequest lib enableDebugReporting scoringSignals auctionConfig ad =
      some request) : request.id = ad.render := by
  simp only [protectedAppSignalsRequest, buildScoreAdRequest, Option.bind_eq_bind,
    Option.bind_eq_some_iff] at h
  obtain ⟨_, -, _, ⟨_, -, hbuild⟩, h⟩ := h
  cases hbuild
  cases h
  rfl

/-- Per type of ad and render URL, the last bid with a request is sent, once; its
score is its own, unless a protected audience ad was sent with the URL of a
protected app signals ad. -/
theorem execute_sends_last_bid_of_each_url :
    ∃ audience appSignals : List DispatchRequest,
      (r.execute lib enableDebugReporting scoringSignals auctionConfig).1 =
        audience ++ appSignals ∧
      SentOnce (r.protectedAudienceRequest lib enableDebugReporting scoringSignals auctionConfig)
        r.rawRequest.adBids audience (fun url ad =>
          url = ad.render ∧
          (r.execute lib enableDebugReporting scoringSignals auctionConfig).2.findScoredAdType url =
            some (.protectedAudience ad)) ∧
      SentOnce (r.protectedAppSignalsRequest lib enableDebugReporting scoringSignals auctionConfig)
        r.protectedAppSignalsBids appSignals (fun url ad =>
          url = ad.render ∧ (url ∉ audience.map DispatchRequest.id →
          (r.execute lib enableDebugReporting scoringSignals auctionConfig).2.findScoredAdType url =
            some (.protectedAppSignals ad))) := by
  refine ⟨_, _, rfl, ?_, ?_⟩
  · have sent := dispatchBids_sentOnce
      (r.protectedAudienceRequest lib enableDebugReporting scoringSignals auctionConfig)
      r.rawRequest.adBids
    refine ⟨sent.distinct, sent.built, ?_⟩
    intro front bid back request hsplit hbuild hlast
    obtain ⟨hsent, hlookup⟩ := sent.last front bid back request hsplit hbuild hlast
    exact ⟨hsent, protectedAudienceRequest_id _ _ _ _ hbuild, findScoredAdType_of_ad hlookup⟩
  · have sent := dispatchBids_sentOnce
      (r.protectedAppSignalsRequest lib enableDebugReporting scoringSignals auctionConfig)
      r.protectedAppSignalsBids
    refine ⟨sent.distinct, sent.built, ?_⟩
    intro front bid back request hsplit hbuild hlast
    obtain ⟨hsent, hlookup⟩ := sent.last front bid back request hsplit hbuild hlast
    refine ⟨hsent, protectedAppSignalsRequest_id _ _ _ _ hbuild, fun hurl => ?_⟩
    exact findScoredAdType_of_appAd (lookup_dispatchBids_eq_none hurl) hlookup

/-- Two buyers bid with one render URL: only the second bid is sent. -/
theorem everyBidSent_fails_on_shared_url :
    ¬ EveryBidSent
      { rawRequest :=
          { adBids :=
              [{ render := "https://ad.example", interestGroupOwner := "a", bid := 1 },
                { render := "https://ad.example", interestGroupOwner := "b", bid := 2 }] } }
      ⟨fun _ => none, fun _ => none, fun _ => none, fun _ => "", id⟩ false none "" := by
  rintro ⟨hperm, -⟩
  exact absurd hperm.length_eq (by decide)

end ScoreAdsReactor

end BiddingAuction

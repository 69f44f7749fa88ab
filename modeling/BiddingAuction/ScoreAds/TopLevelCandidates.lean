import BiddingAuction.ScoreAds.TopLevel
import BiddingAuction.ScoreAds.Winner

/-!
# The candidates of a top-level auction

Five maps are filled under the render URL of a candidate: the ads of either type,
the component sellers, the join candidates and the reporting data. The URL of a
winner is taken once. Where a winner is dispatched its entries are its own, but
for a join candidate that a ghost winner of the other type has put there before.
-/

namespace BiddingAuction

/-! ## The response -/

/-- Reporting URLs put over others; an event that is there keeps its URL. -/
def putReportingUrls (urls added : ReportingUrls) : ReportingUrls where
  reportingUrl := added.reportingUrl
  interactionReportingUrls := added.interactionReportingUrls.entries.foldl
    (fun m entry => FlatHashMap.emplace m entry.1 entry.2) urls.interactionReportingUrls

namespace ScoreAdsReactor

def populateComponentReportingUrlsInTopLevelResponse (r : ScoreAdsReactor) (dispatchId : String)
    (adScore : AdScore ℚ) : AdScore ℚ :=
  match r.componentLevelReportingData.lookup dispatchId with
  | none => adScore
  | some data =>
    let urls := adScore.winReportingUrls
    { adScore with winReportingUrls := { urls with
        componentSellerReportingUrls := some (putReportingUrls
          (urls.componentSellerReportingUrls.getD {}) data.componentSellerReportingUrls)
        buyerReportingUrls := some (putReportingUrls
          (urls.buyerReportingUrls.getD {}) data.buyerReportingUrls) } }

/-- The reporting ids set by `DispatchReportResultRequestForTopLevelAuction`. -/
def setReportingIdsForTopLevelAuction (r : ScoreAdsReactor) (dispatchId : String)
    (adScore : AdScore ℚ) : AdScore ℚ :=
  match r.componentLevelReportingData.lookup dispatchId with
  | none => adScore
  | some data =>
    { adScore with
      buyerReportingId := some data.buyerReportingId
      buyerAndSellerReportingId := some data.buyerAndSellerReportingId }

def setSellerReportingUrlsInResponse (reportResult : ReportingUrls) (adScore : AdScore ℚ) :
    AdScore ℚ :=
  { adScore with winReportingUrls := { adScore.winReportingUrls with
      topLevelSellerReportingUrls := some (putReportingUrls
        (adScore.winReportingUrls.topLevelSellerReportingUrls.getD {}) reportResult) } }

/-- What the reporting of a top-level auction does to the winning score, with what
`reportResult` returned; only with separate code does it touch the reporting ids. -/
def reportWinForTopLevelAuction (r : ScoreAdsReactor) (winnerId : String)
    (reportResult : Option ReportingUrls) (adScore : AdScore ℚ) : AdScore ℚ :=
  let adScore := r.populateComponentReportingUrlsInTopLevelResponse winnerId adScore
  if !r.enableReportResultUrlGeneration then adScore
  else
    let adScore := if r.enableSellerAndBuyerCodeIsolation && (r.findScoredAdType winnerId).isSome
      then r.setReportingIdsForTopLevelAuction winnerId adScore else adScore
    match reportResult with
    | none => adScore
    | some reportResult => setSellerReportingUrlsInResponse reportResult adScore

/-- The winning score in the response of a top-level auction. -/
def topLevelAdScore (r : ScoreAdsReactor) (lib : Library) (ch : Choices)
    (responses : List RomaResponse) (reportResult : Option ReportingUrls) : Option (AdScore ℚ) := do
  let served ← r.scoreAdsCallback lib ch responses
  let adScore ← served.adScore
  let winnerId ← served.reportingId
  return r.reportWinForTopLevelAuction winnerId reportResult adScore

/-! ## What is dispatched -/

def withoutCandidates (r : ScoreAdsReactor) : ScoreAdsReactor :=
  { r with
    adData := ∅
    protectedAppSignalsAdData := ∅
    adKAnonJoinCand := ∅
    componentAdSeller := ∅
    componentLevelReportingData := ∅ }

def forTopLevelAuction (r : ScoreAdsReactor) : ScoreAdsReactor :=
  { r with auctionScope := .serverTopLevelSeller }.withoutCandidates

end ScoreAdsReactor

/-- The result is neither chaff nor without a component seller. -/
def isConsidered (result : AuctionResult ℚ) : Bool :=
  !(result.isChaff || result.auctionParams.componentSeller.isEmpty)

def hasKnownWinner (result : AuctionResult ℚ) : Bool :=
  isConsidered result && !result.adRenderUrl.isEmpty && result.adType != .unknown

def adOfType (adType : AdType) (ad : AdWithBidMetadata)
    (appAd : ProtectedAppSignalsAdWithBidMetadata) : Option ScoredAdType :=
  match adType with
  | .protectedAudienceAd => some (.protectedAudience ad)
  | .protectedAppSignalsAd => some (.protectedAppSignals appAd)
  | .unknown => none

def winnerAd (winner : ComponentWinner ℚ) : Option ScoredAdType :=
  adOfType winner.adType (mapAuctionResultToAdWithBidMetadata winner)
    (mapAuctionResultToProtectedAppSignalsAdWithBidMetadata winner)

/-- The ads with a URL that a result brings in as ghost winners. -/
def hasGhost (result : AuctionResult ℚ) (adType : AdType) (adRenderUrl : String) : Prop :=
  isConsidered result = true ∧
    ∃ ghost ∈ componentGhostWinners result, ghost.adType = adType ∧ ghost.adRenderUrl = adRenderUrl

namespace ScoreAdsReactor

section Requests

variable (r : ScoreAdsReactor) (lib : Library) (enableDebugReporting : Bool)
  (auctionConfig : String)

def winnerRequest (result : AuctionResult ℚ) : DispatchRequest :=
  let winner := componentWinner result
  r.withTimeout {
    id := winner.adRenderUrl
    versionString := r.codeVersion
    handlerName := "scoreAdEntryFunction"
    input := {
      adMetadata := winner.adMetadata
      bid := lib.toString winner.bid
      auctionConfig := auctionConfig
      scoringSignals := "\x7b\x7d"
      bidMetadata := makeBidMetadataForTopLevelAuction lib r.rawRequest.publisherHostname
        winner.interestGroupOwner winner.adRenderUrl winner.adComponentRenderUrls
        winner.reportingData.componentSeller winner.bidCurrency r.rawRequest.sellerDataVersion
      directFromSellerSignals := "\x7b\x7d"
      featureFlags := getFeatureFlagJson r.enableAdtechCodeLogging enableDebugReporting } }

/-- Whatever is dispatched is dispatched for the winners, once for each, or for ghost winners. -/
def DispatchedFor (results winners : List (AuctionResult ℚ)) (t : TopLevelRequests) : Prop :=
  ∃ ghostRequests, t.dispatchRequests.Perm
      (winners.map (r.winnerRequest lib enableDebugReporting auctionConfig) ++ ghostRequests) ∧
    ∀ request ∈ ghostRequests, ∃ result ∈ results, ∃ adType, hasGhost result adType request.id

variable {r lib enableDebugReporting auctionConfig}
variable {results results' winners : List (AuctionResult ℚ)} {t t' : TopLevelRequests}

theorem DispatchedFor.mono (hresults : results ⊆ results')
    (h : r.DispatchedFor lib enableDebugReporting auctionConfig results winners t) :
    r.DispatchedFor lib enableDebugReporting auctionConfig results' winners t := by
  obtain ⟨ghosts, hperm, hghosts⟩ := h
  refine ⟨ghosts, hperm, fun request hrequest => ?_⟩
  obtain ⟨result, hmem, hghost⟩ := hghosts request hrequest
  exact ⟨result, hresults hmem, hghost⟩

theorem DispatchedFor.winner
    (h : r.DispatchedFor lib enableDebugReporting auctionConfig results winners t)
    {result : AuctionResult ℚ} (ht' : t'.dispatchRequests =
      t.dispatchRequests ++ [r.winnerRequest lib enableDebugReporting auctionConfig result]) :
    r.DispatchedFor lib enableDebugReporting auctionConfig results (winners ++ [result]) t' := by
  obtain ⟨ghosts, hperm, hghosts⟩ := h
  refine ⟨ghosts, ?_, hghosts⟩
  rw [ht', List.map_append, List.map_singleton, List.append_assoc]
  refine (hperm.append_right _).trans ?_
  rw [List.append_assoc]
  exact List.perm_append_comm.append_left _

theorem DispatchedFor.ghost
    (h : r.DispatchedFor lib enableDebugReporting auctionConfig results winners t)
    {request : DispatchRequest}
    (ht' : t'.dispatchRequests = t.dispatchRequests ++ [request]) {result : AuctionResult ℚ}
    (hmem : result ∈ results) {adType : AdType} (hghost : hasGhost result adType request.id) :
    r.DispatchedFor lib enableDebugReporting auctionConfig results winners t' := by
  obtain ⟨ghosts, hperm, hghosts⟩ := h
  refine ⟨ghosts ++ [request], ?_, fun request' hrequest' => ?_⟩
  · rw [ht', ← List.append_assoc]
    exact hperm.append_right _
  · rcases List.mem_append.mp hrequest' with hrequest' | hrequest'
    · exact hghosts request' hrequest'
    · obtain rfl := List.mem_singleton.mp hrequest'
      exact ⟨result, hmem, adType, hghost⟩

end Requests

/-! ## The ads kept -/

def storedAd (r : ScoreAdsReactor) (adType : AdType) (id : String) : Option ScoredAdType :=
  match adType with
  | .protectedAudienceAd => (r.adData.lookup id).map .protectedAudience
  | .protectedAppSignalsAd => (r.protectedAppSignalsAdData.lookup id).map .protectedAppSignals
  | .unknown => none

theorem findScoredAdType_stored {r : ScoreAdsReactor} {id : String} {ad : ScoredAdType}
    (h : r.findScoredAdType id = some ad) : ∃ adType, r.storedAd adType id = some ad := by
  unfold findScoredAdType at h
  cases hlookup : r.adData.lookup id with
  | some found =>
    rw [hlookup] at h
    exact ⟨.protectedAudienceAd, by rw [storedAd, hlookup]; exact h⟩
  | none =>
    rw [hlookup] at h
    exact ⟨.protectedAppSignalsAd, h⟩

/-- The maps of the ads are written, and nothing else. -/
structure KeepsAd (r r' : ScoreAdsReactor) (id : String) (adType : AdType) (ad : ScoredAdType) :
    Prop where
  settings : r'.withoutCandidates = r.withoutCandidates
  joinCand : r'.adKAnonJoinCand = r.adKAnonJoinCand
  seller : r'.componentAdSeller = r.componentAdSeller
  reporting : r'.componentLevelReportingData = r.componentLevelReportingData
  stored : ∀ adType' id', r'.storedAd adType' id' =
    if adType' = adType ∧ id' = id then some ad else r.storedAd adType' id'

variable {r r' : ScoreAdsReactor} {id : String} {adType : AdType} {ad : AdWithBidMetadata}
  {appAd : ProtectedAppSignalsAdWithBidMetadata}

theorem keepAd_some (h : r.keepAd id adType ad appAd = some r') :
    r.storedAd adType id = none ∧ ∃ stored, adOfType adType ad appAd = some stored ∧
      KeepsAd r r' id adType stored := by
  unfold keepAd at h
  cases adType with
  | protectedAudienceAd =>
    dsimp only at h
    split at h
    · cases h
    · rename_i hnot
      cases h
      refine ⟨by simp [storedAd, AList.lookup_eq_none.mpr hnot], _, rfl, rfl, rfl, rfl, rfl, ?_⟩
      intro adType' id'
      by_cases hid : id' = id
      · subst hid
        cases adType' <;> simp [storedAd, AList.lookup_insert]
      · cases adType' <;> simp [storedAd, AList.lookup_insert_ne hid, hid]
  | protectedAppSignalsAd =>
    dsimp only at h
    split at h
    · cases h
    · rename_i hnot
      cases h
      refine ⟨by simp [storedAd, AList.lookup_eq_none.mpr hnot], _, rfl, rfl, rfl, rfl, rfl, ?_⟩
      intro adType' id'
      by_cases hid : id' = id
      · subst hid
        cases adType' <;> simp [storedAd, AList.lookup_insert]
      · cases adType' <;> simp [storedAd, AList.lookup_insert_ne hid, hid]
  | unknown => cases h

theorem known_of_adOfType {stored : ScoredAdType} (h : adOfType adType ad appAd = some stored) :
    adType ≠ .unknown := by
  rintro rfl
  cases h

theorem KeepsAd.withTimeout_eq {stored : ScoredAdType} (h : KeepsAd r r' id adType stored)
    (request : DispatchRequest) : r'.withTimeout request = r.withTimeout request := by
  have htimeout : r'.romaTimeoutDuration = r.romaTimeoutDuration :=
    (congrArg ScoreAdsReactor.romaTimeoutDuration h.settings :)
  unfold withTimeout
  rw [htimeout]

theorem keepAd_none (h : r.keepAd id adType ad appAd = none) (hknown : adType ≠ .unknown) :
    ∃ stored, r.storedAd adType id = some stored := by
  unfold keepAd at h
  cases adType with
  | protectedAudienceAd =>
    dsimp only at h
    split at h
    · rename_i hmem
      obtain ⟨found, hfound⟩ := Option.isSome_iff_exists.mp (AList.lookup_isSome.mpr hmem)
      exact ⟨_, by rw [storedAd, hfound]; rfl⟩
    · cases h
  | protectedAppSignalsAd =>
    dsimp only at h
    split at h
    · rename_i hmem
      obtain ⟨found, hfound⟩ := Option.isSome_iff_exists.mp (AList.lookup_isSome.mpr hmem)
      exact ⟨_, by rw [storedAd, hfound]; rfl⟩
    · cases h
  | unknown => exact absurd rfl hknown

/-! ## The loop over the results -/

/-- No result has the URL of the winner for its own, or a ghost winner of its type. -/
def Unshared (enforceKanon : Bool) (before : List (AuctionResult ℚ)) (result : AuctionResult ℚ) :
    Prop :=
  (∀ other ∈ before, isConsidered other = true → other.adRenderUrl ≠ result.adRenderUrl) ∧
    (enforceKanon = true → ∀ other ∈ before, ¬ hasGhost other result.adType result.adRenderUrl)

section Loop

variable {lib : Library} {enableDebugReporting : Bool} {auctionConfig : String}

/-- The entries under the URL of a winner are its own; the join candidate is, unless
a ghost winner has the URL too. -/
structure OwnEntries (r : ScoreAdsReactor) (results : List (AuctionResult ℚ))
    (result : AuctionResult ℚ) : Prop where
  reporting : r.componentLevelReportingData.lookup result.adRenderUrl =
    some (componentWinner result).reportingData
  seller : r.componentAdSeller.lookup result.adRenderUrl =
    some result.auctionParams.componentSeller
  joinCand : (∀ other ∈ results, ∀ adType, ¬ hasGhost other adType result.adRenderUrl) →
    r.adKAnonJoinCand.lookup result.adRenderUrl =
      some (componentWinner result).kAnonJoinCandidate

/-- An ad is kept for a winner, or for a ghost winner where k-anonymity is enforced. -/
def KeptFor (enforceKanon : Bool) (results winners : List (AuctionResult ℚ)) (adType : AdType)
    (id : String) (ad : ScoredAdType) : Prop :=
  (∃ result ∈ winners, result.adType = adType ∧ result.adRenderUrl = id ∧
    winnerAd (componentWinner result) = some ad) ∨
  (enforceKanon = true ∧ (getScoringDataFromAd ad).kAnonStatus = false ∧
    ∃ result ∈ results, hasGhost result adType id)

variable (r lib enableDebugReporting auctionConfig) in
/-- The loop after the results `done`, of which `winners` were dispatched. -/
structure CandidatesInv (done winners : List (AuctionResult ℚ)) (t : TopLevelRequests) : Prop where
  settings : t.reactor.withoutCandidates = r.forTopLevelAuction
  sublist : winners.Sublist (done.filter hasKnownWinner)
  distinct : (winners.map AuctionResult.adRenderUrl).Nodup
  dispatched : r.forTopLevelAuction.DispatchedFor lib enableDebugReporting auctionConfig done
    winners t
  unshared : ∀ before result after, done = before ++ result :: after →
    hasKnownWinner result = true →
    Unshared r.enableEnforceKanon before result → result ∈ winners
  taken : ∀ id ∈ t.reactor.componentLevelReportingData, ∃ result ∈ done,
    isConsidered result = true ∧ result.adRenderUrl = id
  sellers : ∀ id ∈ t.reactor.componentAdSeller, id ∈ t.reactor.componentLevelReportingData
  own : ∀ result ∈ winners, OwnEntries t.reactor done result
  stored : ∀ adType id ad, t.reactor.storedAd adType id = some ad →
    KeptFor r.enableEnforceKanon done winners adType id ad
  joined : ∀ id ∈ t.reactor.adKAnonJoinCand, (∃ result ∈ winners, result.adRenderUrl = id) ∨
    ∃ result ∈ done, ∃ adType, hasGhost result adType id

variable {done winners : List (AuctionResult ℚ)} {t : TopLevelRequests}
  {result : AuctionResult ℚ}

theorem KeptFor.mono {enforceKanon : Bool} {winners' results results' : List (AuctionResult ℚ)}
    {adType : AdType} {id : String} {ad : ScoredAdType} (hwinners : winners ⊆ winners')
    (hresults : results ⊆ results')
    (h : KeptFor enforceKanon results winners adType id ad) :
    KeptFor enforceKanon results' winners' adType id ad := by
  rcases h with ⟨result, hmem, h⟩ | ⟨henforce, hk, result, hmem, h⟩
  · exact .inl ⟨result, hwinners hmem, h⟩
  · exact .inr ⟨henforce, hk, result, hresults hmem, h⟩

theorem OwnEntries.mono {results results' : List (AuctionResult ℚ)} {r : ScoreAdsReactor}
    (hresults : results ⊆ results') (h : OwnEntries r results result) :
    OwnEntries r results' result where
  reporting := h.reporting
  seller := h.seller
  joinCand := fun hnone => h.joinCand fun other hother => hnone other (hresults hother)

/-- The entries of a result are added, where there are none. -/
structure AddsEntries (r r' : ScoreAdsReactor) (result : AuctionResult ℚ) : Prop where
  reporting : r'.componentLevelReportingData = r.componentLevelReportingData.insert
    result.adRenderUrl (componentWinner result).reportingData
  seller : r'.componentAdSeller = FlatHashMap.emplace r.componentAdSeller result.adRenderUrl
    result.auctionParams.componentSeller
  joinCand : r'.adKAnonJoinCand = FlatHashMap.emplace r.adKAnonJoinCand result.adRenderUrl
    (componentWinner result).kAnonJoinCandidate

theorem AddsEntries.others {r r' : ScoreAdsReactor} (h : AddsEntries r r' result)
    {results : List (AuctionResult ℚ)} {result' : AuctionResult ℚ}
    (hne : result'.adRenderUrl ≠ result.adRenderUrl) (hown : OwnEntries r results result') :
    OwnEntries r' results result' where
  reporting := by
    rw [h.reporting, AList.lookup_insert_ne hne]
    exact hown.reporting
  seller := by
    rw [h.seller, FlatHashMap.lookup_emplace_ne hne]
    exact hown.seller
  joinCand := by
    intro hnone
    rw [h.joinCand, FlatHashMap.lookup_emplace_ne hne]
    exact hown.joinCand hnone

theorem AddsEntries.own {r r' : ScoreAdsReactor} (h : AddsEntries r r' result)
    {results : List (AuctionResult ℚ)} (hseller : result.adRenderUrl ∉ r.componentAdSeller)
    (hjoin : (∀ other ∈ results, ∀ adType, ¬ hasGhost other adType result.adRenderUrl) →
      result.adRenderUrl ∉ r.adKAnonJoinCand) : OwnEntries r' results result where
  reporting := by
    rw [h.reporting, AList.lookup_insert]
  seller := by
    rw [h.seller, FlatHashMap.lookup_emplace_of_notMem hseller]
  joinCand := by
    intro hnone
    rw [h.joinCand, FlatHashMap.lookup_emplace_of_notMem (hjoin hnone)]

theorem eq_or_exists_of_concat_eq {α : Type} {l before after : List α} {last a : α}
    (h : l ++ [last] = before ++ a :: after) :
    before = l ∧ a = last ∨ ∃ between, l = before ++ a :: between := by
  rcases List.eq_nil_or_concat after with rfl | ⟨between, last', rfl⟩
  · obtain ⟨rfl, hlast⟩ := List.append_inj' h rfl
    cases hlast
    exact .inl ⟨rfl, rfl⟩
  · have hconcat : l ++ [last] = (before ++ a :: between) ++ [last'] := by
      rw [h, List.concat_eq_append, List.append_assoc, List.cons_append]
    exact .inr ⟨between, (List.append_inj' hconcat rfl).1⟩

theorem CandidatesInv.taken_of_winner
    (inv : CandidatesInv r lib enableDebugReporting auctionConfig done winners t)
    (hmem : result ∈ winners) : result.adRenderUrl ∈ t.reactor.componentLevelReportingData :=
  AList.lookup_isSome.mp (by rw [(inv.own result hmem).reporting]; rfl)

theorem CandidatesInv.pass
    (inv : CandidatesInv r lib enableDebugReporting auctionConfig done winners t)
    (hnot : hasKnownWinner result = true → ¬ Unshared r.enableEnforceKanon done result) :
    CandidatesInv r lib enableDebugReporting auctionConfig (done ++ [result]) winners t where
  settings := inv.settings
  sublist := by
    rw [List.filter_append]
    exact inv.sublist.trans (List.sublist_append_left _ _)
  distinct := inv.distinct
  dispatched := inv.dispatched.mono (List.subset_append_left _ _)
  unshared := by
    intro before result' after hsplit hwinner hunshared
    rcases eq_or_exists_of_concat_eq hsplit with ⟨rfl, rfl⟩ | ⟨between, hdone⟩
    · exact absurd hunshared (hnot hwinner)
    · exact inv.unshared before result' between hdone hwinner hunshared
  taken := by
    intro id hid
    obtain ⟨result', hmem, h⟩ := inv.taken id hid
    exact ⟨result', List.mem_append_left _ hmem, h⟩
  sellers := inv.sellers
  own := fun result' hmem => (inv.own result' hmem).mono (List.subset_append_left _ _)
  stored := fun adType id ad h =>
    (inv.stored adType id ad h).mono (List.Subset.refl _) (List.subset_append_left _ _)
  joined := by
    intro id hid
    rcases inv.joined id hid with h | ⟨result', hmem, h⟩
    · exact .inl h
    · exact .inr ⟨result', List.mem_append_left _ hmem, h⟩

theorem CandidatesInv.take
    (inv : CandidatesInv r lib enableDebugReporting auctionConfig done winners t)
    (hmem : result ∈ done) (hconsidered : isConsidered result = true)
    (hfree : result.adRenderUrl ∉ t.reactor.componentLevelReportingData)
    (data : ComponentReportingDataInAuctionResult) :
    CandidatesInv r lib enableDebugReporting auctionConfig done winners
      { t with reactor := { t.reactor with
          componentLevelReportingData :=
            t.reactor.componentLevelReportingData.insert result.adRenderUrl data } } where
  settings := inv.settings
  sublist := inv.sublist
  distinct := inv.distinct
  dispatched := inv.dispatched
  unshared := inv.unshared
  taken := by
    intro id hid
    rcases (AList.mem_insert _).mp hid with rfl | hid
    · exact ⟨result, hmem, hconsidered, rfl⟩
    · exact inv.taken id hid
  sellers := fun id hid => (AList.mem_insert _).mpr (.inr (inv.sellers id hid))
  own := by
    intro result' hmem'
    have hne : result'.adRenderUrl ≠ result.adRenderUrl := by
      intro heq
      exact hfree (heq ▸ inv.taken_of_winner hmem')
    obtain ⟨hreporting, hseller, hjoin⟩ := inv.own result' hmem'
    exact ⟨by rw [AList.lookup_insert_ne hne, hreporting], hseller, hjoin⟩
  stored := inv.stored
  joined := inv.joined

theorem CandidatesInv.dispatch
    (inv : CandidatesInv r lib enableDebugReporting auctionConfig done winners t)
    (hwinner : hasKnownWinner result = true)
    (hfree : result.adRenderUrl ∉ t.reactor.componentLevelReportingData)
    {kept : ScoreAdsReactor} {ad : ScoredAdType} (had : winnerAd (componentWinner result) = some ad)
    (hkept : KeepsAd { t.reactor with
        componentLevelReportingData := t.reactor.componentLevelReportingData.insert
          result.adRenderUrl (componentWinner result).reportingData }
      kept result.adRenderUrl result.adType ad)
    {request : DispatchRequest}
    (hrequest : request = r.forTopLevelAuction.winnerRequest lib enableDebugReporting
      auctionConfig result) :
    CandidatesInv r lib enableDebugReporting auctionConfig (done ++ [result]) (winners ++ [result])
      { t with
        reactor := { kept with
          componentAdSeller := FlatHashMap.emplace kept.componentAdSeller result.adRenderUrl
            result.auctionParams.componentSeller
          adKAnonJoinCand := FlatHashMap.emplace kept.adKAnonJoinCand result.adRenderUrl
            (componentWinner result).kAnonJoinCandidate }
        dispatchRequests := t.dispatchRequests ++ [request] } := by
  obtain ⟨hsettings, hjoinCand, hsellers, hreporting, hstored⟩ := hkept
  have hconsidered : isConsidered result = true := by
    simp only [hasKnownWinner, Bool.and_eq_true] at hwinner
    exact hwinner.1.1
  have hnew : ∀ result' ∈ winners, result'.adRenderUrl ≠ result.adRenderUrl := by
    intro result' hmem heq
    exact hfree (heq ▸ inv.taken_of_winner hmem)
  have hsellerFree : result.adRenderUrl ∉ t.reactor.componentAdSeller :=
    fun hmem => hfree (inv.sellers _ hmem)
  have hadds : AddsEntries t.reactor { kept with
      componentAdSeller := FlatHashMap.emplace kept.componentAdSeller result.adRenderUrl
        result.auctionParams.componentSeller
      adKAnonJoinCand := FlatHashMap.emplace kept.adKAnonJoinCand result.adRenderUrl
        (componentWinner result).kAnonJoinCandidate } result := by
    refine ⟨hreporting, ?_, ?_⟩
    · rw [← hsellers]
    · rw [← hjoinCand]
  refine
    { settings := hsettings.trans inv.settings
      sublist := ?_, distinct := ?_, dispatched := ?_, unshared := ?_, taken := ?_
      sellers := ?_, own := ?_, stored := ?_, joined := ?_ }
  · rw [List.filter_append, List.filter_cons_of_pos hwinner, List.filter_nil]
    exact inv.sublist.append_right _
  · rw [List.map_append, List.map_singleton, List.nodup_append]
    refine ⟨inv.distinct, List.nodup_singleton _, fun id hid id' hid' heq => ?_⟩
    obtain ⟨result', hmem, rfl⟩ := List.mem_map.mp hid
    obtain rfl := List.mem_singleton.mp hid'
    exact hnew result' hmem heq
  · exact (inv.dispatched.mono (List.subset_append_left _ _)).winner
      (congrArg (t.dispatchRequests ++ [·]) hrequest)
  · intro before result' after hsplit hwinner' hunshared
    rcases eq_or_exists_of_concat_eq hsplit with ⟨rfl, rfl⟩ | ⟨between, hdone⟩
    · exact List.mem_append_right _ List.mem_cons_self
    · exact List.mem_append_left _
        (inv.unshared before result' between hdone hwinner' hunshared)
  · intro id hid
    rcases (AList.mem_insert _).mp (hreporting ▸ hid) with rfl | hid
    · exact ⟨result, List.mem_append_right _ List.mem_cons_self, hconsidered, rfl⟩
    · obtain ⟨result', hmem, h⟩ := inv.taken id hid
      exact ⟨result', List.mem_append_left _ hmem, h⟩
  · intro id hid
    show id ∈ kept.componentLevelReportingData
    rw [hreporting]
    refine (AList.mem_insert _).mpr ?_
    rcases FlatHashMap.mem_emplace.mp hid with rfl | hid
    · exact .inl rfl
    · exact .inr (inv.sellers id (hsellers ▸ hid))
  · intro result' hmem
    rcases List.mem_append.mp hmem with hmem | hmem
    · exact hadds.others (hnew result' hmem)
        ((inv.own result' hmem).mono (List.subset_append_left _ _))
    · obtain rfl := List.mem_singleton.mp hmem
      refine hadds.own hsellerFree fun hnone hmem => ?_
      rcases inv.joined _ hmem with ⟨other, hother, heq⟩ | ⟨other, hother, adType, hghost⟩
      · exact hnew other hother heq
      · exact hnone other (List.mem_append_left _ hother) adType hghost
  · intro adType id ad' h
    have h : kept.storedAd adType id = some ad' := h
    rw [hstored] at h
    split at h
    · rename_i heq
      cases h
      exact .inl ⟨result, List.mem_append_right _ List.mem_cons_self, heq.1.symm, heq.2.symm, had⟩
    · exact (inv.stored adType id ad' h).mono (List.subset_append_left _ _)
        (List.subset_append_left _ _)
  · intro id hid
    rcases FlatHashMap.mem_emplace.mp hid with rfl | hid
    · exact .inl ⟨result, List.mem_append_right _ List.mem_cons_self, rfl⟩
    · rcases inv.joined id (hjoinCand ▸ hid) with ⟨result', hmem, h⟩ | ⟨result', hmem, h⟩
      · exact .inl ⟨result', List.mem_append_left _ hmem, h⟩
      · exact .inr ⟨result', List.mem_append_left _ hmem, h⟩

theorem CandidatesInv.winnerRequest_eq
    (inv : CandidatesInv r lib enableDebugReporting auctionConfig done winners t)
    (result : AuctionResult ℚ) :
    t.reactor.winnerRequest lib enableDebugReporting auctionConfig result =
      r.forTopLevelAuction.winnerRequest lib enableDebugReporting auctionConfig result := by
  rw [← inv.settings]
  rfl

theorem CandidatesInv.enforceKanon_eq
    (inv : CandidatesInv r lib enableDebugReporting auctionConfig done winners t) :
    t.reactor.enableEnforceKanon = r.enableEnforceKanon :=
  (congrArg ScoreAdsReactor.enableEnforceKanon inv.settings :)

/-- The winner of a result is taken into account, and what is left of the result
has the same ghost winners. -/
theorem CandidatesInv.winnerStep
    (inv : CandidatesInv r lib enableDebugReporting auctionConfig done winners t)
    (hconsidered : isConsidered result = true) (hurl : result.adRenderUrl.isEmpty = false) :
    (∃ winners', CandidatesInv r lib enableDebugReporting auctionConfig (done ++ [result]) winners'
        (buildScoreAdRequestForComponentWinner lib enableDebugReporting auctionConfig t result).1) ∧
      componentGhostWinners
        (buildScoreAdRequestForComponentWinner lib enableDebugReporting auctionConfig t result).2 =
        componentGhostWinners result := by
  unfold buildScoreAdRequestForComponentWinner buildScoreAdRequest adObjectJson
  dsimp only [Option.bind_eq_bind, Option.bind_some, Option.pure_def, componentWinner]
  split
  · rename_i htaken
    refine ⟨⟨winners, inv.pass fun _ hunshared => ?_⟩, rfl⟩
    obtain ⟨other, hother, hconsidered', heq⟩ := inv.taken _ htaken
    exact hunshared.1 other hother hconsidered' heq
  · rename_i hfree
    split
    · rename_i hkeep
      refine ⟨⟨winners, (inv.pass fun hwinner hunshared => ?_).take
        (List.mem_append_right _ List.mem_cons_self) hconsidered hfree _⟩, rfl⟩
      -- a known type conflicts with an ad kept before, of a winner or of a ghost winner
      have hknown : result.adType ≠ .unknown := by
        simp only [hasKnownWinner, Bool.and_eq_true, bne_iff_ne] at hwinner
        exact hwinner.2
      obtain ⟨stored, hstored⟩ := keepAd_none hkeep hknown
      rcases inv.stored _ _ _ hstored with
        ⟨other, hother, -, heq, -⟩ | ⟨henforce, -, other, hother, hghost⟩
      · exact hfree (heq ▸ inv.taken_of_winner hother)
      · exact hunshared.2 henforce other hother hghost
    · rename_i kept hkeep
      obtain ⟨-, ad, had, hkept⟩ := keepAd_some hkeep
      have hwinner : hasKnownWinner result = true := by
        simp [hasKnownWinner, hconsidered, hurl, known_of_adOfType had]
      refine ⟨⟨winners ++ [result], inv.dispatch hwinner hfree had hkept ?_⟩, rfl⟩
      rw [← inv.winnerRequest_eq, hkept.withTimeout_eq]
      rfl

theorem CandidatesInv.ghostStep
    (inv : CandidatesInv r lib enableDebugReporting auctionConfig done winners t)
    (henforce : r.enableEnforceKanon = true) (hmem : result ∈ done)
    (hconsidered : isConsidered result = true) {ghost : ComponentGhostWinner ℚ}
    (hghost : ghost ∈ componentGhostWinners result) (componentSeller : String) :
    CandidatesInv r lib enableDebugReporting auctionConfig done winners
      (buildScoreAdRequestForComponentGhostWinner lib enableDebugReporting auctionConfig
        componentSeller t ghost) := by
  have hhas : hasGhost result ghost.adType ghost.adRenderUrl :=
    ⟨hconsidered, ghost, hghost, rfl, rfl⟩
  unfold buildScoreAdRequestForComponentGhostWinner buildScoreAdRequest adObjectJson
  dsimp only [Option.bind_eq_bind, Option.bind_some, Option.pure_def]
  split
  · exact inv
  · rename_i kept hkeep
    obtain ⟨-, ad, had, hsettings, hjoinCand, hsellers, hreporting, hstored⟩ := keepAd_some hkeep
    generalize hrequest : kept.withTimeout _ = request
    have hid : request.id = ghost.adRenderUrl := by
      rw [← hrequest]
      rfl
    refine
      { settings := hsettings.trans inv.settings
        sublist := inv.sublist
        distinct := inv.distinct
        dispatched := ?_
        unshared := inv.unshared
        taken := fun id hid => inv.taken id (hreporting ▸ hid)
        sellers := fun id hid => ?_
        own := ?_, stored := ?_, joined := ?_ }
    · exact inv.dispatched.ghost rfl hmem (hid ▸ hhas)
    · show id ∈ kept.componentLevelReportingData
      rw [hreporting]
      exact inv.sellers id (hsellers ▸ hid)
    · intro result' hmem'
      obtain ⟨hreporting', hseller', hjoin'⟩ := inv.own result' hmem'
      refine ⟨hreporting ▸ hreporting', hsellers ▸ hseller', fun hnone => ?_⟩
      have hne : result'.adRenderUrl ≠ ghost.adRenderUrl := by
        intro heq
        exact hnone result hmem ghost.adType (heq ▸ hhas)
      show (FlatHashMap.emplace _ _ _).lookup _ = _
      rw [FlatHashMap.lookup_emplace_ne hne, hjoinCand, hjoin' hnone]
    · intro adType id ad' h
      have h : kept.storedAd adType id = some ad' := h
      rw [hstored] at h
      split at h
      · rename_i heq
        cases h
        refine .inr ⟨henforce, ?_, result, hmem, heq.1 ▸ heq.2 ▸ hhas⟩
        cases htype : ghost.adType <;> rw [htype] at had <;> cases had <;> rfl
      · exact inv.stored adType id ad' h
    · intro id hid
      rcases FlatHashMap.mem_emplace.mp hid with rfl | hid
      · exact .inr ⟨result, hmem, ghost.adType, hhas⟩
      · exact inv.joined id (hjoinCand ▸ hid)

theorem CandidatesInv.ghosts
    (inv : CandidatesInv r lib enableDebugReporting auctionConfig done winners t)
    (henforce : r.enableEnforceKanon = true) (hmem : result ∈ done)
    (hconsidered : isConsidered result = true) (componentSeller : String)
    {ghosts : List (ComponentGhostWinner ℚ)} (hghosts : ghosts ⊆ componentGhostWinners result) :
    CandidatesInv r lib enableDebugReporting auctionConfig done winners
      (ghosts.foldl (buildScoreAdRequestForComponentGhostWinner lib enableDebugReporting
        auctionConfig componentSeller) t) := by
  induction ghosts generalizing t with
  | nil => exact inv
  | cons ghost ghosts ih =>
    obtain ⟨hghost, hghosts⟩ := List.cons_subset.mp hghosts
    exact ih (inv.ghostStep henforce hmem hconsidered hghost componentSeller) hghosts

theorem CandidatesInv.step
    (inv : CandidatesInv r lib enableDebugReporting auctionConfig done winners t)
    {t' : TopLevelRequests}
    (h : addComponentAuctionResult lib enableDebugReporting auctionConfig t result = .ok t') :
    ∃ winners', CandidatesInv r lib enableDebugReporting auctionConfig (done ++ [result]) winners'
      t' := by
  unfold addComponentAuctionResult at h
  dsimp only at h
  split at h
  · rename_i hskipped
    cases h
    refine ⟨winners, inv.pass fun hwinner => ?_⟩
    simp [hasKnownWinner, isConsidered, hskipped] at hwinner
  · rename_i hconsidered
    have hconsidered : isConsidered result = true := by
      simpa [isConsidered] using hconsidered
    split at h
    · cases h
    · -- the generation id is no concern of the invariant
      have inv' : CandidatesInv r lib enableDebugReporting auctionConfig done winners
          { t with generationId := if t.generationId.isEmpty then
              result.auctionParams.ciphertextGenerationId else t.generationId } := by
        exact { inv with dispatched := inv.dispatched }
      revert h inv'
      generalize { t with generationId := _ } = s
      intro h inv'
      have hbuilt : (∃ winners', CandidatesInv r lib enableDebugReporting auctionConfig
          (done ++ [result]) winners' (if result.adRenderUrl.isEmpty then (s, result)
            else buildScoreAdRequestForComponentWinner lib enableDebugReporting auctionConfig s
              result).1) ∧
          componentGhostWinners (if result.adRenderUrl.isEmpty then (s, result)
            else buildScoreAdRequestForComponentWinner lib enableDebugReporting auctionConfig s
              result).2 = componentGhostWinners result := by
        split
        · rename_i hurl
          exact ⟨⟨winners, inv'.pass fun hwinner => by simp [hasKnownWinner, hurl] at hwinner⟩, rfl⟩
        · rename_i hurl
          exact inv'.winnerStep hconsidered (Bool.eq_false_of_not_eq_true hurl)
      revert h hbuilt
      generalize (if result.adRenderUrl.isEmpty then (s, result)
        else buildScoreAdRequestForComponentWinner lib enableDebugReporting auctionConfig s
          result) = built
      rintro h ⟨⟨winners', inv''⟩, hghosts⟩
      obtain ⟨s', result'⟩ := built
      cases h
      refine ⟨winners', ?_⟩
      dsimp only
      rw [inv''.enforceKanon_eq]
      split
      · rename_i henforce
        unfold buildScoreAdRequestForComponentGhostWinners
        exact inv''.ghosts henforce (List.mem_append_right _ List.mem_cons_self) hconsidered _
          fun ghost hghost => hghosts ▸ hghost
      · exact inv''

theorem CandidatesInv.run
    (inv : CandidatesInv r lib enableDebugReporting auctionConfig done winners t)
    {results : List (AuctionResult ℚ)} {t' : TopLevelRequests}
    (h : results.foldlM (addComponentAuctionResult lib enableDebugReporting auctionConfig) t =
      .ok t') :
    ∃ winners', CandidatesInv r lib enableDebugReporting auctionConfig (done ++ results) winners'
      t' := by
  induction results generalizing done winners t with
  | nil =>
    cases h
    exact ⟨winners, by rwa [List.append_nil]⟩
  | cons result results ih =>
    rw [List.foldlM_cons] at h
    cases hstep : addComponentAuctionResult lib enableDebugReporting auctionConfig t result with
    | error message =>
      rw [hstep] at h
      cases h
    | ok s =>
      rw [hstep] at h
      obtain ⟨winners', inv'⟩ := inv.step hstep
      obtain ⟨winners'', inv''⟩ := ih inv' h
      exact ⟨winners'', by rwa [List.append_assoc, List.singleton_append] at inv''⟩

theorem candidatesInv_of_populate {results : List (AuctionResult ℚ)} {t : TopLevelRequests}
    (h : r.forTopLevelAuction.populateTopLevelAuctionDispatchRequests lib enableDebugReporting
      auctionConfig results = .ok t) :
    ∃ winners, CandidatesInv r lib enableDebugReporting auctionConfig results winners t := by
  have inv : CandidatesInv r lib enableDebugReporting auctionConfig [] []
      { reactor := r.forTopLevelAuction } := by
    refine
      { settings := rfl
        sublist := List.Sublist.refl []
        distinct := List.nodup_nil
        dispatched := ⟨[], List.Perm.refl [], fun _ h => absurd h List.not_mem_nil⟩
        unshared := ?_, taken := ?_, sellers := ?_, own := ?_, stored := ?_, joined := ?_ }
    · intro before result after hsplit
      simp at hsplit
    · intro id hid
      exact absurd hid (AList.notMem_empty id)
    · intro id hid
      exact absurd hid (AList.notMem_empty id)
    · intro result hmem
      exact absurd hmem List.not_mem_nil
    · intro adType id ad hstored
      cases adType <;> cases hstored
    · intro id hid
      exact absurd hid (AList.notMem_empty id)
  exact inv.run h

end Loop

end ScoreAdsReactor

end BiddingAuction

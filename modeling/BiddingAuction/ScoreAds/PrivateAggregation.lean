import BiddingAuction.PrivateAggregation.Handlers
import BiddingAuction.ScoreAds.Candidates
import BiddingAuction.ScoreAds.FindWinner

/-!
# Private aggregation in `ScoreAds`

Contributions that `scoreAd` exported are processed once the auction has a
winner: those of the winner for its win, those of the other ads for their loss,
and none of an interest group that is only a ghost winner. Each contribution is
due once for its ad; `contributionsDue` is that list, and what
`PerformPrivateAggregationReporting` processes is compared with it.
-/

namespace BiddingAuction

structure PrivateAggregationHandlerMetadata where
  mostDesirableAdScoreId : String
  baseValues : BaseValues ℚ
  adId : String
  sellerOrigin : Option String := none

/-! ## The handler -/

section Handler

variable (parse : BaseValues ℚ → Json → Option (PrivateAggregateContribution ℚ))

def eventTypeToString : PAggEventType → String
  | .win => "win"
  | .loss => "loss"
  | .always => "always"
  | .custom => "custom_events"
  | .unspecified => "not-specified"

/-- The elements of an array; the code reads only arrays here. -/
def Json.elements : Json → List Json
  | .array elements => elements
  | _ => []

/-- `HandleContribution`: the contributions of an event that `ParseAndProcessContribution`
accepts. -/
def handleContribution (eventType : PAggEventType) (baseValues : BaseValues ℚ)
    (contributions : Json) : List (PrivateAggregateContribution ℚ) :=
  match eventType, contributions.findMember (eventTypeToString eventType) with
  | .unspecified, _ => []
  | _, none => []
  | .custom, some (.object members) => members.flatMap fun member =>
    (member.2.elements.filterMap (parse baseValues)).map fun contribution =>
      { contribution with event := { eventType := .custom, eventName := cString member.1 } }
  | .custom, some _ => []
  | _, some events => events.elements.filterMap (parse baseValues)

def PrivateAggregationHandlerMetadata.events (metadata : PrivateAggregationHandlerMetadata) :
    List PAggEventType :=
  if metadata.adId ≠ metadata.mostDesirableAdScoreId then [.loss, .always]
  else [.win, .always, .custom]

/-- `HandlePrivateAggregationReporting`: the response added to the score. -/
def handlePrivateAggregationReporting (metadata : PrivateAggregationHandlerMetadata)
    (contributions : Json) : PrivateAggregateReportingResponse ℚ where
  contributions := metadata.events.flatMap fun eventType =>
    handleContribution parse eventType metadata.baseValues contributions
  adtechOrigin := metadata.sellerOrigin.getD ""

end Handler

namespace ScoreAdsReactor

variable (r : ScoreAdsReactor) (lib : Library)

/-! ## Collecting the contributions -/

/-- The contributions that come with a response, under its id. -/
def paapiContributions (response : RomaResponse) : Option (String × Json) := do
  let ad ← r.scoredAd lib response
  let dispatched ← response.toOption
  let scoreAdsWrapperResponse ← lib.parseJsonString dispatched.resp
  match scoreAdsWrapperResponse.findMember "paapiContributions" with
  | some (.object members) => some (ad.id, .object members)
  | _ => none

def contributed (responses : List RomaResponse) : List (String × Json) :=
  responses.filterMap (r.paapiContributions lib)

def paapiContributionsDocs (responses : List RomaResponse) : FlatHashMap String Json :=
  (r.contributed lib responses).foldl (fun m c => FlatHashMap.emplace m c.1 c.2) ∅

/-! ## Processing them -/

/-- `GetPaggBaseValueWithoutRejectReason`; without a positive bid the winning bid
is not set. -/
def getPaggBaseValueWithoutRejectReason (memory : Memory) (signals : PostAuctionSignals) :
    BaseValues ℚ where
  winningBid :=
    if signals.winningBidInSellerCurrency > 0 then signals.winningBidInSellerCurrency
    else if signals.winningBid > 0 then signals.winningBid
    else memory.number
  highestScoringOtherBid := signals.highestScoringOtherBid

/-- One turn of the loop of `PerformPrivateAggregationReporting`: what is handed to
the handler for an ad, if anything. -/
def contributionsToHandle (memory : Memory) (signals : PostAuctionSignals)
    (ghostWinners : FlatHashMap String String) (mostDesirableAdScoreId : String)
    (doc : String × Json) : Option (PrivateAggregationHandlerMetadata × Json) :=
  match r.adData.lookup doc.1 with
  | none => none
  | some ad =>
    let metadata (rejectReason : Option SellerRejectionReason) :
        PrivateAggregationHandlerMetadata :=
      { mostDesirableAdScoreId := mostDesirableAdScoreId
        adId := doc.1
        baseValues := { getPaggBaseValueWithoutRejectReason memory signals with
          rejectReason := rejectReason }
        sellerOrigin := some r.rawRequest.seller }
    match signals.rejectionReasonMap.lookup ad.interestGroupOwner with
    | some byName => some (metadata (byName.lookup ad.interestGroupName), doc.2)
    | none =>
      -- only an owner without a rejected bid gets here
      if ghostWinners.lookup ad.interestGroupOwner = some ad.interestGroupName then none
      else some (metadata none, doc.2)

variable (ord : HashOrder) (memory : Memory)

/-- The contributions that `PerformPrivateAggregationReporting` hands to the handler. -/
def contributionsHandled (responses : List RomaResponse) (served : Served)
    (mostDesirableAdScoreId : String) : List (PrivateAggregationHandlerMetadata × Json) :=
  let signals := r.postAuctionSignals ord memory served.adScore
  (ord.entries (r.paapiContributionsDocs lib responses)).filterMap
    (r.contributionsToHandle memory signals
      (ghostWinnerInterestGroupData served.ghostWinningAdScores) mostDesirableAdScoreId)

/-! ## What is due -/

section Due

variable (responses : List RomaResponse) (served : Served)
  (winnerId mostDesirableAdScoreId : String)

def isOfGhostWinner (id : String) : Bool :=
  served.ghostWinningAdScores.any fun ghostWinner =>
    r.interestGroup? id = some (ghostWinner.interestGroupOwner, ghostWinner.interestGroupName)

def eventsDue (id : String) : List PAggEventType :=
  if id = winnerId then [.win, .always, .custom] else [.loss, .always]

/-- The contributions to process, each with the events of its ad. -/
def contributionsDue : List (String × Json × List PAggEventType) :=
  ((r.contributed lib responses).filter fun c => !r.isOfGhostWinner served c.1).map fun c =>
    (c.1, c.2, eventsDue winnerId c.1)

def HandlesContributionsDue : Prop :=
  ((r.contributionsHandled lib ord memory responses served mostDesirableAdScoreId).map
    fun handled => (handled.1.adId, handled.2, handled.1.events)).Perm
      (r.contributionsDue lib responses served winnerId)

def HasRejectedBid (owner : String) : Prop :=
  r.auctionScope ≠ .serverTopLevelSeller ∧
    ∃ adScore, served.adScore = some adScore ∧
      ∃ reason ∈ adScore.adRejectionReasons, reason.interestGroupOwner = owner

structure OutcomesRecognized : Prop where
  /-- Ads that are not of a ghost winner's group have ids of their own. -/
  distinctIds : (((r.contributed lib responses).filter fun c =>
    !r.isOfGhostWinner served c.1).map Prod.fst).Nodup
  /-- A ghost winner's group is the first of its owner, who has no rejected bid. -/
  ghostWinners : ∀ c ∈ r.contributed lib responses, r.isOfGhostWinner served c.1 = true →
    ∀ ad, r.adData.lookup c.1 = some ad → ¬ r.HasRejectedBid served ad.interestGroupOwner ∧
      (served.ghostWinningAdScores.find? fun ghostWinner =>
        ghostWinner.interestGroupOwner = ad.interestGroupOwner).map AdScore.interestGroupName =
          some ad.interestGroupName
  /-- The others are protected audience ads, and the id handed on is the winner's. -/
  others : ∀ c ∈ r.contributed lib responses, r.isOfGhostWinner served c.1 = false →
    c.1 ∈ r.adData ∧ (c.1 = mostDesirableAdScoreId ↔ c.1 = winnerId)

variable {responses served winnerId mostDesirableAdScoreId}
variable {r lib ord memory}

theorem lookup_paapiContributionsDocs (id : String) :
    (r.paapiContributionsDocs lib responses).lookup id =
      ((r.contributed lib responses).find? fun c => c.1 = id).map Prod.snd :=
  FlatHashMap.lookup_foldl_emplace_first Prod.fst Prod.snd _ id

variable (r ord memory served) in
theorem lookup_rejectionReasonMap_eq_none (owner : String) :
    (r.postAuctionSignals ord memory served.adScore).rejectionReasonMap.lookup owner = none ↔
      ¬ r.HasRejectedBid served owner := by
  rw [AList.lookup_eq_none]
  refine not_congr ?_
  unfold postAuctionSignals HasRejectedBid
  cases hscore : served.adScore with
  | none => simp [PostAuctionSignals.uninitialized, AList.notMem_empty]
  | some adScore =>
    by_cases hscope : r.auctionScope = .serverTopLevelSeller
    · simp [hscope, PostAuctionSignals.generateForTopLevelSeller, AList.notMem_empty]
    · simp [hscope, PostAuctionSignals.mem_rejectionReasonMap_generate]

def IsHandled (r : ScoreAdsReactor) (served : Served) (id : String) : Prop :=
  ∃ ad, r.adData.lookup id = some ad ∧ (r.HasRejectedBid served ad.interestGroupOwner ∨
    (served.ghostWinningAdScores.find? fun ghostWinner =>
      ghostWinner.interestGroupOwner = ad.interestGroupOwner).map AdScore.interestGroupName ≠
        some ad.interestGroupName)

theorem of_contributionsToHandle {signals : PostAuctionSignals}
    {ghostWinners : FlatHashMap String String} {c : String × Json}
    {handled : PrivateAggregationHandlerMetadata × Json}
    (h : r.contributionsToHandle memory signals ghostWinners mostDesirableAdScoreId c =
      some handled) :
    handled.1.adId = c.1 ∧ handled.2 = c.2 ∧
      handled.1.events = eventsDue mostDesirableAdScoreId c.1 := by
  unfold contributionsToHandle at h
  unfold PrivateAggregationHandlerMetadata.events eventsDue
  split at h
  · cases h
  · split at h
    · cases h
      exact ⟨rfl, rfl, ite_not ..⟩
    · split at h
      · cases h
      · cases h
        exact ⟨rfl, rfl, ite_not ..⟩

theorem contributionsToHandle_isSome (c : String × Json) :
    (r.contributionsToHandle memory (r.postAuctionSignals ord memory served.adScore)
      (ghostWinnerInterestGroupData served.ghostWinningAdScores) mostDesirableAdScoreId
        c).isSome = true ↔ r.IsHandled served c.1 := by
  unfold contributionsToHandle IsHandled
  split
  · rename_i had
    simp [had]
  · rename_i ad had
    have hghosts : (ghostWinnerInterestGroupData served.ghostWinningAdScores).lookup
        ad.interestGroupOwner = (served.ghostWinningAdScores.find? fun ghostWinner =>
          ghostWinner.interestGroupOwner = ad.interestGroupOwner).map
            AdScore.interestGroupName :=
      FlatHashMap.lookup_foldl_emplace_first AdScore.interestGroupOwner
        AdScore.interestGroupName _ _
    have hrejected := lookup_rejectionReasonMap_eq_none r ord memory served ad.interestGroupOwner
    split
    · rename_i byName hreasons
      have hbid : r.HasRejectedBid served ad.interestGroupOwner := by
        by_contra hnot
        rw [hrejected.mpr hnot] at hreasons
        cases hreasons
      exact iff_of_true rfl ⟨ad, had, .inl hbid⟩
    · rename_i hreasons
      have hnobid := hrejected.mp hreasons
      split
      · rename_i hghost
        refine iff_of_false (by simp) ?_
        rintro ⟨ad', had', hbid | hname⟩
        · exact hnobid (Option.some.inj (had.symm.trans had') ▸ hbid)
        · obtain rfl := Option.some.inj (had.symm.trans had')
          exact hname (hghosts.symm.trans hghost)
      · rename_i hghost
        exact iff_of_true rfl ⟨ad, had, .inr fun h => hghost (hghosts.trans h)⟩

def docsHandled (r : ScoreAdsReactor) (lib : Library) (ord : HashOrder) (memory : Memory)
    (responses : List RomaResponse) (served : Served) (mostDesirableAdScoreId : String) :
    List (String × Json) :=
  (ord.entries (r.paapiContributionsDocs lib responses)).filter fun c =>
    (r.contributionsToHandle memory (r.postAuctionSignals ord memory served.adScore)
      (ghostWinnerInterestGroupData served.ghostWinningAdScores) mostDesirableAdScoreId c).isSome

theorem contributionsHandled_eq :
    ((r.contributionsHandled lib ord memory responses served mostDesirableAdScoreId).map
      fun handled => (handled.1.adId, handled.2, handled.1.events)) =
      (r.docsHandled lib ord memory responses served mostDesirableAdScoreId).map fun c =>
        (c.1, c.2, eventsDue mostDesirableAdScoreId c.1) := by
  unfold contributionsHandled docsHandled
  dsimp only
  induction ord.entries (r.paapiContributionsDocs lib responses) with
  | nil => rfl
  | cons c docs ih =>
    rw [List.filterMap_cons, List.filter_cons]
    cases h : r.contributionsToHandle memory (r.postAuctionSignals ord memory served.adScore)
        (ghostWinnerInterestGroupData served.ghostWinningAdScores) mostDesirableAdScoreId c with
    | none => simpa using ih
    | some handled =>
      obtain ⟨hid, hdoc, hevents⟩ := of_contributionsToHandle h
      rw [List.map_cons, ih, hid, hdoc, hevents]
      rfl

theorem docsHandled_nodup :
    ((r.docsHandled lib ord memory responses served mostDesirableAdScoreId).map
      Prod.fst).Nodup :=
  HashOrder.keys_nodup.sublist (List.filter_sublist.map _)

theorem mem_docsHandled {c : String × Json} :
    c ∈ r.docsHandled lib ord memory responses served mostDesirableAdScoreId ↔
      ((r.contributed lib responses).find? fun other => other.1 = c.1).map Prod.snd = some c.2 ∧
        r.IsHandled served c.1 := by
  unfold docsHandled
  rw [List.mem_filter, contributionsToHandle_isSome, ← lookup_paapiContributionsDocs,
    HashOrder.mem_entries]

theorem exists_doc {c : String × Json} (hc : c ∈ r.contributed lib responses) :
    ∃ doc, ((r.contributed lib responses).find? fun other => other.1 = c.1).map Prod.snd =
      some doc := by
  have hsome : ((r.contributed lib responses).find? fun other => other.1 = c.1).isSome = true :=
    List.find?_isSome.mpr ⟨c, hc, decide_eq_true rfl⟩
  obtain ⟨first, hfirst⟩ := Option.isSome_iff_exists.mp hsome
  exact ⟨first.2, by rw [hfirst]; rfl⟩

theorem mem_of_doc {c : String × Json}
    (h : ((r.contributed lib responses).find? fun other => other.1 = c.1).map Prod.snd =
      some c.2) : c ∈ r.contributed lib responses := by
  obtain ⟨first, hfirst, hdoc⟩ := Option.map_eq_some_iff.mp h
  have hid : first.1 = c.1 := by simpa using List.find?_some hfirst
  obtain rfl : first = c := Prod.ext hid hdoc
  exact List.mem_of_find?_eq_some hfirst

theorem OutcomesRecognized.isHandled_iff
    (h : r.OutcomesRecognized lib responses served winnerId mostDesirableAdScoreId)
    {c : String × Json} (hc : c ∈ r.contributed lib responses) :
    r.IsHandled served c.1 ↔ r.isOfGhostWinner served c.1 = false := by
  constructor
  · rintro ⟨ad, had, hhandled⟩
    by_contra hghost
    obtain ⟨hnobid, hname⟩ := h.ghostWinners c hc (by simpa using hghost) ad had
    rcases hhandled with hbid | hne
    · exact hnobid hbid
    · exact hne hname
  · intro hghost
    obtain ⟨ad, had⟩ := Option.isSome_iff_exists.mp
      (AList.lookup_isSome.mpr (h.others c hc hghost).1)
    refine ⟨ad, had, .inr fun hname => ?_⟩
    obtain ⟨ghostWinner, hfind, hname⟩ := Option.map_eq_some_iff.mp hname
    have howner : ghostWinner.interestGroupOwner = ad.interestGroupOwner := by
      simpa using List.find?_some hfind
    have hgroup : r.interestGroup? c.1 =
        some (ghostWinner.interestGroupOwner, ghostWinner.interestGroupName) := by
      unfold interestGroup?
      rw [findScoredAdType_of_ad had, howner, hname]
      rfl
    have hany : r.isOfGhostWinner served c.1 = true :=
      List.any_eq_true.mpr ⟨ghostWinner, List.mem_of_find?_eq_some hfind, decide_eq_true hgroup⟩
    rw [hghost] at hany
    cases hany

theorem OutcomesRecognized.docsHandled_perm
    (h : r.OutcomesRecognized lib responses served winnerId mostDesirableAdScoreId) :
    (r.docsHandled lib ord memory responses served mostDesirableAdScoreId).Perm
      ((r.contributed lib responses).filter fun c => !r.isOfGhostWinner served c.1) := by
  refine (List.perm_ext_iff_of_nodup docsHandled_nodup.of_map h.distinctIds.of_map).mpr fun c => ?_
  rw [mem_docsHandled, List.mem_filter, Bool.not_eq_true']
  constructor
  · rintro ⟨hdoc, hhandled⟩
    exact ⟨mem_of_doc hdoc, (h.isHandled_iff (mem_of_doc hdoc)).mp hhandled⟩
  · rintro ⟨hc, hghost⟩
    obtain ⟨doc, hdoc⟩ := exists_doc hc
    have hmem : (c.1, doc) ∈ r.contributed lib responses := mem_of_doc (c := (c.1, doc)) hdoc
    -- the id is unique among the ads of no ghost winner
    have heq : (c.1, doc) = c := List.inj_on_of_nodup_map h.distinctIds
      (List.mem_filter.mpr ⟨hmem, by simp [hghost]⟩)
      (List.mem_filter.mpr ⟨hc, by simp [hghost]⟩) rfl
    exact ⟨by rw [hdoc, ← heq], (h.isHandled_iff hc).mpr hghost⟩

theorem handlesContributionsDue_of_recognized
    (h : r.OutcomesRecognized lib responses served winnerId mostDesirableAdScoreId) :
    r.HandlesContributionsDue lib ord memory responses served winnerId
      mostDesirableAdScoreId := by
  unfold HandlesContributionsDue contributionsDue
  rw [contributionsHandled_eq]
  refine (h.docsHandled_perm.map _).trans (.of_eq (List.map_congr_left fun c hc => ?_))
  obtain ⟨hc, hghost⟩ := List.mem_filter.mp hc
  unfold eventsDue
  simp only [(h.others c hc (by simpa using hghost)).2]

theorem eventsDue_inj {id : String}
    (h : eventsDue mostDesirableAdScoreId id = eventsDue winnerId id) :
    id = mostDesirableAdScoreId ↔ id = winnerId := by
  unfold eventsDue at h
  constructor
  · intro hbest
    by_contra hne
    rw [if_pos hbest, if_neg hne] at h
    cases h
  · intro hwinner
    by_contra hne
    rw [if_neg hne, if_pos hwinner] at h
    cases h

theorem recognized_of_handlesContributionsDue
    (h : r.HandlesContributionsDue lib ord memory responses served winnerId
      mostDesirableAdScoreId) :
    r.OutcomesRecognized lib responses served winnerId mostDesirableAdScoreId := by
  unfold HandlesContributionsDue contributionsDue at h
  rw [contributionsHandled_eq] at h
  have hids := h.map Prod.fst
  simp only [List.map_map, Function.comp_def] at hids
  -- a contribution in the one list is in the other
  have hdue : ∀ c : String × Json,
      c ∈ r.docsHandled lib ord memory responses served mostDesirableAdScoreId →
        r.isOfGhostWinner served c.1 = false := by
    intro c hc
    obtain ⟨other, hother, heq⟩ := List.mem_map.mp (h.mem_iff.mp (List.mem_map.mpr ⟨c, hc, rfl⟩))
    obtain ⟨-, hghost⟩ := List.mem_filter.mp hother
    have hid : other.1 = c.1 := (Prod.mk.inj heq).1
    simpa [hid] using hghost
  refine ⟨hids.nodup_iff.mp docsHandled_nodup, fun c hc hghost ad had => ?_, fun c hc hghost => ?_⟩
  · obtain ⟨doc, hdoc⟩ := exists_doc hc
    have hnot : ¬ r.IsHandled served c.1 := by
      intro hhandled
      have hfalse := hdue (c.1, doc) (mem_docsHandled.mpr ⟨hdoc, hhandled⟩)
      rw [hghost] at hfalse
      cases hfalse
    refine ⟨fun hbid => hnot ⟨ad, had, .inl hbid⟩, ?_⟩
    by_contra hne
    exact hnot ⟨ad, had, .inr hne⟩
  · have hmem : (c.1, c.2, eventsDue winnerId c.1) ∈ _ :=
      h.mem_iff.mpr (List.mem_map.mpr ⟨c, List.mem_filter.mpr ⟨hc, by simp [hghost]⟩, rfl⟩)
    obtain ⟨other, hother, heq⟩ := List.mem_map.mp hmem
    obtain ⟨-, ad, had, -⟩ := mem_docsHandled.mp hother
    have hid : other.1 = c.1 := (Prod.mk.inj heq).1
    have hevents := (Prod.mk.inj (Prod.mk.inj heq).2).2
    rw [hid] at had hevents
    exact ⟨AList.lookup_isSome.mp (Option.isSome_iff_exists.mpr ⟨ad, had⟩), eventsDue_inj hevents⟩

/-- What is handed to the handler is what is due, exactly if the loop can tell the
ads apart. -/
theorem handlesContributionsDue_iff (r : ScoreAdsReactor) (lib : Library) (ord : HashOrder)
    (memory : Memory) (responses : List RomaResponse) (served : Served)
    (winnerId mostDesirableAdScoreId : String) :
    r.HandlesContributionsDue lib ord memory responses served winnerId mostDesirableAdScoreId ↔
      r.OutcomesRecognized lib responses served winnerId mostDesirableAdScoreId :=
  ⟨recognized_of_handlesContributionsDue, handlesContributionsDue_of_recognized⟩

/-- The ad `w` of `B`, k-anonymous, and the ads `g` and `x` of `A`, `g` without
k-anonymity. -/
def ghostAndRejected : ScoreAdsReactor where
  enableEnforceKanon := true
  rawRequest := { numAllowedGhostWinners := 1 }
  adData := AList.insert "x"
      { render := "x", interestGroupOwner := "A", interestGroupName := "X", bid := 1,
        kAnonStatus := true }
    (AList.insert "w"
      { render := "w", interestGroupOwner := "B", interestGroupName := "W", bid := 1,
        kAnonStatus := true }
      (AList.insert "g"
        { render := "g", interestGroupOwner := "A", interestGroupName := "G", bid := 1 } ∅))

/-- A library that reads contributions in every response, and rejects `reject`. -/
def contributionLibrary : Library where
  parseJsonString := fun text => some (.object
    [("response", if text = "reject" then
        .object [("desirability", .number 1), ("rejectReason", .string "invalid-bid")]
      else .number (if text = "1" then 1 else 2)),
      ("paapiContributions", .object [])])
  serializeJsonDoc := fun _ => none
  messageToJsonString := fun _ => none
  toString := fun _ => ""
  toFloat := id

/-- With the scores 2 for `g` and 1 for `w`, and `x` rejected, `w` wins and `g` is a
ghost winner; its contributions are processed, since a bid of its owner was rejected. -/
theorem handlesContributionsDue_fails_on_rejected_owner :
    ∃ served, ghostAndRejected.scoreAdsCallback contributionLibrary .standard
        [.ok ⟨"g", "2"⟩, .ok ⟨"w", "1"⟩, .ok ⟨"x", "reject"⟩] = some served ∧
      served.winningAdDispatchId = some "w" ∧ served.reportingId = some "w" ∧
      ¬ ghostAndRejected.HandlesContributionsDue contributionLibrary .stored ⟨0, false⟩
        [.ok ⟨"g", "2"⟩, .ok ⟨"w", "1"⟩, .ok ⟨"x", "reject"⟩] served "w" "w" := by
  have hsome : (ghostAndRejected.scoreAdsCallback contributionLibrary .standard
      [.ok ⟨"g", "2"⟩, .ok ⟨"w", "1"⟩, .ok ⟨"x", "reject"⟩]).isSome = true := by
    decide +kernel
  obtain ⟨served, hserved⟩ := Option.isSome_iff_exists.mp hsome
  have hids : ((ghostAndRejected.scoreAdsCallback contributionLibrary .standard
      [.ok ⟨"g", "2"⟩, .ok ⟨"w", "1"⟩, .ok ⟨"x", "reject"⟩]).map fun served =>
        (served.winningAdDispatchId, served.reportingId,
          ghostAndRejected.isOfGhostWinner served "g",
          served.adScore.map fun adScore => adScore.adRejectionReasons.map
            AdRejectionReason.interestGroupOwner)) =
      some (some "w", some "w", true, some ["A"]) := by
    decide +kernel
  rw [hserved] at hids
  simp only [Option.map_some, Option.some.injEq, Prod.mk.injEq] at hids
  obtain ⟨hid, hwinner, hghost, hreasons⟩ := hids
  refine ⟨served, hserved, hid, hwinner, fun hdue => ?_⟩
  have hrecognized := recognized_of_handlesContributionsDue hdue
  have hnot := hrecognized.ghostWinners ("g", .object []) 
    (List.mem_filterMap.mpr ⟨.ok ⟨"g", "2"⟩, List.mem_cons_self, rfl⟩) hghost _ rfl
  obtain ⟨adScore, hscore, howners⟩ := Option.map_eq_some_iff.mp hreasons
  obtain ⟨reason, hreason, howner⟩ := List.mem_map.mp
    (howners ▸ List.mem_singleton.mpr rfl :
      "A" ∈ adScore.adRejectionReasons.map AdRejectionReason.interestGroupOwner)
  exact hnot.1 ⟨by decide, adScore, hscore, reason, hreason, howner⟩

end Due

end ScoreAdsReactor

end BiddingAuction

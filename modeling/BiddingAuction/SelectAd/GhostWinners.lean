import BiddingAuction.SelectAd.BuyerInputs
import BiddingAuction.SelectAd.Processing

/-!
# The k-anonymity data of a response

A bid that is k-anonymous has hashes that were asked for, so its owner has a report URL. Of a
ghost winner nothing of the kind is known: an owner without a URL makes a bid that is not
k-anonymous. Its join candidate is looked up all the same.
-/

namespace BiddingAuction

open Foundation.Cbor SelectAdReactor

namespace SelectAd

/-! ## The scores of an auction -/

/-- The score is of an ad of the request, which was sent with this status. -/
inductive ScoresAd (request : SentScoreAdsRequest) (status : Bool) (score : AdScore ℚ) : Prop
  | protectedAudience {ad : AdWithBidMetadata} (sent : ad ∈ request.adBids)
      (kAnonStatus : ad.kAnonStatus = status)
      (owner : score.interestGroupOwner = ad.interestGroupOwner)
      (name : score.interestGroupName = ad.interestGroupName) (render : score.render = ad.render)
  | protectedAppSignals {ad : ProtectedAppSignalsAdWithBidMetadata}
      (sent : ad ∈ request.protectedAppSignalsAdBids) (kAnonStatus : ad.kAnonStatus = status)
      (owner : score.interestGroupOwner = ad.owner) (render : score.render = ad.render)

def SellerFrontEnd.highScore (server : SellerFrontEnd) (reply : ScoreAdsReply) :
    Option (AdScore ℚ) :=
  reply.adScore.filter fun score => server.ops.isPositive score.buyerBid

/-- The winner is a k-anonymous ad of the request, and the ghost winners are ads of it that
are not. -/
structure DecidedFrom (server : SellerFrontEnd) (request : SentScoreAdsRequest)
    (reply : ScoreAdsReply) : Prop where
  winner : ∀ score ∈ server.highScore reply, ScoresAd request true score
  ghostWinners : ∀ ghost ∈ reply.ghostWinningAdScores, ScoresAd request false ghost

/-! ### Scores with contributions added -/

def SameButContributions (score score' : AdScore ℚ) : Prop :=
  ∃ contributions, score' = { score with topLevelContributions := contributions }

theorem SameButContributions.owner {score score' : AdScore ℚ}
    (h : SameButContributions score score') :
    score'.interestGroupOwner = score.interestGroupOwner := by
  obtain ⟨contributions, rfl⟩ := h
  rfl

theorem handleGhostWinner_same (ops : FloatOps ℚ)
    (interestGroupIndexMap : FlatHashMap InterestGroupIdentity ℕ)
    (bids : BuyerBidsResponseMap ℚ) (ghost : AdScore ℚ) :
    SameButContributions ghost
      (handlePrivateAggregationContributionsForGhostWinner ops interestGroupIndexMap bids
        ghost).1 := by
  unfold handlePrivateAggregationContributionsForGhostWinner
  split
  · exact ⟨ghost.topLevelContributions, rfl⟩
  · exact ⟨_, rfl⟩

theorem handleGhostWinners_same (ops : FloatOps ℚ)
    (interestGroupIndexMap : FlatHashMap InterestGroupIdentity ℕ) (ghosts : List (AdScore ℚ))
    (bids : BuyerBidsResponseMap ℚ) :
    List.Forall₂ SameButContributions ghosts
      (handleGhostWinners ops interestGroupIndexMap ghosts bids).1 := by
  induction ghosts generalizing bids with
  | nil => exact .nil
  | cons ghost ghosts ih => exact .cons (handleGhostWinner_same ..) (ih _)

namespace ConfiguredReactor

variable (r : ConfiguredReactor)

section Scores

variable {bids : FlatHashMap String BuyerReply}
  {interestGroupIndexMap : FlatHashMap InterestGroupIdentity ℕ} {reply : ScoreAdsReply}

theorem ghostWinners_scoresDone :
    List.Forall₂ SameButContributions reply.ghostWinningAdScores
      ((r.scoresDone bids interestGroupIndexMap reply).ghostWinners.getD []) := by
  have hsame : ∀ ghosts : List (AdScore ℚ),
      (if ghosts.isEmpty then none else some ghosts).getD [] = ghosts := by
    intro ghosts
    cases ghosts <;> rfl
  have hrefl : List.Forall₂ SameButContributions reply.ghostWinningAdScores
      reply.ghostWinningAdScores :=
    List.forall₂_same.mpr fun ghost _ => ⟨ghost.topLevelContributions, rfl⟩
  unfold scoresDone BiddingAuction.onScoreAdsDone
  dsimp only
  cases r.server.enableBuyerPrivateAggregateReporting r.clientType with
  | false =>
    simp only [Bool.false_eq_true, if_false]
    split <;> rw [hsame] <;> exact hrefl
  | true =>
    simp only [if_true]
    split <;> rw [hsame] <;> exact handleGhostWinners_same ..

theorem highScore_scoresDone :
    Option.Rel SameButContributions (r.server.highScore reply)
      (r.scoresDone bids interestGroupIndexMap reply).highScore := by
  unfold scoresDone BiddingAuction.onScoreAdsDone SellerFrontEnd.highScore
  dsimp only
  cases reply.adScore.filter fun score => r.server.ops.isPositive score.buyerBid with
  | none => exact .none
  | some score =>
    dsimp only
    split
    · exact .some ⟨_, rfl⟩
    · exact .some ⟨score.topLevelContributions, rfl⟩

end Scores

/-! ## Lookups -/

/-- The owners that are looked up while the response is made. -/
def ownersLookedUp (done : ScoreAdsDone ℚ) : List String :=
  if r.clientType = .android ∨ r.enableEnforceKanon = false then []
  else (done.highScore.toList ++ done.ghostWinners.getD []).map AdScore.interestGroupOwner

theorem getKAnonJoinCandidate_isSome {F : Type} (keys : KeyLibrary) {score : AdScore F}
    {urls : FlatHashMap String String} :
    (getKAnonJoinCandidate keys score urls).isSome = true ↔ score.interestGroupOwner ∈ urls := by
  unfold getKAnonJoinCandidate
  rw [← AList.lookup_isSome]
  cases urls.lookup score.interestGroupOwner <;> rfl

/-! ## The winner -/

/-- The ad is that of the bid, with the status that it is given. -/
structure BuiltFrom (input : AdWithBid ℚ) (owner : String) (status : Bool)
    (ad : AdWithBidMetadata) : Prop where
  owner : ad.interestGroupOwner = owner
  name : ad.interestGroupName = input.interestGroupName
  render : ad.render = input.render
  kAnonStatus : ad.kAnonStatus = status

theorem buildAdWithBidMetadata_fields {reactor : SelectAdReactor}
    (henforce : reactor.enableEnforceKanon = true) (input : AdWithBid ℚ) (owner : String)
    (status : Bool) (m : FlatHashMap InterestGroupIdentity ℕ) :
    BuiltFrom input owner status (reactor.buildAdWithBidMetadata input owner status m).1 := by
  unfold SelectAdReactor.buildAdWithBidMetadata
  simp only [henforce, if_true]
  split <;> exact ⟨rfl, rfl, rfl, rfl⟩

section Winner

variable {bids : FlatHashMap String BuyerReply} {outcome : KAnonQueryOutcome}
  {signals : Option (String × UInt32)}

theorem mem_adBids_iff (henforce : r.enableEnforceKanon = true) {ad : AdWithBidMetadata} :
    ad ∈ (r.createScoreAdsRequest bids outcome signals).adBids ↔
      ∃ bid ∈ (r.reactor bids).bidsToScore,
        ((r.reactor bids).buildAdWithBidMetadata bid.2 bid.1.buyerIgOwner
          (ownStatus r.server.keys r.server.buyerReportWinJsUrls outcome
            bid.1.buyerIgOwner bid.2) ∅).1 = ad := by
  have hsent : (r.createScoreAdsRequest bids outcome signals).adBids =
      (queryKAnonHashes r.server.keys outcome
        (r.reactor bids)).createScoreAdsRequest.1 := by
    show (if r.enableEnforceKanon then _ else _ : SelectAdReactor).createScoreAdsRequest.1 = _
    rw [henforce]
    rfl
  obtain ⟨hbids, hbuilt⟩ := queryKAnonHashes_bids r.server.keys outcome (r.reactor bids)
  rw [hsent, createScoreAdsRequest_eq, hbids, List.mem_map]
  refine exists_congr fun ⟨p, bid⟩ => and_congr_right fun hbid => ?_
  obtain ⟨buyerBids, hlookup, hget⟩ := lookup_of_mem_bidsToScore hbid
  rw [hbuilt, status_queryKAnonHashes r.server.keys outcome henforce rfl rfl hlookup hget]
  rfl

theorem owner_mem_of_kAnonStatus (henforce : r.enableEnforceKanon = true)
    {ad : AdWithBidMetadata} (had : ad ∈ (r.createScoreAdsRequest bids outcome signals).adBids)
    (hstatus : ad.kAnonStatus = true) :
    ad.interestGroupOwner ∈ r.server.buyerReportWinJsUrls := by
  obtain ⟨⟨p, bid⟩, -, rfl⟩ := (r.mem_adBids_iff henforce).mp had
  rw [(buildAdWithBidMetadata_fields henforce ..).kAnonStatus, ownStatus_iff] at hstatus
  obtain ⟨-, biddingUrl, -, hurl, -⟩ := hstatus
  rw [(buildAdWithBidMetadata_fields henforce ..).owner]
  exact AList.lookup_isSome.mp (Option.isSome_iff_exists.mpr ⟨biddingUrl, hurl⟩)

theorem scoresAd_of_bid (henforce : r.enableEnforceKanon = true) {p : BidPointer}
    {bid : AdWithBid ℚ} (hbid : (p, bid) ∈ (r.reactor bids).bidsToScore) {score : AdScore ℚ}
    (howner : score.interestGroupOwner = p.buyerIgOwner)
    (hname : score.interestGroupName = bid.interestGroupName)
    (hrender : score.render = bid.render) :
    ScoresAd (r.createScoreAdsRequest bids outcome signals)
      (ownStatus r.server.keys r.server.buyerReportWinJsUrls outcome p.buyerIgOwner bid)
      score := by
  have hreactor : (r.reactor bids).enableEnforceKanon = true := henforce
  have hbuilt := buildAdWithBidMetadata_fields hreactor bid p.buyerIgOwner
    (ownStatus r.server.keys r.server.buyerReportWinJsUrls outcome p.buyerIgOwner bid) ∅
  refine .protectedAudience ((r.mem_adBids_iff henforce).mpr ⟨_, hbid, rfl⟩)
    hbuilt.kAnonStatus ?_ ?_ ?_
  · rw [howner, hbuilt.owner]
  · rw [hname, hbuilt.name]
  · rw [hrender, hbuilt.render]

theorem winner_owner_mem (henforce : r.enableEnforceKanon = true)
    (happ : r.clientType ≠ .android) {score : AdScore ℚ}
    (hscore : ScoresAd (r.createScoreAdsRequest bids outcome signals) true score) :
    score.interestGroupOwner ∈ r.server.buyerReportWinJsUrls := by
  cases hscore with
  | protectedAudience sent kAnonStatus owner name render =>
    rw [owner]
    exact r.owner_mem_of_kAnonStatus henforce sent kAnonStatus
  | protectedAppSignals sent kAnonStatus owner render =>
    -- app install ads are for an app only
    simp [createScoreAdsRequest, happ] at sent

end Winner

/-! ## What the client is sent -/

/-- The ghost winners of the response: of a message, or of the data it is encoded from. -/
def clientGhostWinners (done : ScoreAdsDone ℚ) (updates : UpdateGroupMap) :
    List (KAnonGhostWinner FloatVal) :=
  if r.clientType = .android ∨ r.auctionScope = .serverComponentMultiSeller then
    (r.auctionResult done updates).kAnonGhostWinners
  else (ghostWinnersOf (r.kanonData done)).getD []

/-- The entry is of the ghost winner, with its join candidate. -/
structure Represents (ghost : AdScore ℚ) (entry : KAnonGhostWinner FloatVal) : Prop where
  owner : entry.owner = ghost.interestGroupOwner
  name : entry.igName = ghost.interestGroupName
  joinCandidate : getKAnonJoinCandidate r.server.keys ghost r.server.buyerReportWinJsUrls =
    some entry.kAnonJoinCandidates

/-- The data on k-anonymity can be built: no owner is looked up that is missing from the map,
and every ghost winner is represented in the response. -/
structure BuildsKAnonData (bids : FlatHashMap String BuyerReply) (updates : UpdateGroupMap)
    (interestGroupIndexMap : FlatHashMap InterestGroupIdentity ℕ) (reply : ScoreAdsReply) :
    Prop where
  lookups : ∀ owner ∈ r.ownersLookedUp (r.scoresDone bids interestGroupIndexMap reply),
    owner ∈ r.server.buyerReportWinJsUrls
  represented : ∀ ghost ∈ reply.ghostWinningAdScores, ∃ entry ∈
    r.clientGhostWinners (r.scoresDone bids interestGroupIndexMap reply) updates,
    r.Represents ghost entry

/-- There is no ghost winner; or the client is no app, every ghost winner's owner has a report
URL, and there is a winner if the response is for another seller. -/
def Buildable (reply : ScoreAdsReply) : Prop :=
  reply.ghostWinningAdScores = [] ∨ r.clientType ≠ .android ∧
    (∀ ghost ∈ reply.ghostWinningAdScores,
      ghost.interestGroupOwner ∈ r.server.buyerReportWinJsUrls) ∧
    (r.auctionScope = .serverComponentMultiSeller → (r.server.highScore reply).isSome = true)

instance (reply : ScoreAdsReply) : Decidable (r.Buildable reply) :=
  inferInstanceAs (Decidable (_ ∨ _ ∧ _ ∧ _))

/-! ### The entries -/

variable {r}

theorem Represents.owner_mem {ghost : AdScore ℚ} {entry : KAnonGhostWinner FloatVal}
    (h : r.Represents ghost entry) : ghost.interestGroupOwner ∈ r.server.buyerReportWinJsUrls := by
  rw [← getKAnonJoinCandidate_isSome r.server.keys, h.joinCandidate]
  rfl

variable (r)

/-- The entry of a score represents the ghost winner that it is the score of, if its owner has
a report URL. -/
theorem represents_kAnonGhostWinnerOf {ghost handled : AdScore ℚ}
    (hsame : SameButContributions ghost handled)
    (howner : ghost.interestGroupOwner ∈ r.server.buyerReportWinJsUrls) :
    r.Represents ghost (kAnonGhostWinnerOf (isComponentAuction r.auctionScope) r.joinCandidate
      handled.asFloats) := by
  obtain ⟨contributions, rfl⟩ := hsame
  obtain ⟨candidate, hcandidate⟩ := Option.isSome_iff_exists.mp <|
    (getKAnonJoinCandidate_isSome r.server.keys).mpr howner
  have hidentity := populateSignals_identity (F := FloatVal) ghost.interestGroupOwner
  constructor
  · exact (hidentity ..).1
  · exact (hidentity ..).2
  · show getKAnonJoinCandidate r.server.keys ghost r.server.buyerReportWinJsUrls =
      some ((getKAnonJoinCandidate r.server.keys ghost r.server.buyerReportWinJsUrls).getD _)
    rw [hcandidate]
    rfl

theorem ghostWinnersOf_kanonData (henforce : r.enableEnforceKanon = true)
    (done : ScoreAdsDone ℚ) :
    (ghostWinnersOf (r.kanonData done)).getD [] =
      (done.ghostWinners.getD []).map fun score =>
        kAnonGhostWinnerOf (isComponentAuction r.auctionScope) r.joinCandidate
          score.asFloats := by
  unfold kanonData
  rw [henforce]
  show ((done.ghostWinners.map (List.map AdScore.asFloats)).map (List.map _)).getD [] = _
  cases done.ghostWinners with
  | none => rfl
  | some ghosts => exact List.map_map

theorem kAnonGhostWinners_auctionResult (herrors : r.decrypted.clientVisibleErrors = [])
    (done : ScoreAdsDone ℚ) (updates : UpdateGroupMap) :
    (r.auctionResult done updates).kAnonGhostWinners =
      if r.clientType ≠ .android ∧ done.highScore.isSome = true then
        (ghostWinnersOf (r.kanonData done)).getD []
      else [] := by
  have herror : r.clientVisibleError = none := by
    unfold clientVisibleError
    rw [herrors]
    rfl
  have hdata : ∀ (score : AdScore FloatVal) (data : ComponentAuctionData)
      (kanonData : Option (KAnonAuctionResultData FloatVal)),
      (adScoreToAuctionResult (some score) none r.auctionScope data
        kanonData).kAnonGhostWinners = (ghostWinnersOf kanonData).getD [] := by
    intro score data kanonData
    unfold adScoreToAuctionResult
    dsimp only
    split <;> rfl
  unfold auctionResult
  rw [herror]
  cases done.highScore with
  | none => simp [adScoreToAuctionResult, mapAdScoreToAuctionResult, AuctionResult.unset]
  | some score =>
    rw [Option.map_some, hdata]
    by_cases happ : r.clientType = .android
    · simp [happ, ghostWinnersOf]
    · simp [happ]

theorem clientGhostWinners_eq (henforce : r.enableEnforceKanon = true)
    (herrors : r.decrypted.clientVisibleErrors = []) (done : ScoreAdsDone ℚ)
    (updates : UpdateGroupMap) :
    r.clientGhostWinners done updates =
      if r.clientType ≠ .android ∧
          (r.auctionScope = .serverComponentMultiSeller → done.highScore.isSome = true) then
        (done.ghostWinners.getD []).map fun score =>
          kAnonGhostWinnerOf (isComponentAuction r.auctionScope) r.joinCandidate score.asFloats
      else [] := by
  unfold clientGhostWinners
  rw [kAnonGhostWinners_auctionResult r herrors, ghostWinnersOf_kanonData r henforce]
  by_cases happ : r.clientType = .android
  · simp [happ]
  · by_cases hcomponent : r.auctionScope = .serverComponentMultiSeller
    · simp [happ, hcomponent]
    · simp [happ, hcomponent]

/-! ## When the data can be built -/

section Run

variable {bids : FlatHashMap String BuyerReply} {outcome : KAnonQueryOutcome}
  {signals : Option (String × UInt32)} {updates : UpdateGroupMap}
  {interestGroupIndexMap : FlatHashMap InterestGroupIdentity ℕ} {reply : ScoreAdsReply}

theorem isSome_highScore_scoresDone :
    (r.scoresDone bids interestGroupIndexMap reply).highScore.isSome =
      (r.server.highScore reply).isSome := by
  have hrel := @highScore_scoresDone r bids interestGroupIndexMap reply
  generalize r.server.highScore reply = sent at hrel
  generalize (r.scoresDone bids interestGroupIndexMap reply).highScore = highScore at hrel
  cases hrel with
  | none => rfl
  | some hsame => rfl

theorem lookups_iff (henforce : r.enableEnforceKanon = true)
    (hdecided : DecidedFrom r.server (r.createScoreAdsRequest bids outcome signals) reply) :
    (∀ owner ∈ r.ownersLookedUp (r.scoresDone bids interestGroupIndexMap reply),
        owner ∈ r.server.buyerReportWinJsUrls) ↔
      (r.clientType ≠ .android → ∀ ghost ∈ reply.ghostWinningAdScores,
        ghost.interestGroupOwner ∈ r.server.buyerReportWinJsUrls) := by
  have hghosts := @ghostWinners_scoresDone r bids interestGroupIndexMap reply
  unfold ownersLookedUp
  by_cases happ : r.clientType = .android
  · simp [happ]
  · rw [if_neg (by simp [happ, henforce]), List.forall_mem_map]
    constructor
    · intro h _ ghost hghost
      obtain ⟨handled, hhandled, hsame⟩ := Foundation.exists_mem_of_forall₂ hghosts hghost
      rw [← hsame.owner]
      exact h handled (List.mem_append_right _ hhandled)
    · intro h score hscore
      rcases List.mem_append.mp hscore with hwinner | hghost
      · -- the winner was sent as k-anonymous
        rw [Option.mem_toList] at hwinner
        have hrel := @highScore_scoresDone r bids interestGroupIndexMap reply
        rw [hwinner] at hrel
        generalize hhigh : r.server.highScore reply = highScore at hrel
        cases hrel with
        | some hsame =>
          rw [hsame.owner]
          exact r.winner_owner_mem henforce happ (hdecided.winner _ hhigh)
      · obtain ⟨ghost, hsent, hsame⟩ := Foundation.exists_mem_of_forall₂ hghosts.flip hghost
        have howner : score.interestGroupOwner = ghost.interestGroupOwner :=
          SameButContributions.owner hsame
        rw [howner]
        exact h happ ghost hsent

/-- Data on k-anonymity can be built just when there is no ghost winner to represent, or every
ghost winner's owner has a report URL and the response is of a kind that holds them. -/
theorem buildsKAnonData_iff (henforce : r.enableEnforceKanon = true)
    (herrors : r.decrypted.clientVisibleErrors = [])
    (hdecided : DecidedFrom r.server (r.createScoreAdsRequest bids outcome signals) reply) :
    r.BuildsKAnonData bids updates interestGroupIndexMap reply ↔ r.Buildable reply := by
  have hghosts := @ghostWinners_scoresDone r bids interestGroupIndexMap reply
  have hclient := r.clientGhostWinners_eq henforce herrors
    (r.scoresDone bids interestGroupIndexMap reply) updates
  rw [r.isSome_highScore_scoresDone] at hclient
  constructor
  · intro h
    by_cases hempty : reply.ghostWinningAdScores = []
    · exact .inl hempty
    · right
      have howners : ∀ ghost ∈ reply.ghostWinningAdScores,
          ghost.interestGroupOwner ∈ r.server.buyerReportWinJsUrls := by
        intro ghost hghost
        obtain ⟨entry, -, hrepresents⟩ := h.represented ghost hghost
        exact hrepresents.owner_mem
      obtain ⟨ghost, hghost⟩ := List.exists_mem_of_ne_nil _ hempty
      obtain ⟨entry, hentry, -⟩ := h.represented ghost hghost
      rw [hclient] at hentry
      split at hentry
      · rename_i hholds
        exact ⟨hholds.1, howners, hholds.2⟩
      · cases hentry
  · rintro (hempty | ⟨happ, howners, hwinner⟩)
    · constructor
      · rw [r.lookups_iff henforce hdecided]
        simp [hempty]
      · simp [hempty]
    · constructor
      · rw [r.lookups_iff henforce hdecided]
        exact fun _ => howners
      · intro ghost hghost
        obtain ⟨handled, hhandled, hsame⟩ := Foundation.exists_mem_of_forall₂ hghosts hghost
        refine ⟨_, ?_, r.represents_kAnonGhostWinnerOf hsame (howners ghost hghost)⟩
        rw [hclient, if_pos ⟨happ, hwinner⟩]
        exact List.mem_map.mpr ⟨handled, hhandled, rfl⟩

end Run

end ConfiguredReactor

section Example

/-- A URL canonicalized, and the SHA-256 of the keys of two bids: of a render URL or with a
reporting id, of one bid or of the other. -/
def twoBidsKeyLibrary : KeyLibrary where
  gurlSpec := exampleKeyLibrary.gurlSpec
  sha256 key :=
    match key.head?, key.getLast? with
    | some 65, some 119 =>
      [172, 153, 165, 31, 164, 80, 90, 45, 95, 53, 150, 236, 104, 128, 82, 250, 237, 80, 160, 1,
        206, 85, 203, 50, 175, 18, 55, 154, 145, 55, 115, 153]
    | some 78, _ =>
      [211, 14, 33, 215, 7, 131, 8, 103, 243, 51, 143, 247, 137, 10, 76, 21, 107, 46, 15, 33, 246,
        11, 174, 95, 127, 89, 77, 111, 106, 111, 66, 255]
    | _, _ => exampleKeyLibrary.sha256 key

def newBid : AdWithBid ℚ where
  bid := 2
  render := "https://ad.example/new"
  interestGroupName := "hats"

def newScore : AdScore ℚ where
  desirability := 2
  render := "https://ad.example/new"
  interestGroupName := "hats"
  interestGroupOwner := "https://buyer.example"
  buyerBid := 2
  bid := 0
  incomingBidInSellerCurrency := 0

def kanonReactor (buyerReportWinJsUrls : FlatHashMap String String) : ConfiguredReactor where
  server := {
    lib := noDocuments
    keys := twoBidsKeyLibrary
    cbor := chaffLib
    ord := .stored
    strings := ⟨fun _ => "", fun text _ => text⟩
    ops := ⟨0, fun x => 0 < x, fun n => n.toInt, fun x => .ofInt x.floor,
      fun x y => .ofInt (x * y).floor, fun n x => .ofInt (n.toInt * x).floor, 0⟩
    codec := ⟨fun _ => none, fun _ => none⟩
    pastTheEnd _ := {}
    enableKanon := true
    buyerFactory := .ofList ["https://buyer.example"]
    buyerReportWinJsUrls := buyerReportWinJsUrls }
  services := {
    decryptRequest _ _ _ := .error ""
    getBids _ _ := none
    areKAnonymous _ := .callFailed
    fetchScoringSignals _ := .failed
    scoreAds _ := .ok {} }
  clientType := .browser
  decrypted := {
    protectedAuctionInput := { enforceKanon := true }
    rng := FetchBids.leastRng }
  auctionScope := .singleSeller
  auctionConfig := {}
  requestAuctionConfig := {}

def bidsOfBuyer (bids : List (AdWithBid ℚ)) : FlatHashMap String BuyerReply :=
  AList.insert "https://buyer.example" { bids := bids } ∅

def withReportUrl : ConfiguredReactor :=
  kanonReactor (AList.insert "https://buyer.example" "https://buyer.example/bid.js" ∅)

/-- The hashes of the first bid only are those of k-anonymous ads. -/
def firstBidKAnonymous : KAnonQueryOutcome :=
  .replied (kAnonHashesForBid twoBidsKeyLibrary "https://buyer.example"
    "https://buyer.example/bid.js" (exampleReportedBid none))

def twoScores : ScoreAdsReply where
  adScore := some (exampleReportedScore none)
  ghostWinningAdScores := [newScore]

/-- With a winner that is k-anonymous and a ghost winner of the same buyer, whose report URL
is known, the data are built. -/
theorem buildsKAnonData_twoBids :
    withReportUrl.Buildable twoScores ∧
      withReportUrl.BuildsKAnonData (bidsOfBuyer [exampleReportedBid none, newBid]) ∅ ∅
        twoScores := by
  have hbids : (withReportUrl.reactor
      (bidsOfBuyer [exampleReportedBid none, newBid])).bidsToScore =
      [(⟨"https://buyer.example", 0⟩, exampleReportedBid none),
        (⟨"https://buyer.example", 1⟩, newBid)] := rfl
  have hdecided : DecidedFrom withReportUrl.server (withReportUrl.createScoreAdsRequest
      (bidsOfBuyer [exampleReportedBid none, newBid]) firstBidKAnonymous none) twoScores := by
    have hfirst : ownStatus twoBidsKeyLibrary withReportUrl.server.buyerReportWinJsUrls
        firstBidKAnonymous "https://buyer.example" (exampleReportedBid none) = true := by
      decide +kernel
    have hnew : ownStatus twoBidsKeyLibrary withReportUrl.server.buyerReportWinJsUrls
        firstBidKAnonymous "https://buyer.example" newBid = false := by
      decide +kernel
    constructor
    · intro score hscore
      obtain rfl := Option.some.inj (Option.mem_filter_iff.mp hscore).1
      rw [← hfirst]
      refine withReportUrl.scoresAd_of_bid (p := ⟨"https://buyer.example", 0⟩) rfl ?_ rfl rfl rfl
      rw [hbids]
      exact List.mem_cons_self
    · intro ghost hghost
      obtain rfl := List.mem_singleton.mp hghost
      rw [← hnew]
      refine withReportUrl.scoresAd_of_bid (p := ⟨"https://buyer.example", 1⟩) rfl ?_ rfl rfl rfl
      rw [hbids]
      exact List.mem_cons_of_mem _ List.mem_cons_self
  have hbuildable : withReportUrl.Buildable twoScores := by decide +kernel
  exact ⟨hbuildable, (withReportUrl.buildsKAnonData_iff rfl rfl hdecided).mpr hbuildable⟩

/-- The bid of a buyer without a report URL is not k-anonymous, and where it is a ghost winner
its buyer is looked up past the end of the map. -/
theorem buildsKAnonData_fails_without_url :
    let r := kanonReactor ∅
    let reply : ScoreAdsReply := { ghostWinningAdScores := [newScore] }
    DecidedFrom r.server (r.createScoreAdsRequest (bidsOfBuyer [newBid]) .callFailed none)
        reply ∧
      "https://buyer.example" ∈ r.ownersLookedUp (r.scoresDone (bidsOfBuyer [newBid]) ∅ reply) ∧
      ¬ r.BuildsKAnonData (bidsOfBuyer [newBid]) ∅ ∅ reply := by
  intro r reply
  have hlooked : "https://buyer.example" ∈
      r.ownersLookedUp (r.scoresDone (bidsOfBuyer [newBid]) ∅ reply) := by decide +kernel
  refine ⟨⟨?_, ?_⟩, hlooked, fun h => ?_⟩
  · intro score hscore
    cases hscore
  · intro ghost hghost
    obtain rfl := List.mem_singleton.mp hghost
    have hbid : (⟨"https://buyer.example", 0⟩, newBid) ∈
        (r.reactor (bidsOfBuyer [newBid])).bidsToScore := List.mem_singleton.mpr rfl
    exact r.scoresAd_of_bid rfl hbid rfl rfl rfl
  · exact absurd (h.lookups _ hlooked) (by decide +kernel)

end Example

end SelectAd

end BiddingAuction

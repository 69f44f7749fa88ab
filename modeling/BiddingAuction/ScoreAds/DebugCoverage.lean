import BiddingAuction.ScoreAds.DebugAttestation

/-!
# Which scored ads unsampled debug reporting covers

Every scored ad with a debug URL for its outcome is due one report, with its own
rejection reason. The reports that leave are compared with what is due, ad by ad.
-/

namespace BiddingAuction

open Foundation

structure ReportedOutcome where
  id : String
  debugUrl : String
  isWinReport : Bool
  rejectionReason : Option SellerRejectionReason
deriving DecidableEq

def SentDebugUrl.outcome (sent : SentDebugUrl) : ReportedOutcome where
  id := sent.id
  debugUrl := sent.debugUrl
  isWinReport := sent.isWinReport
  rejectionReason := sent.placeholderData.map DebugReportingPlaceholder.rejectionReason

namespace ScoreAdsReactor

section Due

variable (r : ScoreAdsReactor) (lib : Library) (served : Served)

def won (ad : ScoredAdData) : Bool := served.reportingId = some ad.id

def dueUrl (ad : ScoredAdData) : String :=
  if won served ad then ad.adScore.auctionDebugWinUrl else ad.adScore.auctionDebugLossUrl

def ownRejectionReason (ad : ScoredAdData) : SellerRejectionReason :=
  ((r.rejection lib (r.withModifiedBid ad)).map AdRejectionReason.rejectionReason).getD
    .sellerRejectionReasonNotAvailable

def due (ad : ScoredAdData) : ReportedOutcome where
  id := ad.id
  debugUrl := dueUrl served ad
  isWinReport := won served ad
  rejectionReason := some (r.ownRejectionReason lib ad)

/-- Every scored ad with a URL for its outcome is reported exactly once. -/
def CoversScoredAds (ads : List ScoredAdData) (reports : List SellerDebugReport)
    (pings : List DebugPing) : Prop :=
  ∀ ad ∈ ads, dueUrl served ad ≠ "" →
    ((DebugReporting.mk none reports pings).sent.map SentDebugUrl.outcome).count
      (r.due lib served ad) = 1

def filedRejectionReason (signals : PostAuctionSignals) (adScore : AdScore ℚ) :
    SellerRejectionReason :=
  (signals.rejectionReason? adScore.interestGroupOwner adScore.interestGroupName).getD
    .sellerRejectionReasonNotAvailable

/-- The loop pings the URL due for the ad: the score kept for its id has the URL, and
its interest group has the ad's outcome and rejection reason. -/
structure IsPinged (signals : PostAuctionSignals) (adScores : FlatHashMap String (AdScore ℚ))
    (ad : ScoredAdData) (adScore : AdScore ℚ) : Prop where
  kept : adScores.lookup ad.id = some adScore
  outcome : isWinningIg signals adScore = won served ad
  url : debugUrlFor signals adScore = dueUrl served ad
  reason : filedRejectionReason signals adScore = r.ownRejectionReason lib ad

/-- The response gets the win of the component auction once: the URL is still there and
fits, no other ad makes the loop add it again, and the reason filed is the ad's. -/
structure IsReportedOnce (signals : PostAuctionSignals) (winner : WinningAd)
    (entries : List (String × AdScore ℚ)) (ad : ScoredAdData) : Prop where
  url : winner.adScore.auctionDebugWinUrl = dueUrl served ad
  fits : (dueUrl served ad).utf8ByteSize ≤ r.maxAllowedSizeAllDebugUrlsChars
  once : entries.countP (r.isComponentWinnerVisit signals) = 1
  reason : filedRejectionReason signals winner.adScore = r.ownRejectionReason lib ad

def IsCovered (signals : PostAuctionSignals) (winner : WinningAd)
    (adScores : FlatHashMap String (AdScore ℚ)) (entries : List (String × AdScore ℚ))
    (ad : ScoredAdData) : Prop :=
  if won served ad && isComponentAuction r.auctionScope then
    r.IsReportedOnce lib served signals winner entries ad
  else
    ∃ adScore, r.IsPinged lib served signals adScores ad adScore

end Due

section Counts

variable {r : ScoreAdsReactor} {env : DebugEnvironment} {signals : PostAuctionSignals}

theorem outcome_pingOf (ad : String × AdScore ℚ) :
    (pingOf env signals ad).sent.outcome =
      { id := ad.1
        debugUrl := debugUrlFor signals ad.2
        isWinReport := isWinningIg signals ad.2
        rejectionReason := some (filedRejectionReason signals ad.2) } := rfl

theorem id_of_mem_pingsFor {ad : String × AdScore ℚ} {outcome : ReportedOutcome}
    (h : outcome ∈ (r.pingsFor env signals ad).map fun ping => ping.sent.outcome) :
    outcome.id = ad.1 := by
  obtain ⟨ping, hping, rfl⟩ := List.mem_map.mp h
  obtain ⟨-, -, rfl⟩ := mem_pingsFor.mp hping
  rfl

theorem count_pings {adScores : FlatHashMap String (AdScore ℚ)} (outcome : ReportedOutcome) :
    (((env.ord.entries adScores).flatMap (r.pingsFor env signals)).map
      fun ping => ping.sent.outcome).count outcome =
      ((adScores.lookup outcome.id).map fun adScore =>
        ((r.pingsFor env signals (outcome.id, adScore)).map fun ping => ping.sent.outcome).count
          outcome).getD 0 := by
  rw [List.map_flatMap, count_flatMap_of_nodup Prod.fst ReportedOutcome.id
    HashOrder.keys_nodup fun ad _ outcome h => id_of_mem_pingsFor h]
  cases hfind : (env.ord.entries adScores).find? fun ad => ad.1 = outcome.id with
  | none =>
    have hnone : adScores.lookup outcome.id = none := by
      rw [Option.eq_none_iff_forall_ne_some]
      intro adScore hsome
      exact List.find?_eq_none.mp hfind (outcome.id, adScore)
        (HashOrder.mem_entries.mpr hsome) (by simp)
    rw [hnone]
    rfl
  | some ad =>
    have hid : ad.1 = outcome.id := by simpa using List.find?_some hfind
    have hmem := List.mem_of_find?_eq_some hfind
    obtain ⟨id, adScore⟩ := ad
    obtain rfl : id = outcome.id := hid
    rw [HashOrder.mem_entries.mp hmem]
    rfl

theorem count_winnerReports {winner : WinningAd} {outcome : ReportedOutcome}
    (hwin : outcome.isWinReport = true) (hurl : outcome.debugUrl ≠ "") :
    ((r.winnerReports env signals winner).map fun report => report.sent.outcome).count outcome =
      if outcome = (winOffer signals winner).sent.outcome ∧
        outcome.debugUrl.utf8ByteSize ≤ r.maxAllowedSizeAllDebugUrlsChars then 1 else 0 := by
  have hloss : (winnerLossOffer signals winner).sent.outcome ≠ outcome := by
    rintro rfl
    cases hwin
  have hmap : (r.winnerReports env signals winner).map (fun report => report.sent.outcome) =
      (r.admitted (winnerOffers signals winner)).map fun offer => offer.sent.outcome := by
    unfold winnerReports
    rw [List.map_map]
    rfl
  have hrest : ∀ used, ((Budget.accept ReportOffer.size r.maxAllowedSizeAllDebugUrlsChars used
      ([winnerLossOffer signals winner].filter ReportOffer.hasUrl)).map
        fun offer => offer.sent.outcome).count outcome = 0 := by
    intro used
    refine List.count_eq_zero.mpr fun hmem => ?_
    obtain ⟨offer, hoffer, rfl⟩ := List.mem_map.mp hmem
    have hoffer := List.mem_of_mem_filter (Budget.accept_sublist.subset hoffer)
    obtain rfl := List.mem_singleton.mp hoffer
    exact hloss rfl
  rw [hmap]
  unfold admitted winnerOffers
  cases hhas : (winOffer signals winner).hasUrl with
  | false =>
    rw [List.filter_cons_of_neg (by simp [hhas]), hrest, if_neg]
    rintro ⟨rfl, -⟩
    exact hurl (bne_eq_false_iff_eq.mp hhas)
  | true =>
    rw [List.filter_cons_of_pos hhas, Budget.accept, Nat.add_zero]
    by_cases heq : outcome = (winOffer signals winner).sent.outcome
    · subst heq
      by_cases hfits : (winOffer signals winner).size ≤ r.maxAllowedSizeAllDebugUrlsChars
      · rw [if_pos hfits, if_pos ⟨rfl, hfits⟩, List.map_cons, List.count_cons_self, hrest]
      · rw [if_neg hfits, hrest, if_neg fun h => hfits h.2]
    · rw [if_neg (c := outcome = _ ∧ _) fun h => heq h.1]
      split
      · rw [List.map_cons, List.count_cons_of_ne (Ne.symm heq), hrest]
      · exact hrest _

theorem id_of_mem_winnerReports {winner : WinningAd} {outcome : ReportedOutcome}
    (h : outcome ∈ (r.winnerReports env signals winner).map fun report => report.sent.outcome) :
    outcome.id = winner.id ∧ (winner.adScore.auctionDebugWinUrl ≠ "" ∨
      winner.adScore.auctionDebugLossUrl ≠ "") := by
  obtain ⟨report, hreport, rfl⟩ := List.mem_map.mp h
  obtain ⟨offer, hoffer, rfl⟩ := List.mem_map.mp hreport
  obtain ⟨hmem, hurl⟩ := List.mem_filter.mp (Budget.accept_sublist.subset hoffer)
  rcases List.mem_cons.mp hmem with rfl | hmem
  · exact ⟨rfl, .inl (bne_iff_ne.mp hurl)⟩
  · obtain rfl := List.mem_singleton.mp hmem
    exact ⟨rfl, .inr (bne_iff_ne.mp hurl)⟩

theorem count_unsampled {winner : WinningAd} {adScores : FlatHashMap String (AdScore ℚ)}
    (outcome : ReportedOutcome) :
    let done := r.performUnsampledDebugReporting env signals winner (env.ord.entries adScores)
    ((DebugReporting.mk none done.1 done.2).sent.map SentDebugUrl.outcome).count outcome =
      (env.ord.entries adScores).countP (r.isComponentWinnerVisit signals) *
        ((r.winnerReports env signals winner).map fun report => report.sent.outcome).count
          outcome +
      ((adScores.lookup outcome.id).map fun adScore =>
        ((r.pingsFor env signals (outcome.id, adScore)).map fun ping => ping.sent.outcome).count
          outcome).getD 0 := by
  intro done
  have hdone : done = _ := performUnsampledDebugReporting_eq r env signals winner _
  rw [hdone, ← count_pings]
  unfold DebugReporting.sent
  rw [List.map_append, List.count_append, List.map_map, List.map_map]
  congr 1
  show ((List.flatten _).map fun report : SellerDebugReport => report.sent.outcome).count _ = _
  induction (env.ord.entries adScores).countP (r.isComponentWinnerVisit signals) with
  | zero => simp
  | succ n ih =>
    rw [List.replicate_succ, List.flatten_cons, List.map_append, List.count_append, ih,
      Nat.succ_mul, Nat.add_comm]

end Counts

section Covers

variable {r : ScoreAdsReactor} {env : DebugEnvironment} {signals : PostAuctionSignals}
variable {lib : Library} {served : Served} {winner : WinningAd}
variable {adScores : FlatHashMap String (AdScore ℚ)} {ad : ScoredAdData}

theorem count_due_of_componentWinner (hwinner : winner.id = served.reportingId.getD "")
    (hwon : won served ad = true) (hcomponent : isComponentAuction r.auctionScope = true)
    (hurl : dueUrl served ad ≠ "") :
    let done := r.performUnsampledDebugReporting env signals winner (env.ord.entries adScores)
    ((DebugReporting.mk none done.1 done.2).sent.map SentDebugUrl.outcome).count
        (r.due lib served ad) = 1 ↔
      r.IsReportedOnce lib served signals winner (env.ord.entries adScores) ad := by
  have hid : ad.id = winner.id := by
    rw [hwinner, of_decide_eq_true hwon]
    rfl
  -- nothing of the winner's group is pinged
  have hpings : ∀ adScore, ((r.pingsFor env signals ((r.due lib served ad).id, adScore)).map
      fun ping => ping.sent.outcome).count (r.due lib served ad) = 0 := by
    intro adScore
    refine List.count_eq_zero.mpr fun hmem => ?_
    obtain ⟨ping, hping, heq⟩ := List.mem_map.mp hmem
    obtain ⟨hvisit, -, rfl⟩ := mem_pingsFor.mp hping
    have hwin : isWinningIg signals adScore = won served ad :=
      congrArg ReportedOutcome.isWinReport heq
    simp [hwin, hwon, hcomponent] at hvisit
  intro done
  rw [count_unsampled, count_winnerReports (by exact hwon) (by exact hurl)]
  have hnone : ((adScores.lookup (r.due lib served ad).id).map fun adScore =>
      ((r.pingsFor env signals ((r.due lib served ad).id, adScore)).map
        fun ping => ping.sent.outcome).count (r.due lib served ad)).getD 0 = 0 := by
    cases adScores.lookup (r.due lib served ad).id with
    | none => rfl
    | some adScore => exact hpings adScore
  rw [hnone, Nat.add_zero]
  constructor
  · intro hone
    split at hone
    · rename_i h
      obtain ⟨heq, hfits⟩ := h
      rw [Nat.mul_one] at hone
      exact ⟨(congrArg ReportedOutcome.debugUrl heq).symm, hfits, hone,
        (Option.some.inj (congrArg ReportedOutcome.rejectionReason heq)).symm⟩
    · rw [Nat.mul_zero] at hone
      cases hone
  · rintro ⟨hsame, hfits, honce, hreason⟩
    rw [if_pos, honce]
    refine ⟨?_, hfits⟩
    unfold due winOffer sentFor SentDebugUrl.outcome
    rw [hid, hwon, ← hsame, ← hreason]
    rfl

theorem count_due_of_pinged
    (hreports : isComponentAuction r.auctionScope = true →
      ((r.winnerReports env signals winner).map fun report => report.sent.outcome).count
        (r.due lib served ad) = 0)
    (hnot : (won served ad && isComponentAuction r.auctionScope) = false)
    (hurl : dueUrl served ad ≠ "") :
    let done := r.performUnsampledDebugReporting env signals winner (env.ord.entries adScores)
    ((DebugReporting.mk none done.1 done.2).sent.map SentDebugUrl.outcome).count
        (r.due lib served ad) = 1 ↔
      ∃ adScore, r.IsPinged lib served signals adScores ad adScore := by
  intro done
  rw [count_unsampled]
  have hzero : (env.ord.entries adScores).countP (r.isComponentWinnerVisit signals) *
      ((r.winnerReports env signals winner).map fun report => report.sent.outcome).count
        (r.due lib served ad) = 0 := by
    cases hcomponent : isComponentAuction r.auctionScope with
    | true => rw [hreports hcomponent, Nat.mul_zero]
    | false =>
      have hnone : (env.ord.entries adScores).countP (r.isComponentWinnerVisit signals) = 0 :=
        List.countP_eq_zero.mpr fun entry _ => by simp [isComponentWinnerVisit, hcomponent]
      rw [hnone, Nat.zero_mul]
  rw [hzero, Nat.zero_add]
  show ((adScores.lookup ad.id).map _).getD 0 = 1 ↔ _
  cases hkept : adScores.lookup ad.id with
  | none =>
    refine iff_of_false (by simp) ?_
    rintro ⟨adScore, hpinged⟩
    rw [hpinged.kept] at hkept
    cases hkept
  | some adScore =>
    rw [Option.map_some, Option.getD_some]
    show ((r.pingsFor env signals (ad.id, adScore)).map _).count _ = 1 ↔ _
    rw [pingsFor_eq]
    constructor
    · intro hone
      split at hone
      · rw [List.map_singleton, List.count_singleton] at hone
        split at hone
        · rename_i heq
          have heq := beq_iff_eq.mp heq
          exact ⟨adScore, hkept, congrArg ReportedOutcome.isWinReport heq,
            congrArg ReportedOutcome.debugUrl heq,
            Option.some.inj (congrArg ReportedOutcome.rejectionReason heq)⟩
        · cases hone
      · cases hone
    · rintro ⟨adScore', hpinged⟩
      obtain rfl := Option.some.inj (hkept.symm.trans hpinged.kept)
      have houtcome : (pingOf env signals (ad.id, adScore)).sent.outcome =
          r.due lib served ad := by
        unfold due
        rw [outcome_pingOf, hpinged.outcome, hpinged.url, hpinged.reason]
      rw [if_pos ⟨by rw [hpinged.outcome]; exact hnot, by rw [hpinged.url]; exact hurl⟩,
        List.map_singleton, houtcome, List.count_singleton, if_pos (beq_self_eq_true _)]

theorem adScore_eq_none_of_reportingId {ch : Choices} {responses : List RomaResponse}
    (hserved : r.scoreAdsCallback lib ch responses = some served)
    (hnone : served.reportingId = none) : served.adScore = none := by
  unfold scoreAdsCallback at hserved
  dsimp only at hserved
  split at hserved
  · obtain rfl := Option.some.inj hserved
    rfl
  · simp only [Option.bind_eq_bind, Option.bind_eq_some_iff] at hserved
    obtain ⟨_, -, _, -, _, -, hserved⟩ := hserved
    obtain rfl := Option.some.inj hserved
    cases hnone

variable (env) in
theorem debugWinner_urls_of_none (hnone : served.adScore = none) :
    (debugWinner env served).adScore.auctionDebugWinUrl = "" ∧
      (debugWinner env served).adScore.auctionDebugLossUrl = "" := by
  unfold debugWinner DebugEnvironment.attestDebugUrls
  rw [hnone]
  split <;> exact ⟨rfl, rfl⟩

theorem count_winnerReports_of_not_won {ch : Choices} {responses : List RomaResponse}
    (hserved : r.scoreAdsCallback lib ch responses = some served)
    (hnot : won served ad = false) :
    ((r.winnerReports env signals (debugWinner env served)).map
      fun report => report.sent.outcome).count (r.due lib served ad) = 0 := by
  refine List.count_eq_zero.mpr fun hmem => ?_
  obtain ⟨hid, hurls⟩ := id_of_mem_winnerReports hmem
  cases hreporting : served.reportingId with
  | none =>
    obtain ⟨hwin, hloss⟩ := debugWinner_urls_of_none env
      (adScore_eq_none_of_reportingId hserved hreporting)
    exact hurls.elim (fun h => h hwin) fun h => h hloss
  | some id =>
    have heq : ad.id = id := by
      rw [show ad.id = (debugWinner env served).id from hid]
      unfold debugWinner
      rw [hreporting]
      rfl
    simp [won, hreporting, heq] at hnot

variable (r env lib) in
/-- What unsampled debug reporting does for the scored ads, when it is enabled. -/
def UnsampledCoverage (ch : Choices) (responses : List RomaResponse) : Prop :=
  r.enableDebugReporting = true → r.sampled = false →
    ∀ served, r.scoreAdsCallback lib ch responses = some served →
      ∀ d, r.debugReporting env lib ch responses = some d →
        r.CoversScoredAds lib served (r.collectValidRomaResponses lib responses) d.reports d.pings

/-- Every scored ad with a URL for its outcome is reported exactly once, exactly if,
whenever there is such an ad, debug URLs are reported at all and the ad is covered. -/
theorem unsampledCoverage_iff (r : ScoreAdsReactor) (env : DebugEnvironment) (lib : Library)
    (ch : Choices) (responses : List RomaResponse) :
    r.UnsampledCoverage env lib ch responses ↔
      (r.enableDebugReporting = true → r.sampled = false →
        ∀ served, r.scoreAdsCallback lib ch responses = some served →
          ∀ ad ∈ r.collectValidRomaResponses lib responses, dueUrl served ad ≠ "" →
            r.reportsDebugUrls env served = true ∧
              r.IsCovered lib served (r.debugSignals env served) (debugWinner env served)
                (r.findWinningAd lib ch (r.collectValidRomaResponses lib responses)).adScores
                (r.debugAds env lib ch responses) ad) := by
  refine imp_congr_right fun henabled => imp_congr_right fun hsampled =>
    forall_congr' fun served => imp_congr_right fun hserved => ?_
  have hall : (∀ d, r.debugReporting env lib ch responses = some d →
      r.CoversScoredAds lib served (r.collectValidRomaResponses lib responses) d.reports
        d.pings) ↔
      r.CoversScoredAds lib served (r.collectValidRomaResponses lib responses)
        (r.reportsAndPings env lib ch responses served).1
        (r.reportsAndPings env lib ch responses served).2 := by
    rw [forall_debugReporting (P := r.CoversScoredAds lib served
      (r.collectValidRomaResponses lib responses))]
    refine ⟨fun h => h served hserved, fun h served' hserved' => ?_⟩
    obtain rfl := Option.some.inj (hserved.symm.trans hserved')
    exact h
  rw [hall]
  refine forall_congr' fun ad => imp_congr_right fun _ => imp_congr_right fun hurl => ?_
  unfold reportsAndPings
  cases hreports : r.reportsDebugUrls env served with
  | false => simp [DebugReporting.sent]
  | true =>
    rw [Bool.not_true, if_neg Bool.false_ne_true, hsampled, if_neg Bool.false_ne_true,
      and_iff_right rfl]
    unfold IsCovered
    split
    · rename_i hwinner
      obtain ⟨hwon, hcomponent⟩ := Bool.and_eq_true_iff.mp hwinner
      exact count_due_of_componentWinner rfl hwon hcomponent hurl
    · rename_i hother
      have hother := Bool.eq_false_of_not_eq_true hother
      refine count_due_of_pinged (fun hcomponent => ?_) hother hurl
      rw [hcomponent, Bool.and_true] at hother
      exact count_winnerReports_of_not_won hserved hother

def withoutAttestation : DebugEnvironment := { sellerEnrolled with adtechAttestationCache := none }

/-- `w` wins without a debug URL, and the loss of `x` is not reported. -/
theorem unsampledCoverage_fails_on_winner_without_url :
    ¬ twoDebugAds.UnsampledCoverage withoutAttestation debugLibrary .standard
      [.ok ⟨"w", "bare"⟩, .ok ⟨"x", "other"⟩] := by
  intro h
  -- who won, how often `x` is reported, and what is due for it
  have heval : (twoDebugAds.scoreAdsCallback debugLibrary .standard
      [.ok ⟨"w", "bare"⟩, .ok ⟨"x", "other"⟩]).map Served.reportingId = some (some "w") ∧
      (twoDebugAds.debugReporting withoutAttestation debugLibrary .standard
        [.ok ⟨"w", "bare"⟩, .ok ⟨"x", "other"⟩]).map (fun d => d.sent.length) = some 0 ∧
      ((twoDebugAds.collectValidRomaResponses debugLibrary
        [.ok ⟨"w", "bare"⟩, .ok ⟨"x", "other"⟩])[1]?.map fun ad =>
          (ad.id, ad.adScore.auctionDebugLossUrl)) = some ("x", "https://other.com/loss") := by
    decide +kernel
  obtain ⟨hwinner, hnothing, hdue⟩ := heval
  obtain ⟨served, hserved, hid⟩ := Option.map_eq_some_iff.mp hwinner
  obtain ⟨d, hd, hlength⟩ := Option.map_eq_some_iff.mp hnothing
  obtain ⟨ad, had, hx⟩ := Option.map_eq_some_iff.mp hdue
  obtain ⟨hx, hloss⟩ := Prod.mk.inj hx
  have hurl : dueUrl served ad ≠ "" := by
    unfold dueUrl won
    simp [hid, hx, hloss]
  have hcount := h rfl rfl served hserved d hd ad (List.mem_of_getElem? had) hurl
  rw [show (DebugReporting.mk none d.reports d.pings).sent = [] from
    List.length_eq_zero_iff.mp hlength] at hcount
  cases hcount

end Covers

end ScoreAdsReactor

end BiddingAuction

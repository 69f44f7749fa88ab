import BiddingAuction.Foundation.Budget
import BiddingAuction.ScoreAds.DebugReporting

/-!
# The debug reports in closed form

Each path offers reports to the response one after another, and the size check
admits those that fit. The offers without a URL take no room, so the reports with
a URL are the offers with a URL that a budget admits; which these are depends on
the ads and on the draws, not on the sizes.
-/

namespace BiddingAuction

open Foundation

namespace ScoreAdsReactor

/-! ## Offers and reports -/

namespace ReportOffer

def size (offer : ReportOffer) : ℕ := offer.sent.debugUrl.utf8ByteSize

def hasUrl (offer : ReportOffer) : Bool := offer.sent.debugUrl != ""

theorem size_eq_zero {offer : ReportOffer} (h : offer.hasUrl = false) : offer.size = 0 := by
  unfold hasUrl at h
  unfold size
  rw [bne_eq_false_iff_eq] at h
  rw [h]
  rfl

theorem size_pos {offer : ReportOffer} (h : offer.hasUrl = true) : 0 < offer.size := by
  refine Nat.pos_of_ne_zero fun hzero => ?_
  rw [hasUrl, bne_iff_ne] at h
  exact h (String.utf8ByteSize_eq_zero_iff.mp hzero)

@[simp] theorem hasUrl_cooldownOffer (id : String) (isWinReport isComponentWin : Bool) :
    (cooldownOffer id isWinReport isComponentWin).hasUrl = false := rfl

end ReportOffer

def withUrl (reports : List SellerDebugReport) : List SellerDebugReport :=
  reports.filter fun report => report.sent.debugUrl != ""

section Closed

variable (r : ScoreAdsReactor) (env : DebugEnvironment) (signals : PostAuctionSignals)

def admitted (offers : List ReportOffer) : List ReportOffer :=
  Budget.accept ReportOffer.size r.maxAllowedSizeAllDebugUrlsChars 0 offers

theorem foldl_addSellerDebugReportToResponse (offers : List ReportOffer) (s : ReportsInResponse) :
    (offers.foldl (r.addSellerDebugReportToResponse env) s).reports =
      s.reports ++ (Budget.accept ReportOffer.size r.maxAllowedSizeAllDebugUrlsChars
        s.currentSizeAllDebugUrlsChars offers).map (ReportOffer.toReport env) := by
  induction offers generalizing s with
  | nil => simp [Budget.accept]
  | cons offer offers ih =>
    rw [List.foldl_cons, ih, Budget.accept]
    unfold addSellerDebugReportToResponse ReportOffer.size
    by_cases hfits : offer.sent.debugUrl.utf8ByteSize + s.currentSizeAllDebugUrlsChars ≤
        r.maxAllowedSizeAllDebugUrlsChars
    · simp [hfits, not_lt.mpr hfits]
    · simp [hfits, not_le.mp hfits]

theorem withUrl_map_toReport (offers : List ReportOffer) :
    withUrl (offers.map (ReportOffer.toReport env)) =
      (offers.filter ReportOffer.hasUrl).map (ReportOffer.toReport env) := by
  unfold withUrl
  rw [List.filter_map]
  rfl

theorem withUrl_foldl (offers : List ReportOffer) :
    withUrl (offers.foldl (r.addSellerDebugReportToResponse env) {}).reports =
      (r.admitted (offers.filter ReportOffer.hasUrl)).map (ReportOffer.toReport env) := by
  rw [foldl_addSellerDebugReportToResponse, List.nil_append, withUrl_map_toReport]
  unfold admitted
  rw [Budget.filter_accept (fun offer _ h => ReportOffer.size_eq_zero h) (Nat.zero_le _)]

/-! ## A single seller -/

def isSampled (ad : String × AdScore ℚ) : Bool :=
  debugUrlFor signals ad.2 != "" && env.debugUrlPassesSampling (isWinningIg signals ad.2) ad.1

def singleSellerOffer (ad : String × AdScore ℚ) : ReportOffer where
  sent := sentFor signals ad.1 (debugUrlFor signals ad.2) (isWinningIg signals ad.2) ad.2
  isComponentWin := false

def singleSellerOffers (ads : List (String × AdScore ℚ)) (cooldown : Option (String × Bool)) :
    List ReportOffer :=
  match ads.find? (isSampled env signals) with
  | some ad => [singleSellerOffer signals ad]
  | none =>
    ((ads.reverse.find? fun ad => debugUrlFor signals ad.2 != "").map (fun ad =>
      (ad.1, isWinningIg signals ad.2)) |>.or cooldown).toList.map fun c =>
        cooldownOffer c.1 c.2 false

theorem performSampledDebugReportingForSingleSeller_eq (ads : List (String × AdScore ℚ))
    (cooldown : Option (String × Bool)) (s : ReportsInResponse) :
    r.performSampledDebugReportingForSingleSeller env signals ads cooldown s =
      (singleSellerOffers env signals ads cooldown).foldl
        (r.addSellerDebugReportToResponse env) s := by
  induction ads generalizing cooldown with
  | nil => cases cooldown <;> rfl
  | cons ad ads ih =>
    obtain ⟨id, adScore⟩ := ad
    rw [performSampledDebugReportingForSingleSeller]
    unfold singleSellerOffers
    by_cases hurl : debugUrlFor signals adScore = ""
    · simp only [hurl, if_true]
      rw [ih, List.find?_cons_of_neg (by simp [isSampled, hurl]), List.reverse_cons,
        List.find?_append]
      simp [singleSellerOffers, hurl]
    · by_cases hpasses : env.debugUrlPassesSampling (isWinningIg signals adScore) id = true
      · simp only [hurl, if_false, hpasses, if_true]
        rw [List.find?_cons_of_pos (by simp [isSampled, hurl, hpasses])]
        rfl
      · simp only [hurl, if_false, hpasses]
        rw [ih, List.find?_cons_of_neg (by simp [isSampled, hpasses]), List.reverse_cons,
          List.find?_append]
        unfold singleSellerOffers
        cases ads.find? (isSampled env signals) with
        | some ad => rfl
        | none =>
          cases ads.reverse.find? fun ad => debugUrlFor signals ad.2 != "" with
          | some ad => simp
          | none => simp [hurl]

theorem withUrl_singleSeller (ads : List (String × AdScore ℚ)) :
    withUrl (r.performSampledDebugReportingForSingleSeller env signals ads none {}).reports =
      (r.admitted ((ads.find? (isSampled env signals)).toList.map
        (singleSellerOffer signals))).map (ReportOffer.toReport env) := by
  rw [performSampledDebugReportingForSingleSeller_eq, withUrl_foldl]
  congr 2
  unfold singleSellerOffers
  cases hfind : ads.find? (isSampled env signals) with
  | some ad =>
    have hsampled := List.find?_some hfind
    rw [isSampled, Bool.and_eq_true] at hsampled
    exact List.filter_cons_of_pos hsampled.1
  | none =>
    cases ads.reverse.find? fun ad => debugUrlFor signals ad.2 != "" <;> rfl

/-! ## A component auction -/

/-- The winning ad passes sampling for its win while the loop is at an ad. -/
def isWinSampled (winner : WinningAd) (ad : String × AdScore ℚ) : Bool :=
  isWinningIg signals ad.2 && winner.adScore.auctionDebugWinUrl != "" &&
    env.debugUrlPassesSampling true ad.1

def isLossSampled (ad : String × AdScore ℚ) : Bool :=
  ad.2.auctionDebugLossUrl != "" && env.debugUrlPassesSampling false ad.1

def winOffer (winner : WinningAd) : ReportOffer where
  sent := sentFor signals winner.id winner.adScore.auctionDebugWinUrl true winner.adScore
  isComponentWin := true

def lossOffer (ad : String × AdScore ℚ) : ReportOffer where
  sent := sentFor signals ad.1 ad.2.auctionDebugLossUrl false ad.2
  isComponentWin := isWinningIg signals ad.2

def flagsAfter (flags : SamplingFlags) (ad : String × AdScore ℚ) : SamplingFlags where
  winUrlChecked := flags.winUrlChecked || isWinningIg signals ad.2
  lossUrlSelected := flags.lossUrlSelected || isLossSampled env ad
  putSellerInCooldownForConfirmedLoss := flags.putSellerInCooldownForConfirmedLoss ||
    (!isWinningIg signals ad.2 && ad.2.auctionDebugLossUrl != "" &&
      (flags.lossUrlSelected || !env.debugUrlPassesSampling false ad.1))

def winOffersAt (winner : WinningAd) (ad : String × AdScore ℚ) : List ReportOffer :=
  if isWinSampled env signals winner ad then [winOffer signals winner]
  else if isWinningIg signals ad.2 && winner.adScore.auctionDebugWinUrl != "" then
    [cooldownOffer winner.id true true]
  else []

def lossOffersAt (flags : SamplingFlags) (ad : String × AdScore ℚ) : List ReportOffer :=
  if !flags.lossUrlSelected && isLossSampled env ad then [lossOffer signals ad]
  else if ad.2.auctionDebugLossUrl != "" && isWinningIg signals ad.2 then
    [cooldownOffer ad.1 false true]
  else []

def visited : SamplingFlags → List (String × AdScore ℚ) →
    List ((String × AdScore ℚ) × SamplingFlags)
  | _, [] => []
  | flags, ad :: ads =>
    if flags.all then [] else (ad, flags) :: visited (flagsAfter env signals flags ad) ads

def componentOffers (winner : WinningAd) (flags : SamplingFlags)
    (ads : List (String × AdScore ℚ)) : List ReportOffer :=
  (visited env signals flags ads).flatMap fun v =>
    winOffersAt env signals winner v.1 ++ lossOffersAt env signals v.2 v.1

private theorem sampleWin_eq (winner : WinningAd) (ad : String × AdScore ℚ) (s : ReportsInResponse)
    (hwinning : isWinningIg signals ad.2 = true) :
    r.sampleDebugWinReportForComponentAuctionWinner env signals winner ad.1 s =
      (winOffersAt env signals winner ad).foldl (r.addSellerDebugReportToResponse env) s := by
  unfold sampleDebugWinReportForComponentAuctionWinner winOffersAt isWinSampled
  by_cases hurl : winner.adScore.auctionDebugWinUrl = ""
  · simp [hurl]
  · by_cases hpasses : env.debugUrlPassesSampling true ad.1 = true
    · simp [hurl, hwinning, hpasses, winOffer]
    · simp [hurl, hwinning, hpasses]

private theorem sampleLoss_eq (ad : String × AdScore ℚ) (flags : SamplingFlags)
    (s : ReportsInResponse) :
    r.sampleDebugLossReportForComponentAuctionAd env signals ad.1 ad.2 flags s =
      ({ winUrlChecked := flags.winUrlChecked
         lossUrlSelected := (flagsAfter env signals flags ad).lossUrlSelected
         putSellerInCooldownForConfirmedLoss :=
           (flagsAfter env signals flags ad).putSellerInCooldownForConfirmedLoss },
        (lossOffersAt env signals flags ad).foldl (r.addSellerDebugReportToResponse env) s) := by
  unfold sampleDebugLossReportForComponentAuctionAd lossOffersAt flagsAfter isLossSampled
  obtain ⟨checked, selected, cooldown⟩ := flags
  by_cases hurl : ad.2.auctionDebugLossUrl = ""
  · simp [hurl]
  · by_cases hpasses : env.debugUrlPassesSampling false ad.1 = true <;>
      by_cases hwinning : isWinningIg signals ad.2 = true <;> cases selected <;>
      simp [hurl, hpasses, hwinning, lossOffer]

theorem sampleComponentAuctionAd_eq (winner : WinningAd) (flags : SamplingFlags)
    (s : ReportsInResponse) (ad : String × AdScore ℚ) (hgo : flags.all = false) :
    r.sampleComponentAuctionAd env signals winner (flags, s) ad =
      (flagsAfter env signals flags ad,
        (winOffersAt env signals winner ad ++ lossOffersAt env signals flags ad).foldl
          (r.addSellerDebugReportToResponse env) s) := by
  unfold sampleComponentAuctionAd
  rw [if_neg (by simp [hgo]), List.foldl_append]
  by_cases hwinning : isWinningIg signals ad.2 = true
  · rw [if_pos hwinning, sampleWin_eq r env signals winner ad s hwinning, sampleLoss_eq]
    simp [flagsAfter, lossOffersAt, hwinning]
  · rw [if_neg hwinning, sampleLoss_eq]
    simp [flagsAfter, winOffersAt, isWinSampled, hwinning]

theorem foldl_sampleComponentAuctionAd (winner : WinningAd) (ads : List (String × AdScore ℚ))
    (flags : SamplingFlags) (s : ReportsInResponse) :
    (ads.foldl (r.sampleComponentAuctionAd env signals winner) (flags, s)).2 =
      (componentOffers env signals winner flags ads).foldl
        (r.addSellerDebugReportToResponse env) s := by
  induction ads generalizing flags s with
  | nil => rfl
  | cons ad ads ih =>
    rw [List.foldl_cons]
    unfold componentOffers visited
    cases hgo : flags.all with
    | true =>
      have hstop : r.sampleComponentAuctionAd env signals winner (flags, s) ad = (flags, s) := by
        unfold sampleComponentAuctionAd
        rw [if_pos hgo]
      rw [hstop, ih]
      unfold componentOffers
      cases ads with
      | nil => rfl
      | cons ad' ads => simp [visited, hgo]
    | false =>
      rw [sampleComponentAuctionAd_eq r env signals winner flags s ad hgo, ih]
      simp [componentOffers, List.foldl_append]

def winsBefore (winner : WinningAd) (flags : SamplingFlags) (ads : List (String × AdScore ℚ)) : ℕ :=
  (visited env signals flags ads).countP fun v =>
    isWinSampled env signals winner v.1 && !v.2.lossUrlSelected

def winsAfter (winner : WinningAd) (flags : SamplingFlags) (ads : List (String × AdScore ℚ)) : ℕ :=
  (visited env signals flags ads).countP fun v =>
    isWinSampled env signals winner v.1 && v.2.lossUrlSelected

private theorem filter_winOffersAt (winner : WinningAd) (ad : String × AdScore ℚ) :
    (winOffersAt env signals winner ad).filter ReportOffer.hasUrl =
      if isWinSampled env signals winner ad then [winOffer signals winner] else [] := by
  unfold winOffersAt
  split
  · rename_i hsampled
    rw [isWinSampled, Bool.and_eq_true, Bool.and_eq_true] at hsampled
    exact List.filter_cons_of_pos hsampled.1.2
  · split <;> rfl

private theorem filter_lossOffersAt (flags : SamplingFlags) (ad : String × AdScore ℚ) :
    (lossOffersAt env signals flags ad).filter ReportOffer.hasUrl =
      if !flags.lossUrlSelected && isLossSampled env ad then [lossOffer signals ad] else [] := by
  unfold lossOffersAt
  split
  · rename_i hsampled
    rw [Bool.and_eq_true, isLossSampled, Bool.and_eq_true] at hsampled
    exact List.filter_cons_of_pos hsampled.2.1
  · split <;> rfl

theorem filter_componentOffers_of_selected (winner : WinningAd) (flags : SamplingFlags)
    (hselected : flags.lossUrlSelected = true) (ads : List (String × AdScore ℚ)) :
    (componentOffers env signals winner flags ads).filter ReportOffer.hasUrl =
      List.replicate (winsAfter env signals winner flags ads) (winOffer signals winner) ∧
        winsBefore env signals winner flags ads = 0 := by
  induction ads generalizing flags with
  | nil => exact ⟨rfl, rfl⟩
  | cons ad ads ih =>
    unfold componentOffers winsAfter winsBefore visited
    cases hgo : flags.all with
    | true => exact ⟨rfl, rfl⟩
    | false =>
      have hafter : (flagsAfter env signals flags ad).lossUrlSelected = true := by
        simp [flagsAfter, hselected]
      obtain ⟨hoffers, hbefore⟩ := ih (flagsAfter env signals flags ad) hafter
      constructor
      · simp only [Bool.false_eq_true, if_false, List.flatMap_cons, List.filter_append,
          filter_winOffersAt, filter_lossOffersAt, hselected, Bool.not_true, Bool.false_and,
          List.append_nil, List.countP_cons, Bool.and_true]
        rw [componentOffers] at hoffers
        rw [hoffers]
        unfold winsAfter
        split
        · simp [List.replicate_succ]
        · simp
      · rw [winsBefore] at hbefore
        simp [hselected, hbefore]

theorem filter_componentOffers (winner : WinningAd) (flags : SamplingFlags)
    (hselected : flags.lossUrlSelected = false) (ads : List (String × AdScore ℚ)) :
    (componentOffers env signals winner flags ads).filter ReportOffer.hasUrl =
      List.replicate (winsBefore env signals winner flags ads) (winOffer signals winner) ++
        ((ads.find? (isLossSampled env)).toList.map (lossOffer signals) ++
          List.replicate (winsAfter env signals winner flags ads) (winOffer signals winner)) := by
  induction ads generalizing flags with
  | nil => rfl
  | cons ad ads ih =>
    unfold componentOffers winsBefore winsAfter visited
    have hgo : flags.all = false := by simp [SamplingFlags.all, hselected]
    simp only [hgo, Bool.false_eq_true, if_false, List.flatMap_cons, List.filter_append,
      filter_winOffersAt, filter_lossOffersAt, hselected, Bool.not_false, Bool.true_and,
      List.countP_cons, Bool.and_true, Bool.and_false, Nat.add_zero]
    have hwins : ∀ n : ℕ, (if isWinSampled env signals winner ad = true then
        [winOffer signals winner] else []) ++ List.replicate n (winOffer signals winner) =
        List.replicate (n + if isWinSampled env signals winner ad = true then 1 else 0)
          (winOffer signals winner) := by
      intro n
      split
      · rfl
      · rfl
    cases hloss : isLossSampled env ad with
    | true =>
      have hafter : (flagsAfter env signals flags ad).lossUrlSelected = true := by
        simp [flagsAfter, hloss]
      obtain ⟨hoffers, hbefore⟩ := filter_componentOffers_of_selected env signals winner
        (flagsAfter env signals flags ad) hafter ads
      rw [componentOffers] at hoffers
      rw [winsBefore] at hbefore
      rw [hoffers, hbefore, List.find?_cons_of_pos hloss, ← hwins 0]
      simp [winsAfter]
    | false =>
      have hafter : (flagsAfter env signals flags ad).lossUrlSelected = false := by
        simp [flagsAfter, hloss, hselected]
      have hoffers := ih (flagsAfter env signals flags ad) hafter
      rw [componentOffers, winsBefore, winsAfter] at hoffers
      rw [hoffers, List.find?_cons_of_neg (by simp [hloss]), ← hwins]
      simp

def winReportsBefore (winner : WinningAd) (ads : List (String × AdScore ℚ)) : ℕ :=
  min (winsBefore env signals winner {} ads)
    (r.maxAllowedSizeAllDebugUrlsChars / (winOffer signals winner).size)

/-- The ad whose loss is reported: the first to pass, if its URL fits beside the wins. -/
def lossReport? (winner : WinningAd) (ads : List (String × AdScore ℚ)) :
    Option (String × AdScore ℚ) :=
  (ads.find? (isLossSampled env)).filter fun ad =>
    (lossOffer signals ad).size + r.winReportsBefore env signals winner ads *
      (winOffer signals winner).size ≤ r.maxAllowedSizeAllDebugUrlsChars

def sizeWithLoss (winner : WinningAd) (ads : List (String × AdScore ℚ)) : ℕ :=
  r.winReportsBefore env signals winner ads * (winOffer signals winner).size +
    ((r.lossReport? env signals winner ads).map fun ad => (lossOffer signals ad).size).getD 0

def winReportsAfter (winner : WinningAd) (ads : List (String × AdScore ℚ)) : ℕ :=
  min (winsAfter env signals winner {} ads)
    ((r.maxAllowedSizeAllDebugUrlsChars - r.sizeWithLoss env signals winner ads) /
      (winOffer signals winner).size)

private theorem countP_isWinSampled_eq_zero {winner : WinningAd}
    (hurl : winner.adScore.auctionDebugWinUrl = "")
    (l : List ((String × AdScore ℚ) × SamplingFlags)) (p : SamplingFlags → Bool) :
    (l.countP fun v => isWinSampled env signals winner v.1 && p v.2) = 0 :=
  List.countP_eq_zero.mpr fun v _ => by simp [isWinSampled, hurl]

private theorem accept_winOffers (winner : WinningAd) {n used : ℕ}
    (hroom : used ≤ r.maxAllowedSizeAllDebugUrlsChars)
    (hnone : winner.adScore.auctionDebugWinUrl = "" → n = 0) :
    Budget.accept ReportOffer.size r.maxAllowedSizeAllDebugUrlsChars used
        (List.replicate n (winOffer signals winner)) =
      List.replicate (min n ((r.maxAllowedSizeAllDebugUrlsChars - used) /
        (winOffer signals winner).size)) (winOffer signals winner) := by
  by_cases hurl : winner.adScore.auctionDebugWinUrl = ""
  · simp [hnone hurl, Budget.accept]
  · exact Budget.accept_replicate
      (ReportOffer.size_pos (by simpa [ReportOffer.hasUrl, winOffer, sentFor] using hurl)) hroom n

private theorem accept_winsBefore (winner : WinningAd) (ads : List (String × AdScore ℚ)) :
    Budget.accept ReportOffer.size r.maxAllowedSizeAllDebugUrlsChars 0
        (List.replicate (winsBefore env signals winner {} ads) (winOffer signals winner)) =
      List.replicate (r.winReportsBefore env signals winner ads) (winOffer signals winner) :=
  accept_winOffers r signals winner (Nat.zero_le _) fun hurl =>
    countP_isWinSampled_eq_zero env signals hurl (visited env signals {} ads)
      fun flags => !flags.lossUrlSelected

private theorem accept_winsAfter (winner : WinningAd) (ads : List (String × AdScore ℚ))
    (hroom : r.sizeWithLoss env signals winner ads ≤ r.maxAllowedSizeAllDebugUrlsChars) :
    Budget.accept ReportOffer.size r.maxAllowedSizeAllDebugUrlsChars
        (r.sizeWithLoss env signals winner ads)
        (List.replicate (winsAfter env signals winner {} ads) (winOffer signals winner)) =
      List.replicate (r.winReportsAfter env signals winner ads) (winOffer signals winner) :=
  accept_winOffers r signals winner hroom fun hurl =>
    countP_isWinSampled_eq_zero env signals hurl (visited env signals {} ads)
      fun flags => flags.lossUrlSelected

private theorem accept_lossOffer (winner : WinningAd) (ads : List (String × AdScore ℚ)) :
    Budget.accept ReportOffer.size r.maxAllowedSizeAllDebugUrlsChars
        (r.winReportsBefore env signals winner ads * (winOffer signals winner).size)
        ((ads.find? (isLossSampled env)).toList.map (lossOffer signals)) =
      (r.lossReport? env signals winner ads).toList.map (lossOffer signals) := by
  unfold lossReport?
  cases ads.find? (isLossSampled env) with
  | none => rfl
  | some ad =>
    by_cases h : (lossOffer signals ad).size + r.winReportsBefore env signals winner ads *
        (winOffer signals winner).size ≤ r.maxAllowedSizeAllDebugUrlsChars
    · simp [Budget.accept, Option.filter, h]
    · simp [Budget.accept, Option.filter, h]

private theorem sizeWithLoss_eq (winner : WinningAd) (ads : List (String × AdScore ℚ)) :
    r.winReportsBefore env signals winner ads * (winOffer signals winner).size +
        Budget.total ReportOffer.size
          ((r.lossReport? env signals winner ads).toList.map (lossOffer signals)) =
      r.sizeWithLoss env signals winner ads := by
  unfold sizeWithLoss
  cases r.lossReport? env signals winner ads <;> simp

theorem sizeWithLoss_le (winner : WinningAd) (ads : List (String × AdScore ℚ)) :
    r.sizeWithLoss env signals winner ads ≤ r.maxAllowedSizeAllDebugUrlsChars := by
  have hfits : r.winReportsBefore env signals winner ads * (winOffer signals winner).size ≤
      r.maxAllowedSizeAllDebugUrlsChars :=
    (Nat.mul_le_mul_right _ (Nat.min_le_right _ _)).trans (Nat.div_mul_le_self _ _)
  rw [← sizeWithLoss_eq, ← accept_lossOffer]
  exact Budget.used_add_total_accept_le hfits

theorem admitted_componentOffers (winner : WinningAd) (ads : List (String × AdScore ℚ)) :
    r.admitted (List.replicate (winsBefore env signals winner {} ads) (winOffer signals winner) ++
        ((ads.find? (isLossSampled env)).toList.map (lossOffer signals) ++
          List.replicate (winsAfter env signals winner {} ads) (winOffer signals winner))) =
      List.replicate (r.winReportsBefore env signals winner ads) (winOffer signals winner) ++
        ((r.lossReport? env signals winner ads).toList.map (lossOffer signals) ++
          List.replicate (r.winReportsAfter env signals winner ads) (winOffer signals winner)) := by
  unfold admitted
  rw [Budget.accept_append, accept_winsBefore, Budget.total_replicate, Nat.zero_add,
    Budget.accept_append, accept_lossOffer, sizeWithLoss_eq,
    accept_winsAfter r env signals winner ads (r.sizeWithLoss_le env signals winner ads)]

theorem withUrl_component (winner : WinningAd) (ads : List (String × AdScore ℚ)) :
    withUrl (r.performSampledDebugReportingForComponentAuction env signals winner ads).reports =
      (List.replicate (r.winReportsBefore env signals winner ads) (winOffer signals winner) ++
        ((r.lossReport? env signals winner ads).toList.map (lossOffer signals) ++
          List.replicate (r.winReportsAfter env signals winner ads)
            (winOffer signals winner))).map (ReportOffer.toReport env) := by
  rw [← admitted_componentOffers, ← filter_componentOffers env signals winner {} rfl ads]
  unfold performSampledDebugReportingForComponentAuction
  dsimp only
  rw [foldl_sampleComponentAuctionAd]
  split
  · -- the last report has no URL
    have hlast := r.withUrl_foldl env
      (componentOffers env signals winner {} ads ++ [cooldownOffer "" false false])
    rw [List.foldl_append, List.filter_append,
      List.filter_cons_of_neg (by rw [ReportOffer.hasUrl_cooldownOffer]; simp), List.filter_nil,
      List.append_nil] at hlast
    exact hlast
  · exact r.withUrl_foldl env _

/-! ## Unsampled -/

/-- The loss of the winner of a component auction, in the top-level auction. -/
def winnerLossOffer (winner : WinningAd) : ReportOffer where
  sent := sentFor signals winner.id winner.adScore.auctionDebugLossUrl false winner.adScore
  isComponentWin := true

/-- What a visit to an ad of the winner's group offers in a component auction. -/
def winnerOffers (winner : WinningAd) : List ReportOffer :=
  [winOffer signals winner, winnerLossOffer signals winner].filter ReportOffer.hasUrl

def winnerReports (winner : WinningAd) : List SellerDebugReport :=
  (r.admitted (winnerOffers signals winner)).map (ReportOffer.toReport env)

/-- The loop is at an ad of the winner's group, in a component auction. -/
def isComponentWinnerVisit (ad : String × AdScore ℚ) : Bool :=
  ad.2.debugReportUrls.isSome && isWinningIg signals ad.2 && isComponentAuction r.auctionScope

def pingsFor (ad : String × AdScore ℚ) : List DebugPing :=
  if ad.2.debugReportUrls.isSome && !r.isComponentWinnerVisit signals ad then
    sendDebugReportingPing env signals ad.1 (debugUrlFor signals ad.2) ad.2
      (isWinningIg signals ad.2)
  else []

def pingOf (ad : String × AdScore ℚ) : DebugPing where
  sent := sentFor signals ad.1 (debugUrlFor signals ad.2) (isWinningIg signals ad.2) ad.2
  url := createDebugReportingUrlForInterestGroup env.strings (debugUrlFor signals ad.2)
    (getPlaceholderDataForInterestGroup ad.2.interestGroupOwner ad.2.interestGroupName signals)
    (isWinningIg signals ad.2)

theorem debugUrlFor_eq_empty {score : AdScore ℚ} (h : score.debugReportUrls = none) :
    debugUrlFor signals score = "" := by
  unfold debugUrlFor AdScore.auctionDebugWinUrl AdScore.auctionDebugLossUrl
  rw [h]
  exact ite_self _

/-- An ad is pinged unless it has no URL or is of the winner's group in a component
auction. -/
theorem pingsFor_eq (ad : String × AdScore ℚ) :
    r.pingsFor env signals ad =
      if (isWinningIg signals ad.2 && isComponentAuction r.auctionScope) = false ∧
        debugUrlFor signals ad.2 ≠ "" then [pingOf env signals ad] else [] := by
  unfold pingsFor isComponentWinnerVisit sendDebugReportingPing
  cases hurls : ad.2.debugReportUrls with
  | none => simp [debugUrlFor_eq_empty signals hurls]
  | some urls =>
    cases hvisit : isWinningIg signals ad.2 && isComponentAuction r.auctionScope with
    | true => simp [hvisit]
    | false =>
      by_cases hurl : debugUrlFor signals ad.2 = "" <;> simp [hvisit, hurl, pingOf]

variable {r env signals} in
theorem mem_pingsFor {ad : String × AdScore ℚ} {ping : DebugPing} :
    ping ∈ r.pingsFor env signals ad ↔
      (isWinningIg signals ad.2 && isComponentAuction r.auctionScope) = false ∧
        debugUrlFor signals ad.2 ≠ "" ∧ ping = pingOf env signals ad := by
  rw [pingsFor_eq, ← and_assoc]
  split
  · rename_i h
    rw [List.mem_singleton, and_iff_right h]
  · rename_i h
    exact iff_of_false List.not_mem_nil fun hping => h hping.1

private theorem performUnsampledForWinner_eq (winner : WinningAd)
    (reports : List SellerDebugReport) :
    r.performUnsampledDebugReportingForComponentAuctionWinner env signals winner reports =
      reports ++ r.winnerReports env signals winner := by
  have hfold := r.foldl_addSellerDebugReportToResponse env (winnerOffers signals winner)
    { reports := reports }
  refine Eq.trans ?_ hfold
  unfold performUnsampledDebugReportingForComponentAuctionWinner winnerOffers
  by_cases hwin : winner.adScore.auctionDebugWinUrl = "" <;>
    by_cases hloss : winner.adScore.auctionDebugLossUrl = "" <;>
    simp [hwin, hloss, List.filter_cons, ReportOffer.hasUrl, winOffer, winnerLossOffer, sentFor]

theorem reportUnsampled_eq (winner : WinningAd) (s : List SellerDebugReport × List DebugPing)
    (ad : String × AdScore ℚ) :
    r.reportUnsampled env signals winner s ad =
      (s.1 ++ (if r.isComponentWinnerVisit signals ad then r.winnerReports env signals winner
        else []), s.2 ++ r.pingsFor env signals ad) := by
  unfold reportUnsampled pingsFor isComponentWinnerVisit
  cases hurls : ad.2.debugReportUrls with
  | none => simp
  | some urls =>
    cases hwinning : isWinningIg signals ad.2 <;>
      cases hscope : isComponentAuction r.auctionScope <;>
      simp [performUnsampledForWinner_eq]

theorem performUnsampledDebugReporting_eq (winner : WinningAd)
    (ads : List (String × AdScore ℚ)) :
    r.performUnsampledDebugReporting env signals winner ads =
      ((List.replicate (ads.countP (r.isComponentWinnerVisit signals))
        (r.winnerReports env signals winner)).flatten, ads.flatMap (r.pingsFor env signals)) := by
  unfold performUnsampledDebugReporting
  induction ads using List.reverseRecOn with
  | nil => rfl
  | append_singleton ads ad ih =>
    rw [List.foldl_append, ih, List.foldl_cons, List.foldl_nil, reportUnsampled_eq,
      List.countP_append, List.flatMap_append, List.flatMap_singleton, List.countP_singleton]
    split
    · rw [List.replicate_succ', List.flatten_concat]
    · simp

/-! ## The callback -/

variable (lib : Library) (ch : Choices) (responses : List RomaResponse) (served : Served)

def debugWinner : WinningAd :=
  ⟨served.reportingId.getD "", (env.attestDebugUrls served.adScore).getD .unset⟩

def debugAds : List (String × AdScore ℚ) :=
  env.ord.entries
    (r.findWinningAd lib ch (r.collectValidRomaResponses lib responses)).adScores

def debugSignals : PostAuctionSignals :=
  r.postAuctionSignals env.ord env.memory served.adScore

/-- Debug URLs are reported: the switch is on, the auction is no top-level auction, and
the winning score has URLs left. -/
def reportsDebugUrls : Bool :=
  r.enableDebugReporting && r.auctionScope != .serverTopLevelSeller &&
    ((env.attestDebugUrls served.adScore).bind AdScore.debugReportUrls).isSome

abbrev sampled : Bool := r.rawRequest.fdoFlags.enableSampledDebugReporting

def reportsAndPings : List SellerDebugReport × List DebugPing :=
  if !r.reportsDebugUrls env served then ([], [])
  else if r.sampled then
    (r.performSampledDebugReporting env (r.debugSignals env served) (debugWinner env served)
      (r.debugAds env lib ch responses), [])
  else
    r.performUnsampledDebugReporting env (r.debugSignals env served) (debugWinner env served)
      (r.debugAds env lib ch responses)

variable {r env lib ch responses}

theorem debugReporting_eq_some {d : DebugReporting} :
    r.debugReporting env lib ch responses = some d →
      ∃ served, r.scoreAdsCallback lib ch responses = some served ∧
        (d.reports, d.pings) = r.reportsAndPings env lib ch responses served := by
  intro h
  obtain ⟨served, hserved, h⟩ := Option.bind_eq_some_iff.mp h
  refine ⟨served, hserved, ?_⟩
  unfold reportsAndPings reportsDebugUrls
  by_cases henabled : r.enableDebugReporting = true
  · rw [if_pos henabled] at h
    obtain rfl := Option.some.inj h
    unfold performDebugReporting
    by_cases hscope : r.auctionScope = .serverTopLevelSeller
    · simp [hscope]
    · cases hurls : (env.attestDebugUrls served.adScore).bind AdScore.debugReportUrls with
      | none => simp [hscope, hurls]
      | some urls =>
        by_cases hsampled : r.rawRequest.fdoFlags.enableSampledDebugReporting = true
        · simp [hscope, hurls, henabled, hsampled, debugSignals, debugWinner, debugAds]
        · simp [hscope, hurls, henabled, hsampled, debugSignals, debugWinner, debugAds]
  · rw [if_neg henabled] at h
    obtain rfl := Option.some.inj h
    simp [henabled]

variable (env) in
theorem exists_debugReporting {served : Served}
    (h : r.scoreAdsCallback lib ch responses = some served) :
    ∃ d, r.debugReporting env lib ch responses = some d ∧
      (d.reports, d.pings) = r.reportsAndPings env lib ch responses served := by
  have hsome : ∃ d, r.debugReporting env lib ch responses = some d := by
    unfold debugReporting
    rw [h]
    simp only [Option.bind_eq_bind, Option.bind_some]
    split <;> exact ⟨_, rfl⟩
  obtain ⟨d, hd⟩ := hsome
  obtain ⟨served', hserved', heq⟩ := debugReporting_eq_some hd
  obtain rfl := Option.some.inj (h.symm.trans hserved')
  exact ⟨d, hd, heq⟩

theorem forall_debugReporting {P : List SellerDebugReport → List DebugPing → Prop} :
    (∀ d, r.debugReporting env lib ch responses = some d → P d.reports d.pings) ↔
      ∀ served, r.scoreAdsCallback lib ch responses = some served →
        P (r.reportsAndPings env lib ch responses served).1
          (r.reportsAndPings env lib ch responses served).2 := by
  constructor
  · intro h served hserved
    obtain ⟨d, hd, heq⟩ := exists_debugReporting env hserved
    rw [← heq]
    exact h d hd
  · intro h d hd
    obtain ⟨served, hserved, heq⟩ := debugReporting_eq_some hd
    have hP := h served hserved
    rw [← heq] at hP
    exact hP

end Closed

end ScoreAdsReactor

end BiddingAuction

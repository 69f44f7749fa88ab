import BiddingAuction.ScoreAds.DebugAttestation

/-!
# Limits on the debug reports in the response

A single seller gets one URL, a component seller one of each kind, and all URLs
together stay within a total size. The numbers and sizes that the closed forms
give are compared with these limits.
-/

namespace BiddingAuction

open Foundation

namespace ScoreAdsReactor

/-! ## Numbers of reports -/

theorem min_div_add_min_div_le_one_iff {n m item other limit : ℕ} (hitem : 0 < item)
    (hfits : min n (limit / item) * item + other ≤ limit) :
    min n (limit / item) + min m ((limit - (min n (limit / item) * item + other)) / item) ≤ 1 ↔
      n + m ≤ 1 ∨ limit < 2 * item ∨ n ≤ 1 ∧ limit < 2 * item + other := by
  have hall : ∀ k, k ≤ limit / item ↔ k * item ≤ limit := fun k => Nat.le_div_iff_mul_le hitem
  have hrest : ∀ k, k ≤ (limit - (min n (limit / item) * item + other)) / item ↔
      k * item ≤ limit - (min n (limit / item) * item + other) :=
    fun k => Nat.le_div_iff_mul_le hitem
  generalize (limit - (min n (limit / item) * item + other)) / item = room at hrest
  generalize limit / item = all at *
  have h1 := hall 1
  have h2 := hall 2
  have r1 := hrest 1
  have r2 := hrest 2
  rcases Nat.lt_or_ge (min n all) 2 with hlt | hge
  · -- with at most one item before, the room after is known
    have hcases : min n all = 0 ∨ min n all = 1 := by omega
    rcases hcases with hzero | hone
    · rw [hzero] at hfits r1 r2 ⊢
      omega
    · rw [hone] at hfits r1 r2 ⊢
      omega
  · have hsize : 2 * item ≤ min n all * item := Nat.mul_le_mul_right item hge
    omega

section Numbers

variable {r : ScoreAdsReactor} {env : DebugEnvironment} {signals : PostAuctionSignals}

def countKind (isWinReport : Bool) (reports : List SellerDebugReport) : ℕ :=
  (withUrl reports).countP fun report => report.sent.isWinReport = isWinReport

/-- One URL for a single seller, one of each kind in a component auction. -/
def WithinReportLimits (r : ScoreAdsReactor) (reports : List SellerDebugReport)
    (pings : List DebugPing) : Prop :=
  if isComponentAuction r.auctionScope then
    countKind true reports ≤ 1 ∧ countKind false reports ≤ 1 ∧ pings = []
  else
    (withUrl reports).length + pings.length ≤ 1

variable (r env) in
theorem length_withUrl_singleSeller (ads : List (String × AdScore ℚ)) :
    (withUrl (r.performSampledDebugReportingForSingleSeller env signals ads none {}).reports).length
      ≤ 1 := by
  rw [withUrl_singleSeller, List.length_map]
  refine (Budget.accept_sublist.length_le).trans ?_
  rw [List.length_map]
  cases ads.find? (isSampled env signals) <;> simp

variable (r env signals) in
/-- The size of the loss URL in the response, if there is one. -/
def lossSize (winner : WinningAd) (ads : List (String × AdScore ℚ)) : ℕ :=
  ((r.lossReport? env signals winner ads).map fun ad => (lossOffer signals ad).size).getD 0

variable (r env signals) in
theorem countKind_component (winner : WinningAd) (ads : List (String × AdScore ℚ)) :
    countKind true
        (r.performSampledDebugReportingForComponentAuction env signals winner ads).reports =
      r.winReportsBefore env signals winner ads + r.winReportsAfter env signals winner ads ∧
    countKind false
        (r.performSampledDebugReportingForComponentAuction env signals winner ads).reports ≤ 1 := by
  unfold countKind
  rw [withUrl_component]
  simp only [List.countP_map, List.countP_append, List.countP_replicate, Function.comp_def,
    ReportOffer.toReport, winOffer, lossOffer, sentFor]
  cases r.lossReport? env signals winner ads <;> simp

variable (env signals) in
theorem wins_eq_zero {winner : WinningAd} (hurl : winner.adScore.auctionDebugWinUrl = "")
    (ads : List (String × AdScore ℚ)) :
    winsBefore env signals winner {} ads = 0 ∧ winsAfter env signals winner {} ads = 0 := by
  unfold winsBefore winsAfter
  constructor <;> exact List.countP_eq_zero.mpr fun v _ => by simp [isWinSampled, hurl]

theorem winReports_le_one_iff (winner : WinningAd) (ads : List (String × AdScore ℚ)) :
    r.winReportsBefore env signals winner ads + r.winReportsAfter env signals winner ads ≤ 1 ↔
      winsBefore env signals winner {} ads + winsAfter env signals winner {} ads ≤ 1 ∨
        r.maxAllowedSizeAllDebugUrlsChars < 2 * winner.adScore.auctionDebugWinUrl.utf8ByteSize ∨
        winsBefore env signals winner {} ads ≤ 1 ∧ r.maxAllowedSizeAllDebugUrlsChars <
          2 * winner.adScore.auctionDebugWinUrl.utf8ByteSize +
            r.lossSize env signals winner ads := by
  by_cases hurl : winner.adScore.auctionDebugWinUrl = ""
  · obtain ⟨hbefore, hafter⟩ := wins_eq_zero env signals hurl ads
    unfold winReportsBefore winReportsAfter
    rw [hbefore, hafter]
    simp
  · have hsize : 0 < (winOffer signals winner).size :=
      ReportOffer.size_pos (by simpa [ReportOffer.hasUrl, winOffer, sentFor] using hurl)
    exact min_div_add_min_div_le_one_iff hsize (r.sizeWithLoss_le env signals winner ads)

/-- In sampled debug reporting the documented numbers are kept, exactly if, wherever a
component auction reports debug URLs, at most one win passes sampling or there is no
room for two. -/
theorem sampledLimits_iff (r : ScoreAdsReactor) (env : DebugEnvironment) (lib : Library)
    (ch : Choices) (responses : List RomaResponse) :
    (r.sampled = true → ∀ d, r.debugReporting env lib ch responses = some d →
        r.WithinReportLimits d.reports d.pings) ↔
      (r.sampled = true → isComponentAuction r.auctionScope = true →
        ∀ served, r.scoreAdsCallback lib ch responses = some served →
          r.reportsDebugUrls env served = true →
            let winner := debugWinner env served
            let ads := r.debugAds env lib ch responses
            let before := winsBefore env (r.debugSignals env served) winner {} ads
            let url := winner.adScore.auctionDebugWinUrl.utf8ByteSize
            before + winsAfter env (r.debugSignals env served) winner {} ads ≤ 1 ∨
              r.maxAllowedSizeAllDebugUrlsChars < 2 * url ∨
              before ≤ 1 ∧ r.maxAllowedSizeAllDebugUrlsChars <
                2 * url + r.lossSize env (r.debugSignals env served) winner ads) := by
  refine imp_congr_right fun hsampled => ?_
  refine (forall_debugReporting (P := r.WithinReportLimits)).trans ?_
  cases hcomponent : isComponentAuction r.auctionScope with
  | false =>
    refine iff_of_true (fun served _ => ?_) (fun h => absurd h Bool.false_ne_true)
    unfold WithinReportLimits reportsAndPings performSampledDebugReporting
    rw [hcomponent, hsampled]
    cases r.reportsDebugUrls env served with
    | false => simp [withUrl]
    | true => simpa using length_withUrl_singleSeller r env _
  | true =>
    refine Iff.trans (forall_congr' fun served => imp_congr_right fun _ => ?_)
      ⟨fun h _ => h, fun h => h rfl⟩
    unfold WithinReportLimits reportsAndPings performSampledDebugReporting
    rw [hcomponent, hsampled]
    cases r.reportsDebugUrls env served with
    | false => simp [countKind, withUrl]
    | true =>
      obtain ⟨hwins, hlosses⟩ := countKind_component r env
        (r.debugSignals env served) (debugWinner env served)
        (r.debugAds env lib ch responses)
      simp only [Bool.not_true, Bool.false_eq_true, if_false, if_true, hwins, hlosses,
        and_true, true_imp_iff]
      exact winReports_le_one_iff _ _

/-- The ads `w` and `y` of one interest group in a component auction that samples. -/
def siblingDebugAds : ScoreAdsReactor where
  rawRequest := {
    enableDebugReporting := true
    fdoFlags := { enableSampledDebugReporting := true } }
  auctionScope := .deviceComponentMultiSeller
  enableSellerDebugUrlGeneration := true
  maxAllowedSizeDebugUrlChars := 100
  maxAllowedSizeAllDebugUrlsChars := 1024
  adData := AList.insert "y"
      { render := "y", interestGroupOwner := "A", interestGroupName := "W", bid := 1 }
    (AList.insert "w"
      { render := "w", interestGroupOwner := "A", interestGroupName := "W", bid := 1 } ∅)

def allSampled : DebugEnvironment :=
  { sellerEnrolled with debugUrlPassesSampling := fun _ _ => true }

/-- `w` wins and its win is reported at both ads of its group. -/
theorem sampledLimits_fails_on_siblings :
    ¬ (siblingDebugAds.sampled = true →
      ∀ d, siblingDebugAds.debugReporting allSampled debugLibrary .standard
        [.ok ⟨"w", "best"⟩, .ok ⟨"y", "other"⟩] = some d →
          siblingDebugAds.WithinReportLimits d.reports d.pings) := by
  intro h
  have hwins : (siblingDebugAds.debugReporting allSampled debugLibrary .standard
      [.ok ⟨"w", "best"⟩, .ok ⟨"y", "other"⟩]).map (fun d => countKind true d.reports) =
        some 2 := by
    decide +kernel
  obtain ⟨d, hd, hcount⟩ := Option.map_eq_some_iff.mp hwins
  have hwithin : countKind true d.reports ≤ 1 := (h rfl d hd).1
  omega

end Numbers

/-! ## Sizes of URLs -/

section Sizes

variable {r : ScoreAdsReactor} {env : DebugEnvironment} {signals : PostAuctionSignals}

def emittedSize (reports : List SellerDebugReport) : ℕ :=
  (reports.map fun report => report.report.url.utf8ByteSize).sum

@[simp] theorem emittedSize_append (reports reports' : List SellerDebugReport) :
    emittedSize (reports ++ reports') = emittedSize reports + emittedSize reports' := by
  simp [emittedSize]

/-- The size of the URL of an offer, once its placeholders are replaced. -/
def ReportOffer.emitted (env : DebugEnvironment) (offer : ReportOffer) : ℕ :=
  (offer.toReport env).report.url.utf8ByteSize

def NoData (offers : List ReportOffer) : Prop :=
  ∀ offer ∈ offers, offer.hasUrl = false → offer.sent.placeholderData = none

theorem emitted_eq_zero {offer : ReportOffer} (hurl : offer.hasUrl = false)
    (hdata : offer.sent.placeholderData = none) : offer.emitted env = 0 := by
  unfold ReportOffer.emitted ReportOffer.toReport
  rw [hdata]
  exact ReportOffer.size_eq_zero hurl

variable (r env) in
theorem emittedSize_withUrl {offers : List ReportOffer} (hdata : NoData offers) :
    emittedSize (offers.foldl (r.addSellerDebugReportToResponse env) {}).reports =
      emittedSize (withUrl (offers.foldl (r.addSellerDebugReportToResponse env) {}).reports) := by
  rw [foldl_addSellerDebugReportToResponse, List.nil_append, withUrl_map_toReport]
  have hdata' : NoData (Budget.accept ReportOffer.size r.maxAllowedSizeAllDebugUrlsChars 0
      offers) := by
    intro offer hoffer
    exact hdata offer (Budget.accept_sublist.subset hoffer)
  show emittedSize ((Budget.accept _ _ 0 offers).map _) = _
  generalize Budget.accept ReportOffer.size r.maxAllowedSizeAllDebugUrlsChars 0 offers = let_in
    at hdata'
  induction let_in with
  | nil => rfl
  | cons offer offers ih =>
    have ih := ih fun o ho => hdata' o (List.mem_cons_of_mem _ ho)
    cases hurl : offer.hasUrl with
    | true =>
      rw [List.filter_cons_of_pos hurl, List.map_cons, List.map_cons]
      show _ + emittedSize _ = _ + emittedSize _
      rw [ih]
    | false =>
      rw [List.filter_cons_of_neg (by simp [hurl]), List.map_cons, ← ih]
      show offer.emitted env + emittedSize _ = _
      rw [emitted_eq_zero hurl (hdata' offer List.mem_cons_self hurl), Nat.zero_add]

theorem noData_singleSellerOffers (ads : List (String × AdScore ℚ)) :
    NoData (singleSellerOffers env signals ads none) := by
  unfold singleSellerOffers
  intro offer hoffer hurl
  split at hoffer
  · rename_i ad hfind
    obtain rfl := List.mem_singleton.mp hoffer
    have hsampled := List.find?_some hfind
    rw [isSampled, Bool.and_eq_true] at hsampled
    rw [show (singleSellerOffer signals ad).hasUrl = true from hsampled.1] at hurl
    cases hurl
  · obtain ⟨_, -, rfl⟩ := List.mem_map.mp hoffer
    rfl

theorem noData_componentOffers (winner : WinningAd) (flags : SamplingFlags)
    (ads : List (String × AdScore ℚ)) :
    NoData (componentOffers env signals winner flags ads) := by
  intro offer hoffer hurl
  obtain ⟨v, -, hoffer⟩ := List.mem_flatMap.mp hoffer
  rcases List.mem_append.mp hoffer with hoffer | hoffer
  · unfold winOffersAt at hoffer
    split at hoffer
    · rename_i hsampled
      obtain rfl := List.mem_singleton.mp hoffer
      rw [isWinSampled, Bool.and_eq_true, Bool.and_eq_true] at hsampled
      rw [show (winOffer signals winner).hasUrl = true from hsampled.1.2] at hurl
      cases hurl
    · split at hoffer
      · obtain rfl := List.mem_singleton.mp hoffer
        rfl
      · cases hoffer
  · unfold lossOffersAt at hoffer
    split at hoffer
    · rename_i hsampled
      obtain rfl := List.mem_singleton.mp hoffer
      rw [Bool.and_eq_true, isLossSampled, Bool.and_eq_true] at hsampled
      rw [show (lossOffer signals v.1).hasUrl = true from hsampled.2.1] at hurl
      cases hurl
    · split at hoffer
      · obtain rfl := List.mem_singleton.mp hoffer
        rfl
      · cases hoffer

theorem emittedSize_singleSeller (ads : List (String × AdScore ℚ)) :
    emittedSize
        (r.performSampledDebugReportingForSingleSeller env signals ads none {}).reports =
      ((ads.find? (isSampled env signals)).map fun ad =>
        if (debugUrlFor signals ad.2).utf8ByteSize ≤ r.maxAllowedSizeAllDebugUrlsChars then
          (singleSellerOffer signals ad).emitted env else 0).getD 0 := by
  have hwith := r.withUrl_singleSeller env signals ads
  rw [performSampledDebugReportingForSingleSeller_eq] at hwith ⊢
  rw [emittedSize_withUrl _ _ (noData_singleSellerOffers ads), hwith]
  cases ads.find? (isSampled env signals) with
  | none => rfl
  | some ad =>
    show emittedSize (List.map _ (Budget.accept _ _ _ [singleSellerOffer signals ad])) = _
    rw [Budget.accept, Nat.add_zero]
    show emittedSize (List.map _ (if (debugUrlFor signals ad.2).utf8ByteSize ≤ _ then _ else _)) = _
    rw [Option.map_some, Option.getD_some]
    split <;> simp [emittedSize, Budget.accept, ReportOffer.emitted]

theorem emittedSize_singleSeller_le_iff (ads : List (String × AdScore ℚ)) :
    emittedSize (r.performSampledDebugReportingForSingleSeller env signals ads none {}).reports ≤
        r.maxAllowedSizeAllDebugUrlsChars ↔
      ∀ ad, ads.find? (isSampled env signals) = some ad →
        (debugUrlFor signals ad.2).utf8ByteSize ≤ r.maxAllowedSizeAllDebugUrlsChars →
          (singleSellerOffer signals ad).emitted env ≤ r.maxAllowedSizeAllDebugUrlsChars := by
  rw [emittedSize_singleSeller]
  cases ads.find? (isSampled env signals) with
  | none => simp
  | some ad =>
    rw [Option.map_some, Option.getD_some]
    split
    · rename_i hfits
      simp [hfits]
    · rename_i hfits
      simp [hfits]

theorem emittedSize_component (winner : WinningAd) (ads : List (String × AdScore ℚ)) :
    emittedSize
        (r.performSampledDebugReportingForComponentAuction env signals winner ads).reports =
      (r.winReportsBefore env signals winner ads + r.winReportsAfter env signals winner ads) *
          (winOffer signals winner).emitted env +
        ((r.lossReport? env signals winner ads).map fun ad =>
          (lossOffer signals ad).emitted env).getD 0 := by
  have hwith := r.withUrl_component env signals winner ads
  have hall : emittedSize
      (r.performSampledDebugReportingForComponentAuction env signals winner ads).reports =
      emittedSize (withUrl
        (r.performSampledDebugReportingForComponentAuction env signals winner ads).reports) := by
    unfold performSampledDebugReportingForComponentAuction
    dsimp only
    rw [foldl_sampleComponentAuctionAd]
    split
    · have hdata : NoData (componentOffers env signals winner {} ads ++
          [cooldownOffer "" false false]) := by
        intro offer hoffer hurl
        rcases List.mem_append.mp hoffer with hoffer | hoffer
        · exact noData_componentOffers winner {} ads offer hoffer hurl
        · obtain rfl := List.mem_singleton.mp hoffer
          rfl
      have hlast := emittedSize_withUrl r env hdata
      rw [List.foldl_append] at hlast
      exact hlast
    · exact emittedSize_withUrl _ _ (noData_componentOffers winner {} ads)
  rw [hall, hwith]
  have hreplicate : ∀ n, emittedSize ((List.replicate n (winOffer signals winner)).map
      (ReportOffer.toReport env)) = n * (winOffer signals winner).emitted env := by
    intro n
    simp [emittedSize, ReportOffer.emitted]
  rw [List.map_append, List.map_append, emittedSize_append, emittedSize_append, hreplicate,
    hreplicate]
  cases r.lossReport? env signals winner ads with
  | none => simp [emittedSize, Nat.add_mul]
  | some ad =>
    simp [emittedSize, ReportOffer.emitted, Nat.add_mul]
    omega

variable (r env signals) in
/-- What one visit to the winner's group emits without sampling: the URLs of the winner
whose templates fit. -/
def visitSize (winner : WinningAd) : ℕ :=
  let winUrl := winner.adScore.auctionDebugWinUrl
  let lossUrl := winner.adScore.auctionDebugLossUrl
  let winSize := if winUrl.utf8ByteSize ≤ r.maxAllowedSizeAllDebugUrlsChars then
    winUrl.utf8ByteSize else 0
  (if winUrl ≠ "" ∧ winUrl.utf8ByteSize ≤ r.maxAllowedSizeAllDebugUrlsChars then
    (winOffer signals winner).emitted env else 0) +
  (if lossUrl ≠ "" ∧ lossUrl.utf8ByteSize + winSize ≤ r.maxAllowedSizeAllDebugUrlsChars then
    (winnerLossOffer signals winner).emitted env else 0)

theorem emittedSize_winnerReports (winner : WinningAd) :
    emittedSize (r.winnerReports env signals winner) = r.visitSize env signals winner := by
  have hwinUrl : (winOffer signals winner).hasUrl = true ↔
      winner.adScore.auctionDebugWinUrl ≠ "" := bne_iff_ne
  have hlossUrl : (winnerLossOffer signals winner).hasUrl = true ↔
      winner.adScore.auctionDebugLossUrl ≠ "" := bne_iff_ne
  have hwinSize : (winOffer signals winner).size =
      winner.adScore.auctionDebugWinUrl.utf8ByteSize := rfl
  have hlossSize : (winnerLossOffer signals winner).size =
      winner.adScore.auctionDebugLossUrl.utf8ByteSize := rfl
  -- the loss after the win, or alone
  have hloss : ∀ used, emittedSize ((Budget.accept ReportOffer.size
      r.maxAllowedSizeAllDebugUrlsChars used
      ([winnerLossOffer signals winner].filter ReportOffer.hasUrl)).map
        (ReportOffer.toReport env)) =
      if winner.adScore.auctionDebugLossUrl ≠ "" ∧
        winner.adScore.auctionDebugLossUrl.utf8ByteSize + used ≤
          r.maxAllowedSizeAllDebugUrlsChars then
        (winnerLossOffer signals winner).emitted env else 0 := by
    intro used
    by_cases hurl : winner.adScore.auctionDebugLossUrl = ""
    · rw [List.filter_cons_of_neg (by rw [hlossUrl]; simp [hurl]), if_neg fun h => h.1 hurl]
      rfl
    · rw [List.filter_cons_of_pos (hlossUrl.mpr hurl), Budget.accept, hlossSize]
      by_cases hfits : winner.adScore.auctionDebugLossUrl.utf8ByteSize + used ≤
          r.maxAllowedSizeAllDebugUrlsChars
      · rw [if_pos hfits, if_pos ⟨hurl, hfits⟩]
        simp [emittedSize, Budget.accept, ReportOffer.emitted]
      · rw [if_neg hfits, if_neg fun h => hfits h.2]
        rfl
  unfold winnerReports admitted winnerOffers visitSize
  dsimp only
  by_cases hurl : winner.adScore.auctionDebugWinUrl = ""
  · rw [List.filter_cons_of_neg (by rw [hwinUrl]; simp [hurl]), hloss, hurl]
    simp
  · rw [List.filter_cons_of_pos (hwinUrl.mpr hurl), Budget.accept, hwinSize, Nat.add_zero,
      Nat.zero_add]
    by_cases hfits : winner.adScore.auctionDebugWinUrl.utf8ByteSize ≤
        r.maxAllowedSizeAllDebugUrlsChars
    · rw [if_pos hfits, if_pos ⟨hurl, hfits⟩, if_pos hfits, List.map_cons, ← hloss]
      exact List.sum_cons
    · rw [if_neg hfits, if_neg (c := _ ∧ _) fun h => hfits h.2, if_neg hfits, hloss,
        Nat.zero_add]

variable (r env signals) in
/-- What replacing placeholders and repeating the winner's reports makes of the URLs
whose templates fit still fits. -/
structure EmittedFits (winner : WinningAd) (ads : List (String × AdScore ℚ)) : Prop where
  singleSeller : r.sampled = true → isComponentAuction r.auctionScope = false →
    ∀ ad, ads.find? (isSampled env signals) = some ad →
      (debugUrlFor signals ad.2).utf8ByteSize ≤ r.maxAllowedSizeAllDebugUrlsChars →
        (singleSellerOffer signals ad).emitted env ≤ r.maxAllowedSizeAllDebugUrlsChars
  component : r.sampled = true → isComponentAuction r.auctionScope = true →
    (r.winReportsBefore env signals winner ads + r.winReportsAfter env signals winner ads) *
        (winOffer signals winner).emitted env +
      ((r.lossReport? env signals winner ads).map fun ad =>
        (lossOffer signals ad).emitted env).getD 0 ≤ r.maxAllowedSizeAllDebugUrlsChars
  unsampled : r.sampled = false → isComponentAuction r.auctionScope = true →
    ads.countP (r.isComponentWinnerVisit signals) * r.visitSize env signals winner ≤
      r.maxAllowedSizeAllDebugUrlsChars

theorem emittedSize_flatten_replicate (n : ℕ) (reports : List SellerDebugReport) :
    emittedSize (List.replicate n reports).flatten = n * emittedSize reports := by
  induction n with
  | zero => simp [emittedSize]
  | succ n ih =>
    rw [List.replicate_succ, List.flatten_cons, emittedSize_append, ih, Nat.succ_mul, Nat.add_comm]

/-- The URLs in the response stay within the total limit as they are sent, exactly if,
wherever debug URLs are reported, they still fit after substitution and repetition. -/
theorem emittedSize_le_iff (r : ScoreAdsReactor) (env : DebugEnvironment) (lib : Library)
    (ch : Choices) (responses : List RomaResponse) :
    (∀ d, r.debugReporting env lib ch responses = some d →
        emittedSize d.reports ≤ r.maxAllowedSizeAllDebugUrlsChars) ↔
      ∀ served, r.scoreAdsCallback lib ch responses = some served →
        r.reportsDebugUrls env served = true →
          r.EmittedFits env (r.debugSignals env served) (debugWinner env served)
            (r.debugAds env lib ch responses) := by
  refine (forall_debugReporting (P := fun reports _ =>
    emittedSize reports ≤ r.maxAllowedSizeAllDebugUrlsChars)).trans
    (forall_congr' fun served => imp_congr_right fun _ => ?_)
  unfold reportsAndPings
  cases hreports : r.reportsDebugUrls env served with
  | false => simp [emittedSize]
  | true =>
    rw [Bool.not_true, if_neg Bool.false_ne_true]
    cases hsampled : r.sampled with
    | true =>
      rw [if_pos rfl]
      unfold performSampledDebugReporting
      cases hcomponent : isComponentAuction r.auctionScope with
      | true =>
        rw [if_pos rfl, emittedSize_component]
        refine ⟨fun h _ => ⟨?_, fun _ _ => h, ?_⟩,
          fun h => (h rfl).component hsampled hcomponent⟩ <;> simp [hsampled, hcomponent]
      | false =>
        rw [if_neg Bool.false_ne_true, emittedSize_singleSeller_le_iff]
        refine ⟨fun h _ => ⟨fun _ _ => h, ?_, ?_⟩,
          fun h => (h rfl).singleSeller hsampled hcomponent⟩ <;> simp [hsampled, hcomponent]
    | false =>
      rw [if_neg Bool.false_ne_true, performUnsampledDebugReporting_eq,
        emittedSize_flatten_replicate, emittedSize_winnerReports]
      cases hcomponent : isComponentAuction r.auctionScope with
      | true =>
        refine ⟨fun h _ => ⟨?_, ?_, fun _ _ => h⟩,
          fun h => (h rfl).unsampled hsampled hcomponent⟩ <;> simp [hsampled]
      | false =>
        have hnone : (r.debugAds env lib ch responses).countP
            (r.isComponentWinnerVisit (r.debugSignals env served)) = 0 :=
          List.countP_eq_zero.mpr fun ad _ => by simp [isComponentWinnerVisit, hcomponent]
        rw [hnone, Nat.zero_mul]
        refine iff_of_true (Nat.zero_le _) fun _ => ⟨?_, ?_, ?_⟩ <;> simp [hsampled, hcomponent]

/-- `siblingDebugAds` without sampling, with room for one win and one loss. -/
def siblingDebugAdsUnsampled : ScoreAdsReactor :=
  { siblingDebugAds with
    rawRequest := { enableDebugReporting := true }
    maxAllowedSizeAllDebugUrlsChars := 50 }

/-- The URLs of `w`, of 45 bytes, are put into the response twice. -/
theorem emittedSize_le_fails_on_siblings :
    ¬ ∀ d, siblingDebugAdsUnsampled.debugReporting sellerEnrolled debugLibrary .standard
        [.ok ⟨"w", "best"⟩, .ok ⟨"y", "other"⟩] = some d →
          emittedSize d.reports ≤ siblingDebugAdsUnsampled.maxAllowedSizeAllDebugUrlsChars := by
  intro h
  have hsize : (siblingDebugAdsUnsampled.debugReporting sellerEnrolled debugLibrary .standard
      [.ok ⟨"w", "best"⟩, .ok ⟨"y", "other"⟩]).map (fun d => emittedSize d.reports) =
        some 90 := by
    decide +kernel
  obtain ⟨d, hd, hemitted⟩ := Option.map_eq_some_iff.mp hsize
  have hfits : emittedSize d.reports ≤ 50 := h d hd
  omega

end Sizes

end ScoreAdsReactor

end BiddingAuction

import Mathlib.Algebra.Order.Ring.Rat
import BiddingAuction.SelectAd.DebugReporting

/-!
# Limits on the debug reports of an ad tech

A buyer's loop adds reports for that buyer only, and the seller's reports are added
while there is an allowance left. So an ad tech gets more than the documented
number exactly when the loop of a component auction comes to more than one
bid of the winning interest group that has a win URL.
-/

namespace BiddingAuction

/-! ## Counting reports -/

def countUrls (isWinReport : Bool) (reports : List DebugReport) : ℕ :=
  reports.countP fun report => report.url != "" && report.isWinReport == isWinReport

@[simp] theorem countUrls_nil (isWinReport : Bool) : countUrls isWinReport [] = 0 := rfl

@[simp] theorem countUrls_append (isWinReport : Bool) (reports reports' : List DebugReport) :
    countUrls isWinReport (reports ++ reports') =
      countUrls isWinReport reports + countUrls isWinReport reports' :=
  List.countP_append

theorem countUrls_singleton (isWinReport : Bool) (report : DebugReport) :
    countUrls isWinReport [report] =
      if report.url ≠ "" ∧ report.isWinReport = isWinReport then 1 else 0 := by
  simp [countUrls]

theorem countUrls_of_url_empty {report : DebugReport} (hurl : report.url = "")
    (isWinReport : Bool) : countUrls isWinReport [report] = 0 := by
  rw [countUrls_singleton, if_neg fun h => h.1 hurl]

namespace DebugReportsInResponseCounts

/-- The counts are what is left of the allowance after the reports. -/
structure Remaining (allowance counts : DebugReportsInResponseCounts)
    (reports : List DebugReport) : Prop where
  wins : counts.allowedWinReportCount = allowance.allowedWinReportCount - countUrls true reports
  losses :
    counts.allowedLossReportCount = allowance.allowedLossReportCount - countUrls false reports
  all : counts.allowedReportCount =
    allowance.allowedReportCount - (countUrls true reports + countUrls false reports)

theorem Remaining.nil (allowance : DebugReportsInResponseCounts) :
    Remaining allowance allowance [] := by
  constructor <;> simp

theorem Remaining.concat {allowance counts : DebugReportsInResponseCounts}
    {reports : List DebugReport} (h : Remaining allowance counts reports) (report : DebugReport) :
    Remaining allowance (counts.decrementCountsForDebugReport report) (reports ++ [report]) := by
  obtain ⟨hwins, hlosses, hall⟩ := h
  unfold decrementCountsForDebugReport
  split
  · rename_i hurl
    constructor <;> simp [countUrls_of_url_empty hurl, *]
  · rename_i hurl
    split
    · rename_i hwin
      have hone : countUrls true [report] = 1 := by simp [countUrls_singleton, hurl, hwin]
      have hzero : countUrls false [report] = 0 := by simp [countUrls_singleton, hwin]
      constructor <;> simp only [countUrls_append, hone, hzero] <;> push_cast <;> omega
    · rename_i hloss
      have hone : countUrls false [report] = 1 := by simp [countUrls_singleton, hurl, hloss]
      have hzero : countUrls true [report] = 0 := by simp [countUrls_singleton, hloss]
      constructor <;> simp only [countUrls_append, hone, hzero] <;> push_cast <;> omega

theorem Remaining.foldl {allowance counts : DebugReportsInResponseCounts}
    {reports : List DebugReport} (h : Remaining allowance counts reports)
    (more : List DebugReport) :
    Remaining allowance (more.foldl decrementCountsForDebugReport counts) (reports ++ more) := by
  induction more generalizing counts reports with
  | nil => simpa using h
  | cons report more ih =>
    have := ih (h.concat report)
    rwa [List.append_assoc] at this

end DebugReportsInResponseCounts

namespace SelectAdReactor

/-! ## Merging -/

/-- Within an allowance as far as the reports that were there before allow. -/
structure KeepsAllowance (allowance : DebugReportsInResponseCounts)
    (before after : List DebugReport) : Prop where
  isPrefix : before <+: after
  wins : (countUrls true after : ℤ) ≤
    max (countUrls true before : ℤ) allowance.allowedWinReportCount
  losses : (countUrls false after : ℤ) ≤
    max (countUrls false before : ℤ) allowance.allowedLossReportCount
  all : (countUrls true after + countUrls false after : ℤ) ≤
    max (countUrls true before + countUrls false before : ℤ) allowance.allowedReportCount

variable {allowance : DebugReportsInResponseCounts}

theorem addSellerDebugReport_keeps {before : List DebugReport}
    {s : DebugReportsInResponseCounts × List DebugReport} (hleft : allowance.Remaining s.1 s.2)
    (hkeeps : KeepsAllowance allowance before s.2) (report : DebugReport) :
    allowance.Remaining (addSellerDebugReport s report).1 (addSellerDebugReport s report).2 ∧
      KeepsAllowance allowance before (addSellerDebugReport s report).2 := by
  unfold addSellerDebugReport
  split
  · rename_i hadd
    refine ⟨hleft.concat report, ?_⟩
    obtain ⟨hkept, hwins, hlosses, hall⟩ := hkeeps
    obtain ⟨leftWins, leftLosses, leftAll⟩ := hleft
    refine ⟨hkept.trans (List.prefix_append _ _), ?_, ?_, ?_⟩ <;>
      rw [DebugReportsInResponseCounts.canAddDebugReport] at hadd <;>
      simp only [countUrls_append, countUrls_singleton] <;>
      grind
  · exact ⟨hleft, hkeeps⟩

theorem foldl_addSellerDebugReport_keeps {before : List DebugReport}
    (fromSeller : List DebugReport) {s : DebugReportsInResponseCounts × List DebugReport}
    (hleft : allowance.Remaining s.1 s.2) (hkeeps : KeepsAllowance allowance before s.2) :
    KeepsAllowance allowance before (fromSeller.foldl addSellerDebugReport s).2 := by
  induction fromSeller generalizing s with
  | nil => exact hkeeps
  | cons report fromSeller ih =>
    obtain ⟨hleft', hkeeps'⟩ := addSellerDebugReport_keeps hleft hkeeps report
    exact ih hleft' hkeeps'

/-! ## The reports of a buyer -/

def reportsOf (m : AdtechOriginDebugUrlsMap) (adtech : String) : List DebugReport :=
  ((m.lookup adtech).getD {}).reports

def AddsFor (adtechOrigin : String) (added : List DebugReport) (m m' : AdtechOriginDebugUrlsMap) :
    Prop :=
  ∀ adtech, reportsOf m' adtech =
    reportsOf m adtech ++ if adtech = adtechOrigin then added else []

section AddsFor

variable {adtechOrigin : String} {added added' : List DebugReport}
  {m m' m'' : AdtechOriginDebugUrlsMap}

theorem AddsFor.nil (adtechOrigin : String) (m : AdtechOriginDebugUrlsMap) :
    AddsFor adtechOrigin [] m m := by
  intro adtech
  simp

theorem AddsFor.append (h : AddsFor adtechOrigin added m m')
    (h' : AddsFor adtechOrigin added' m' m'') : AddsFor adtechOrigin (added ++ added') m m'' := by
  intro adtech
  rw [h' adtech, h adtech, List.append_assoc]
  split <;> rfl

theorem addBuyerDebugReportToResponse_addsFor (m : AdtechOriginDebugUrlsMap)
    (adtechOrigin : String) (report : DebugReport) :
    AddsFor adtechOrigin [report] m (addBuyerDebugReportToResponse m adtechOrigin report) := by
  intro adtech
  unfold reportsOf addBuyerDebugReportToResponse
  split
  · rename_i heq
    rw [heq, AList.lookup_insert]
    rfl
  · rename_i hne
    rw [AList.lookup_insert_ne hne, List.append_nil]

end AddsFor

section Buyer

variable {strings : StringsLibrary} {signals : PostAuctionSignals}

variable (strings signals) in
theorem sampleBuyerBids_addsFor (igOwner : String) (bids : List (AdWithBid ℚ))
    (cooldownForWin cooldownForLoss : Bool) (m : AdtechOriginDebugUrlsMap) :
    ∃ added, AddsFor igOwner added m
        (sampleBuyerBids strings signals igOwner bids cooldownForWin cooldownForLoss m) ∧
      countUrls true added + countUrls false added ≤ 1 := by
  have hone : ∀ report, ∃ added, AddsFor igOwner added m
        (addBuyerDebugReportToResponse m igOwner report) ∧
      countUrls true added + countUrls false added ≤ 1 := by
    intro report
    refine ⟨[report], addBuyerDebugReportToResponse_addsFor m igOwner report, ?_⟩
    rw [countUrls_singleton, countUrls_singleton]
    cases report.isWinReport <;> simp <;> split <;> omega
  induction bids generalizing cooldownForWin cooldownForLoss with
  | nil =>
    rw [sampleBuyerBids]
    split
    · exact hone _
    · split
      · exact hone _
      · exact ⟨[], AddsFor.nil igOwner m, Nat.zero_le 1⟩
  | cons ad bids ih =>
    rw [sampleBuyerBids]
    generalize (if isWinningIg signals igOwner ad then ad.auctionDebugWinUrl
      else ad.auctionDebugLossUrl) = debugUrl
    split
    · exact ih _ _
    · split
      · exact ih _ _
      · split
        · exact ih _ _
        · exact hone _

variable (signals) in
def buyerFlagsAfter (igOwner : String) (flags : BuyerSamplingFlags) (ad : AdWithBid ℚ) :
    BuyerSamplingFlags where
  winUrlChecked := flags.winUrlChecked || isWinningIg signals igOwner ad
  lossUrlSelected := flags.lossUrlSelected || ad.auctionDebugLossUrl != ""
  putBuyerInCooldownForConfirmedLoss := flags.putBuyerInCooldownForConfirmedLoss ||
    !isWinningIg signals igOwner ad &&
      (if ad.auctionDebugLossUrl = "" then ad.debugLossUrlFailedSampling
        else flags.lossUrlSelected)

variable (signals) in
/-- The bids that the loop of a component auction gets to: it stops once a win was
checked, a loss URL selected and another loss confirmed. -/
def reachedBids (igOwner : String) : BuyerSamplingFlags → List (AdWithBid ℚ) → List (AdWithBid ℚ)
  | _, [] => []
  | flags, ad :: bids =>
    if flags.all then []
    else ad :: reachedBids igOwner (buyerFlagsAfter signals igOwner flags ad) bids

variable (strings signals) in
/-- The bid is of the winning interest group and has a win URL, also once the
placeholders are replaced. -/
def hasWinToReport (igOwner : String) (ad : AdWithBid ℚ) : Bool :=
  isWinningIg signals igOwner ad && ad.auctionDebugWinUrl != "" &&
    createDebugReportingUrlForInterestGroup strings ad.auctionDebugWinUrl
      (getPlaceholderDataForInterestGroup igOwner ad.interestGroupName signals) true != ""

variable (strings signals) in
def reportedWins (igOwner : String) (flags : BuyerSamplingFlags) (bids : List (AdWithBid ℚ)) : ℕ :=
  (reachedBids signals igOwner flags bids).countP (hasWinToReport strings signals igOwner)

theorem isWinningIg_iff {igOwner : String} {ad : AdWithBid ℚ} :
    isWinningIg signals igOwner ad = true ↔
      igOwner = signals.winningIgOwner ∧ ad.interestGroupName = signals.winningIgName := by
  simp [isWinningIg]

variable (strings) in
theorem handleSampledDebugWin_addsFor {igOwner : String} {ad : AdWithBid ℚ}
    (hwinning : isWinningIg signals igOwner ad = true) (m : AdtechOriginDebugUrlsMap) :
    ∃ added, AddsFor igOwner added m
        (handleSampledDebugWinReportForComponentAuctionWinner strings signals ad m) ∧
      countUrls true added = (if hasWinToReport strings signals igOwner ad then 1 else 0) ∧
      countUrls false added = 0 := by
  unfold hasWinToReport handleSampledDebugWinReportForComponentAuctionWinner
  obtain ⟨howner, hname⟩ := isWinningIg_iff.mp hwinning
  rw [hwinning, ← howner, ← hname]
  by_cases hurl : ad.auctionDebugWinUrl = ""
  · rw [if_neg (not_not_intro hurl)]
    split
    · refine ⟨_, addBuyerDebugReportToResponse_addsFor m igOwner _, ?_, ?_⟩
      · simp [countUrls_singleton, buyerDebugReport, hurl]
      · simp [countUrls_singleton, buyerDebugReport]
    · exact ⟨[], AddsFor.nil igOwner m, by simp [hurl], rfl⟩
  · rw [if_pos hurl]
    refine ⟨_, addBuyerDebugReportToResponse_addsFor m igOwner _, ?_, ?_⟩
    · simp [countUrls_singleton, buyerDebugReport, hurl]
    · simp [countUrls_singleton, buyerDebugReport]

variable (strings signals) in
theorem handleSampledDebugLoss_addsFor (igOwner : String) (ad : AdWithBid ℚ)
    (flags : BuyerSamplingFlags) (m : AdtechOriginDebugUrlsMap) :
    ∃ added, AddsFor igOwner added m (handleSampledDebugLossReportForComponentAuctionAd strings
        signals ad igOwner flags m).2 ∧
      countUrls true added = 0 ∧
      countUrls false added + flags.lossUrlSelected.toNat ≤
        (flags.lossUrlSelected || ad.auctionDebugLossUrl != "").toNat := by
  unfold handleSampledDebugLossReportForComponentAuctionAd
  dsimp only
  split
  · exact ⟨[], AddsFor.nil igOwner m, rfl, by cases flags.lossUrlSelected <;> simp⟩
  · split
    · rename_i hselect
      simp only [Bool.and_eq_true, Bool.not_eq_true', decide_eq_true_eq] at hselect
      refine ⟨_, addBuyerDebugReportToResponse_addsFor m igOwner _, ?_, ?_⟩
      · simp [countUrls_singleton, buyerDebugReport]
      · rw [countUrls_singleton, hselect.1]
        simp only [Bool.false_or, bne_iff_ne.mpr hselect.2, Bool.toNat_true, Bool.toNat_false]
        split <;> omega
    · split
      · refine ⟨_, addBuyerDebugReportToResponse_addsFor m igOwner _, ?_, ?_⟩
        · simp [countUrls_singleton, buyerDebugReport]
        · rw [countUrls_of_url_empty rfl]
          cases flags.lossUrlSelected <;> simp
      · exact ⟨[], AddsFor.nil igOwner m, rfl, by cases flags.lossUrlSelected <;> simp⟩

theorem handleSampledDebugLoss_flags (igOwner : String) (ad : AdWithBid ℚ)
    (flags : BuyerSamplingFlags) (m : AdtechOriginDebugUrlsMap) :
    (handleSampledDebugLossReportForComponentAuctionAd strings signals ad igOwner flags m).1 =
      { buyerFlagsAfter signals igOwner flags ad with winUrlChecked := flags.winUrlChecked } := by
  unfold handleSampledDebugLossReportForComponentAuctionAd buyerFlagsAfter
  obtain ⟨checked, selected, cooldown⟩ := flags
  by_cases hurl : ad.auctionDebugLossUrl = "" <;>
    by_cases hwinning : isWinningIg signals igOwner ad = true <;>
      cases selected <;> cases ad.debugLossUrlFailedSampling <;> simp [hurl, hwinning]

variable (strings signals) in
theorem sampleComponentAuctionBid_addsFor (igOwner : String) {flags : BuyerSamplingFlags}
    (hgo : flags.all = false) (ad : AdWithBid ℚ) (m : AdtechOriginDebugUrlsMap) :
    (sampleComponentAuctionBid strings signals igOwner (flags, m) ad).1 =
        buyerFlagsAfter signals igOwner flags ad ∧
      ∃ added, AddsFor igOwner added m
          (sampleComponentAuctionBid strings signals igOwner (flags, m) ad).2 ∧
        countUrls true added = (if hasWinToReport strings signals igOwner ad then 1 else 0) ∧
        countUrls false added + flags.lossUrlSelected.toNat ≤
          (buyerFlagsAfter signals igOwner flags ad).lossUrlSelected.toNat := by
  unfold sampleComponentAuctionBid
  rw [if_neg (by simp [hgo])]
  dsimp only
  by_cases hwinning : isWinningIg signals igOwner ad = true
  · rw [if_pos hwinning]
    obtain ⟨addedWin, haddsWin, hwin, hwinLoss⟩ :=
      handleSampledDebugWin_addsFor strings hwinning m
    obtain ⟨addedLoss, haddsLoss, hlossWin, hloss⟩ :=
      handleSampledDebugLoss_addsFor strings signals igOwner ad
        { flags with winUrlChecked := true }
        (handleSampledDebugWinReportForComponentAuctionWinner strings signals ad m)
    refine ⟨?_, addedWin ++ addedLoss, haddsWin.append haddsLoss, ?_, ?_⟩
    · rw [handleSampledDebugLoss_flags]
      simp [buyerFlagsAfter, hwinning]
    · rw [countUrls_append, hwin, hlossWin]
      rfl
    · rw [countUrls_append, hwinLoss, Nat.zero_add]
      exact hloss
  · rw [if_neg hwinning]
    obtain ⟨addedLoss, haddsLoss, hlossWin, hloss⟩ :=
      handleSampledDebugLoss_addsFor strings signals igOwner ad flags m
    refine ⟨?_, addedLoss, haddsLoss, ?_, hloss⟩
    · rw [handleSampledDebugLoss_flags]
      simp [buyerFlagsAfter, hwinning]
    · rw [hlossWin, if_neg (by simp [hasWinToReport, hwinning])]

variable (strings signals) in
/-- A component auction's loop over the bids of a buyer: every win it comes to, and
at most one loss. -/
theorem foldl_sampleComponentAuctionBid_addsFor (igOwner : String) (bids : List (AdWithBid ℚ))
    (flags : BuyerSamplingFlags) (m : AdtechOriginDebugUrlsMap) :
    ∃ added, AddsFor igOwner added m
        (bids.foldl (sampleComponentAuctionBid strings signals igOwner) (flags, m)).2 ∧
      countUrls true added = reportedWins strings signals igOwner flags bids ∧
      countUrls false added + flags.lossUrlSelected.toNat ≤ 1 := by
  induction bids generalizing flags m with
  | nil =>
    refine ⟨[], AddsFor.nil igOwner m, rfl, ?_⟩
    rw [countUrls_nil, Nat.zero_add]
    exact Bool.toNat_le _
  | cons ad bids ih =>
    rw [List.foldl_cons]
    cases hgo : flags.all with
    | true =>
      have hstop :
          sampleComponentAuctionBid strings signals igOwner (flags, m) ad = (flags, m) := by
        unfold sampleComponentAuctionBid
        rw [if_pos hgo]
      obtain ⟨added, hadds, hwins, hlosses⟩ := ih flags m
      refine ⟨added, by rwa [hstop], ?_, hlosses⟩
      rw [hwins]
      unfold reportedWins
      cases bids <;> simp [reachedBids, hgo]
    | false =>
      obtain ⟨hflags, added, hadds, hwins, hlosses⟩ :=
        sampleComponentAuctionBid_addsFor strings signals igOwner hgo ad m
      obtain ⟨added', hadds', hwins', hlosses'⟩ := ih (buyerFlagsAfter signals igOwner flags ad)
        (sampleComponentAuctionBid strings signals igOwner (flags, m) ad).2
      rw [← hflags] at hadds'
      refine ⟨added ++ added', hadds.append hadds', ?_, ?_⟩
      · have hreached : reachedBids signals igOwner flags (ad :: bids) =
            ad :: reachedBids signals igOwner (buyerFlagsAfter signals igOwner flags ad) bids := by
          simp [reachedBids, hgo]
        rw [countUrls_append, hwins, hwins', reportedWins, reportedWins, hreached,
          List.countP_cons, Nat.add_comm]
      · rw [countUrls_append]
        omega

variable (strings signals) in
theorem sampleComponentAuctionBuyerBids_addsFor (igOwner : String) (bids : List (AdWithBid ℚ))
    (m : AdtechOriginDebugUrlsMap) :
    ∃ added, AddsFor igOwner added m
        (sampleComponentAuctionBuyerBids strings signals igOwner bids m) ∧
      countUrls true added = reportedWins strings signals igOwner {} bids ∧
      countUrls false added ≤ 1 := by
  obtain ⟨added, hadds, hwins, hlosses⟩ := foldl_sampleComponentAuctionBid_addsFor
    strings signals igOwner bids {} m
  unfold sampleComponentAuctionBuyerBids
  dsimp only
  split
  · -- the cooldown has no URL
    refine ⟨added ++ _, hadds.append (addBuyerDebugReportToResponse_addsFor _ igOwner _), ?_, ?_⟩
    · rw [countUrls_append, hwins, countUrls_of_url_empty rfl, Nat.add_zero]
    · rw [countUrls_append, countUrls_of_url_empty rfl, Nat.add_zero]
      exact hlosses
  · exact ⟨added, hadds, hwins, hlosses⟩

end Buyer

/-! ## All buyers and the seller -/

variable (r : SelectAdReactor) (strings : StringsLibrary) (signals : PostAuctionSignals)

/-- One URL for a single seller's auction, one of each kind in a component auction. -/
def WithinReportLimits (reports : List DebugReport) : Prop :=
  if isComponentAuction r.auctionScope then
    countUrls true reports ≤ 1 ∧ countUrls false reports ≤ 1
  else
    countUrls true reports + countUrls false reports ≤ 1

/-- Reports within the limits, but for the wins of a component auction. -/
structure LimitedTo (wins : ℕ) (reports : List DebugReport) : Prop where
  single : isComponentAuction r.auctionScope = false →
    countUrls true reports + countUrls false reports ≤ 1
  component : isComponentAuction r.auctionScope = true →
    countUrls true reports = wins ∧ countUrls false reports ≤ 1

theorem LimitedTo.nil : r.LimitedTo 0 [] := ⟨fun _ => Nat.zero_le 1, fun _ => ⟨rfl, Nat.zero_le 1⟩⟩

variable {r} in
theorem LimitedTo.within_iff {wins : ℕ} {reports : List DebugReport}
    (h : r.LimitedTo wins reports) :
    r.WithinReportLimits reports ↔ (isComponentAuction r.auctionScope = true → wins ≤ 1) := by
  unfold WithinReportLimits
  cases hcomponent : isComponentAuction r.auctionScope with
  | true =>
    obtain ⟨hwins, hlosses⟩ := h.component hcomponent
    simp [hwins, hlosses]
  | false => simpa using h.single hcomponent

theorem sampleBuyer_addsFor (m : AdtechOriginDebugUrlsMap) (buyer : String × List (AdWithBid ℚ)) :
    ∃ added, AddsFor buyer.1 added m (r.sampleBuyer strings signals m buyer) ∧
      r.LimitedTo (reportedWins strings signals buyer.1 {} buyer.2) added := by
  unfold sampleBuyer
  cases hcomponent : isComponentAuction r.auctionScope with
  | true =>
    obtain ⟨added, hadds, hlimits⟩ := sampleComponentAuctionBuyerBids_addsFor
      strings signals buyer.1 buyer.2 m
    exact ⟨added, hadds, by simp [hcomponent], fun _ => hlimits⟩
  | false =>
    obtain ⟨added, hadds, hlimit⟩ := sampleBuyerBids_addsFor
      strings signals buyer.1 buyer.2 false false m
    exact ⟨added, hadds, fun _ => hlimit, by simp [hcomponent]⟩

/-- The wins reported for an ad tech; it has none unless it is a buyer. -/
def winsOf (adtech : String) : ℕ :=
  ((r.sharedBuyerBidsMap.lookup adtech).map (reportedWins strings signals adtech {})).getD 0

theorem foldl_sampleBuyer {buyers : List (String × List (AdWithBid ℚ))}
    (hnodup : (buyers.map Prod.fst).Nodup) (adtech : String) (m : AdtechOriginDebugUrlsMap) :
    (adtech ∉ buyers.map Prod.fst →
      reportsOf (buyers.foldl (r.sampleBuyer strings signals) m) adtech = reportsOf m adtech) ∧
    (∀ bids, (adtech, bids) ∈ buyers → ∃ added,
      reportsOf (buyers.foldl (r.sampleBuyer strings signals) m) adtech =
        reportsOf m adtech ++ added ∧
      r.LimitedTo (reportedWins strings signals adtech {} bids) added) := by
  induction buyers generalizing m with
  | nil => exact ⟨fun _ => rfl, fun _ h => absurd h List.not_mem_nil⟩
  | cons buyer buyers ih =>
    obtain ⟨hnot, hnodup⟩ := List.nodup_cons.mp hnodup
    obtain ⟨added, hadds, hlimits⟩ := r.sampleBuyer_addsFor strings signals m buyer
    obtain ⟨hothers, howns⟩ := ih hnodup (r.sampleBuyer strings signals m buyer)
    rw [List.foldl_cons]
    constructor
    · intro hadtech
      obtain ⟨hne, hrest⟩ := not_or.mp (mt List.mem_cons.mpr hadtech)
      rw [hothers hrest, hadds adtech, if_neg hne, List.append_nil]
    · intro bids hbids
      rcases List.mem_cons.mp hbids with rfl | hbids
      · refine ⟨added, ?_, hlimits⟩
        rw [hothers hnot, hadds adtech, if_pos rfl]
      · obtain ⟨added', hreports, hlimits'⟩ := howns bids hbids
        have hne : adtech ≠ buyer.1 := by
          rintro rfl
          exact hnot (List.mem_map.mpr ⟨_, hbids, rfl⟩)
        refine ⟨added', ?_, hlimits'⟩
        rw [hreports, hadds adtech, if_neg hne, List.append_nil]

theorem performSampledDebugReporting_limitedTo (ord : HashOrder) (adtech : String) :
    r.LimitedTo (r.winsOf strings signals adtech)
      (reportsOf (r.performSampledDebugReporting strings signals ord) adtech) := by
  obtain ⟨hothers, howns⟩ := foldl_sampleBuyer r strings signals
    (ord.keys_nodup (m := r.sharedBuyerBidsMap)) adtech ∅
  have hempty : reportsOf ∅ adtech = [] := rfl
  unfold winsOf performSampledDebugReporting
  cases hbids : r.sharedBuyerBidsMap.lookup adtech with
  | none =>
    have hnot : adtech ∉ (ord.entries r.sharedBuyerBidsMap).map Prod.fst := by
      intro hmem
      obtain ⟨entry, hentry, rfl⟩ := List.mem_map.mp hmem
      rw [ord.mem_entries.mp hentry] at hbids
      cases hbids
    rw [hothers hnot, hempty]
    exact LimitedTo.nil r
  | some bids =>
    obtain ⟨added, hreports, hlimits⟩ := howns bids (ord.mem_entries.mpr hbids)
    rw [hreports, hempty]
    exact hlimits

theorem KeepsAllowance.within_iff {before after : List DebugReport}
    (h : KeepsAllowance (.create true (isComponentAuction r.auctionScope)) before after) :
    r.WithinReportLimits after ↔ r.WithinReportLimits before := by
  obtain ⟨⟨more, rfl⟩, hwins, hlosses, hall⟩ := h
  unfold WithinReportLimits
  cases hcomponent : isComponentAuction r.auctionScope with
  | true =>
    simp only [hcomponent, DebugReportsInResponseCounts.create, if_true, countUrls_append] at *
    omega
  | false =>
    simp only [hcomponent, DebugReportsInResponseCounts.create, if_true, countUrls_append,
      Bool.false_eq_true, if_false] at *
    omega

theorem mergeSellerDebugReportsToResponse_within_iff (sellerDebugReports : Option DebugReports)
    {m : AdtechOriginDebugUrlsMap} {adtech : String} {wins : ℕ}
    (h : r.LimitedTo wins (reportsOf m adtech)) :
    r.WithinReportLimits
        (reportsOf (r.mergeSellerDebugReportsToResponse sellerDebugReports true m) adtech) ↔
      (isComponentAuction r.auctionScope = true → wins ≤ 1) := by
  unfold mergeSellerDebugReportsToResponse
  dsimp only
  split
  · exact h.within_iff
  · by_cases hadtech : adtech = r.seller
    · subst hadtech
      rw [← h.within_iff]
      have hbefore : KeepsAllowance
          (.create true (isComponentAuction r.auctionScope)) (reportsOf m r.seller)
          (reportsOf m r.seller) :=
        ⟨List.prefix_rfl, Int.le_max_left _ _, Int.le_max_left _ _, Int.le_max_left _ _⟩
      have hleft := (DebugReportsInResponseCounts.Remaining.nil
        (.create true (isComponentAuction r.auctionScope))).foldl (reportsOf m r.seller)
      rw [List.nil_append] at hleft
      have hkeeps := foldl_addSellerDebugReport_keeps (sellerDebugReports.getD {}).reports
        (s := (_, _)) hleft hbefore
      have hreports : ∀ reports, reportsOf (m.insert r.seller { reports := reports }) r.seller =
          reports := by
        intro reports
        unfold reportsOf
        rw [AList.lookup_insert]
        rfl
      rw [hreports]
      exact KeepsAllowance.within_iff r hkeeps
    · have hreports : ∀ reports, reportsOf (m.insert r.seller { reports := reports }) adtech =
          reportsOf m adtech := by
        intro reports
        unfold reportsOf
        rw [AList.lookup_insert_ne hadtech]
      rw [hreports]
      exact h.within_iff

abbrev sampledDebugReporting : Bool := r.enableDebugReporting && r.enableSampledDebugReporting

/-- The limits hold for every ad tech exactly if, in a component auction, the loop over the
bids of the winner's owner comes to at most one bid of the winning interest group
that has a win URL. -/
theorem buyerReportLimits_iff (ord : HashOrder) (sellerDebugReports : Option DebugReports)
    (highScore : Option (AdScore ℚ)) :
    (r.sampledDebugReporting = true → ∀ adtech, r.WithinReportLimits
        (reportsOf (r.performDebugReporting strings ord sellerDebugReports highScore).1 adtech)) ↔
      (r.sampledDebugReporting = true → isComponentAuction r.auctionScope = true →
        let signals := PostAuctionSignals.ofHighScore ord highScore r.sellerCurrency
        ∀ bids, r.sharedBuyerBidsMap.lookup signals.winningIgOwner = some bids →
          (reachedBids signals signals.winningIgOwner {} bids).countP
            (hasWinToReport strings signals signals.winningIgOwner) ≤ 1) := by
  refine imp_congr_right fun hsampled => ?_
  obtain ⟨henabled, hsampled⟩ := Bool.and_eq_true_iff.mp hsampled
  unfold performDebugReporting
  rw [if_pos henabled]
  dsimp only
  rw [if_pos hsampled, hsampled]
  generalize PostAuctionSignals.ofHighScore ord highScore r.sellerCurrency = signals
  refine Iff.trans (forall_congr' fun adtech =>
    r.mergeSellerDebugReportsToResponse_within_iff sellerDebugReports
      (r.performSampledDebugReporting_limitedTo strings signals ord adtech)) ?_
  constructor
  · intro h hcomponent bids hbids
    have hwins := h signals.winningIgOwner hcomponent
    rw [winsOf, hbids] at hwins
    exact hwins
  · intro h adtech hcomponent
    unfold winsOf
    cases hbids : r.sharedBuyerBidsMap.lookup adtech with
    | none => exact Nat.zero_le 1
    | some bids =>
      by_cases howner : adtech = signals.winningIgOwner
      · subst howner
        exact h hcomponent bids hbids
      · -- only the winner's owner has wins to report
        have hzero : reportedWins strings signals adtech {} bids = 0 :=
          List.countP_eq_zero.mpr fun ad _ => by simp [hasWinToReport, isWinningIg, howner]
        rw [Option.map_some, Option.getD_some, hzero]
        exact Nat.zero_le 1

/-- Two bids of one interest group in a component auction that samples. -/
def twinBids : SelectAdReactor :=
  let bid : AdWithBid ℚ := {
    bid := 1, interestGroupName := "W", debugReportUrls := some ⟨"https://buyer.com/win", ""⟩ }
  { sharedBuyerBidsMap := AList.insert "A" [bid, bid] ∅
    buyerReportWinJsUrls := ∅
    buyerInputs := ∅
    enableEnforceKanon := false
    auctionScope := .deviceComponentMultiSeller
    enableDebugReporting := true
    enableSampledDebugReporting := true }

/-- The group wins and its win is reported for both bids. -/
theorem buyerReportLimits_fails_on_twins :
    ¬ (twinBids.sampledDebugReporting = true → ∀ adtech, twinBids.WithinReportLimits
        (reportsOf (twinBids.performDebugReporting ⟨fun _ => "", fun url _ => url⟩ .stored none
          (some { AdScore.unset with interestGroupOwner := "A", interestGroupName := "W" })).1
            adtech)) := by
  intro h
  have hwins : countUrls true
      (reportsOf (twinBids.performDebugReporting ⟨fun _ => "", fun url _ => url⟩ .stored none
        (some { AdScore.unset with interestGroupOwner := "A", interestGroupName := "W" })).1
          "A") = 2 := by
    decide +kernel
  have hwithin : _ ∧ _ := h rfl "A"
  rw [hwins] at hwithin
  omega

end SelectAdReactor

end BiddingAuction

import BiddingAuction.Attestation.AdTechSite
import BiddingAuction.ScoreAds.Candidates
import BiddingAuction.ScoreAds.DebugReports

/-!
# Attestation of the debug URLs that are sent

`AttestDebugUrls` drops URLs from the winning score of the response. The URLs that
the loops take from their own copies of the scores have not been checked.
-/

namespace BiddingAuction

namespace ScoreAdsReactor

/-! ## The winning score -/

section Winner

variable {env : DebugEnvironment} {adScore : Option (AdScore ℚ)}

theorem attests_keepAttested {url : String} (h : env.keepAttested url ≠ "") :
    env.attests (env.keepAttested url) = true := by
  unfold DebugEnvironment.keepAttested at h ⊢
  split
  · assumption
  · rename_i hnot
    rw [if_neg hnot] at h
    exact absurd rfl h

theorem attestDebugUrls_attested {debugUrls : DebugReportUrls}
    (h : (env.attestDebugUrls adScore).bind AdScore.debugReportUrls = some debugUrls) :
    (debugUrls.auctionDebugWinUrl ≠ "" → env.attests debugUrls.auctionDebugWinUrl = true) ∧
      (debugUrls.auctionDebugLossUrl ≠ "" → env.attests debugUrls.auctionDebugLossUrl = true) := by
  unfold DebugEnvironment.attestDebugUrls at h
  by_cases hcache : env.adtechAttestationCache.isNone = true
  · have hall : ∀ url, env.attests url = true := by
      intro url
      unfold DebugEnvironment.attests
      rw [Option.isNone_iff_eq_none.mp hcache]
    exact ⟨fun _ => hall _, fun _ => hall _⟩
  · rw [if_neg hcache] at h
    dsimp only at h
    split at h
    · rename_i hempty
      obtain rfl := Option.some.inj h
      exact ⟨fun hne => absurd hempty.1 hne, fun hne => absurd hempty.2 hne⟩
    · rw [Option.bind_some] at h
      dsimp only at h
      split at h
      · cases h
      · obtain rfl := Option.some.inj h
        exact ⟨attests_keepAttested, attests_keepAttested⟩

theorem debugReportUrls_eq_some_of_winUrl {score : AdScore ℚ} (h : score.auctionDebugWinUrl ≠ "") :
    ∃ debugUrls, score.debugReportUrls = some debugUrls ∧
      debugUrls.auctionDebugWinUrl = score.auctionDebugWinUrl := by
  unfold AdScore.auctionDebugWinUrl at h ⊢
  cases hurls : score.debugReportUrls with
  | none => simp [hurls] at h
  | some debugUrls => exact ⟨debugUrls, rfl, rfl⟩

theorem debugReportUrls_eq_some_of_lossUrl {score : AdScore ℚ}
    (h : score.auctionDebugLossUrl ≠ "") :
    ∃ debugUrls, score.debugReportUrls = some debugUrls ∧
      debugUrls.auctionDebugLossUrl = score.auctionDebugLossUrl := by
  unfold AdScore.auctionDebugLossUrl at h ⊢
  cases hurls : score.debugReportUrls with
  | none => simp [hurls] at h
  | some debugUrls => exact ⟨debugUrls, rfl, rfl⟩

private theorem debugWinner_urls {served : Served} {debugUrls : DebugReportUrls}
    (h : (debugWinner env served).adScore.debugReportUrls = some debugUrls) :
    (env.attestDebugUrls served.adScore).bind AdScore.debugReportUrls = some debugUrls := by
  unfold debugWinner at h
  cases hattested : env.attestDebugUrls served.adScore with
  | none =>
    rw [hattested] at h
    cases h
  | some score =>
    rw [hattested] at h
    exact h

theorem debugWinner_winUrl_attested {served : Served}
    (h : (debugWinner env served).adScore.auctionDebugWinUrl ≠ "") :
    env.attests (debugWinner env served).adScore.auctionDebugWinUrl = true := by
  obtain ⟨debugUrls, hurls, hwin⟩ := debugReportUrls_eq_some_of_winUrl h
  rw [← hwin] at h ⊢
  exact (attestDebugUrls_attested (debugWinner_urls hurls)).1 h

theorem debugWinner_lossUrl_attested {served : Served}
    (h : (debugWinner env served).adScore.auctionDebugLossUrl ≠ "") :
    env.attests (debugWinner env served).adScore.auctionDebugLossUrl = true := by
  obtain ⟨debugUrls, hurls, hloss⟩ := debugReportUrls_eq_some_of_lossUrl h
  rw [← hloss] at h ⊢
  exact (attestDebugUrls_attested (debugWinner_urls hurls)).2 h

end Winner

/-! ## All that is sent -/

section Sent

variable (r : ScoreAdsReactor) (env : DebugEnvironment) (signals : PostAuctionSignals)

def AllAttested (reports : List SellerDebugReport) (pings : List DebugPing) : Prop :=
  ∀ sent ∈ (DebugReporting.mk none reports pings).sent,
    sent.debugUrl ≠ "" → env.attests sent.debugUrl = true

/-- The URLs that the loops take from their copies of the scores are attested. -/
structure CopiesAttested (winner : WinningAd) (ads : List (String × AdScore ℚ)) : Prop where
  unsampled : r.sampled = false → ∀ ad ∈ ads,
    (isWinningIg signals ad.2 && isComponentAuction r.auctionScope) = false →
      debugUrlFor signals ad.2 ≠ "" → env.attests (debugUrlFor signals ad.2) = true
  singleSeller : r.sampled = true → isComponentAuction r.auctionScope = false →
    ∀ ad, ads.find? (isSampled env signals) = some ad →
      (debugUrlFor signals ad.2).utf8ByteSize ≤ r.maxAllowedSizeAllDebugUrlsChars →
        env.attests (debugUrlFor signals ad.2) = true
  component : r.sampled = true → isComponentAuction r.auctionScope = true →
    ∀ ad, r.lossReport? env signals winner ads = some ad →
      env.attests ad.2.auctionDebugLossUrl = true

variable {r env signals}

theorem allAttested_iff {reports : List SellerDebugReport} {pings : List DebugPing} :
    AllAttested env reports pings ↔
      (∀ report ∈ withUrl reports, env.attests report.sent.debugUrl = true) ∧
        ∀ ping ∈ pings, ping.sent.debugUrl ≠ "" → env.attests ping.sent.debugUrl = true := by
  unfold AllAttested DebugReporting.sent withUrl
  simp only [List.mem_append, List.mem_map, List.mem_filter, bne_iff_ne, and_imp]
  constructor
  · intro h
    exact ⟨fun report hreport hne => h report.sent (.inl ⟨report, hreport, rfl⟩) hne,
      fun ping hping hne => h ping.sent (.inr ⟨ping, hping, rfl⟩) hne⟩
  · rintro ⟨hreports, hpings⟩ sent (⟨report, hreport, rfl⟩ | ⟨ping, hping, rfl⟩) hne
    · exact hreports report hreport hne
    · exact hpings ping hping hne

section Served

variable {served : Served} {ads : List (String × AdScore ℚ)}

private theorem winOffer_attested (h : (winOffer signals (debugWinner env served)).hasUrl = true) :
    env.attests (winOffer signals (debugWinner env served)).sent.debugUrl = true :=
  debugWinner_winUrl_attested (bne_iff_ne.mp h)

private theorem winnerReports_attested {report : SellerDebugReport}
    (h : report ∈ r.winnerReports env signals (debugWinner env served)) :
    env.attests report.sent.debugUrl = true := by
  obtain ⟨offer, hoffer, rfl⟩ := List.mem_map.mp h
  obtain ⟨hmem, hurl⟩ := List.mem_filter.mp (Foundation.Budget.accept_sublist.subset hoffer)
  rcases List.mem_cons.mp hmem with rfl | hmem
  · exact winOffer_attested hurl
  · obtain rfl := List.mem_singleton.mp hmem
    exact debugWinner_lossUrl_attested (bne_iff_ne.mp hurl)

theorem allAttested_unsampled :
    AllAttested env
        (r.performUnsampledDebugReporting env signals (debugWinner env served) ads).1
        (r.performUnsampledDebugReporting env signals (debugWinner env served) ads).2 ↔
      ∀ ad ∈ ads, (isWinningIg signals ad.2 && isComponentAuction r.auctionScope) = false →
        debugUrlFor signals ad.2 ≠ "" → env.attests (debugUrlFor signals ad.2) = true := by
  rw [allAttested_iff, performUnsampledDebugReporting_eq]
  constructor
  · rintro ⟨-, hpings⟩ ad had hvisit hurl
    exact hpings _ (List.mem_flatMap.mpr ⟨ad, had, mem_pingsFor.mpr ⟨hvisit, hurl, rfl⟩⟩) hurl
  · intro h
    constructor
    · intro report hreport
      obtain ⟨reports, hreports, hmem⟩ := List.mem_flatten.mp (List.mem_of_mem_filter hreport)
      obtain rfl := (List.mem_replicate.mp hreports).2
      exact winnerReports_attested hmem
    · intro ping hping _
      obtain ⟨ad, had, hping⟩ := List.mem_flatMap.mp hping
      obtain ⟨hvisit, hurl, rfl⟩ := mem_pingsFor.mp hping
      exact h ad had hvisit hurl

theorem allAttested_singleSeller :
    AllAttested env
        (r.performSampledDebugReportingForSingleSeller env signals ads none {}).reports [] ↔
      ∀ ad, ads.find? (isSampled env signals) = some ad →
        (debugUrlFor signals ad.2).utf8ByteSize ≤ r.maxAllowedSizeAllDebugUrlsChars →
          env.attests (debugUrlFor signals ad.2) = true := by
  rw [allAttested_iff, withUrl_singleSeller]
  unfold admitted
  cases ads.find? (isSampled env signals) with
  | none => simp [Foundation.Budget.accept]
  | some ad =>
    by_cases hfits : (debugUrlFor signals ad.2).utf8ByteSize ≤ r.maxAllowedSizeAllDebugUrlsChars
    · simp [Foundation.Budget.accept, ReportOffer.size, ReportOffer.toReport, singleSellerOffer,
        sentFor, hfits]
    · simp [Foundation.Budget.accept, ReportOffer.size, singleSellerOffer, sentFor, hfits]

theorem allAttested_component :
    AllAttested env (r.performSampledDebugReportingForComponentAuction env signals
        (debugWinner env served) ads).reports [] ↔
      ∀ ad, r.lossReport? env signals (debugWinner env served) ads = some ad →
        env.attests ad.2.auctionDebugLossUrl = true := by
  rw [allAttested_iff]
  constructor
  · rintro ⟨hreports, -⟩ ad had
    rw [withUrl_component] at hreports
    refine hreports _ (List.mem_map.mpr ⟨lossOffer signals ad, ?_, rfl⟩)
    rw [had]
    simp
  · intro h
    refine ⟨fun report hreport => ?_, by simp⟩
    have hurl := bne_iff_ne.mp (List.mem_filter.mp hreport).2
    rw [withUrl_component] at hreport
    obtain ⟨offer, hoffer, rfl⟩ := List.mem_map.mp hreport
    have hwin : ∀ {n : ℕ}, offer ∈ List.replicate n (winOffer signals (debugWinner env served)) →
        env.attests offer.sent.debugUrl = true := by
      intro n hmem
      obtain rfl := (List.mem_replicate.mp hmem).2
      exact winOffer_attested (bne_iff_ne.mpr hurl)
    rcases List.mem_append.mp hoffer with hoffer | hoffer
    · exact hwin hoffer
    · rcases List.mem_append.mp hoffer with hoffer | hoffer
      · obtain ⟨ad, had, rfl⟩ := List.mem_map.mp hoffer
        exact h ad (Option.mem_toList.mp had)
      · exact hwin hoffer

end Served

/-- Only attested URLs are sent, exactly if, wherever debug URLs are reported, the URLs
taken from the copies of the scores are attested. -/
theorem debugReporting_attested_iff (r : ScoreAdsReactor) (env : DebugEnvironment)
    (lib : Library) (ch : Choices) (responses : List RomaResponse) :
    (∀ d, r.debugReporting env lib ch responses = some d → ∀ sent ∈ d.sent,
        sent.debugUrl ≠ "" → env.attests sent.debugUrl = true) ↔
      ∀ served, r.scoreAdsCallback lib ch responses = some served →
        r.reportsDebugUrls env served = true →
          r.CopiesAttested env (r.debugSignals env served) (debugWinner env served)
            (r.debugAds env lib ch responses) := by
  refine (forall_debugReporting (P := AllAttested env)).trans
    (forall_congr' fun served => imp_congr_right fun _ => ?_)
  unfold reportsAndPings
  cases hreports : r.reportsDebugUrls env served with
  | false => simp [AllAttested, DebugReporting.sent]
  | true =>
    rw [Bool.not_true, if_neg Bool.false_ne_true]
    cases hsampled : r.sampled with
    | false =>
      rw [if_neg Bool.false_ne_true, allAttested_unsampled]
      refine ⟨fun h _ => ⟨fun _ => h, ?_, ?_⟩, fun h => (h rfl).unsampled hsampled⟩ <;>
        simp [hsampled]
    | true =>
      rw [if_pos rfl]
      unfold performSampledDebugReporting
      cases hcomponent : isComponentAuction r.auctionScope with
      | false =>
        rw [if_neg Bool.false_ne_true, allAttested_singleSeller]
        refine ⟨fun h _ => ⟨?_, fun _ _ => h, ?_⟩,
          fun h => (h rfl).singleSeller hsampled hcomponent⟩ <;> simp [hsampled, hcomponent]
      | true =>
        rw [if_pos rfl, allAttested_component]
        refine ⟨fun h _ => ⟨?_, ?_, fun _ _ => h⟩,
          fun h => (h rfl).component hsampled hcomponent⟩ <;> simp [hsampled, hcomponent]

/-- The ads `w` of `A` and `x` of `B`, whose debug URLs are to be reported. -/
def twoDebugAds : ScoreAdsReactor where
  rawRequest := { enableDebugReporting := true }
  enableSellerDebugUrlGeneration := true
  maxAllowedSizeDebugUrlChars := 100
  adData := AList.insert "x"
      { render := "x", interestGroupOwner := "B", interestGroupName := "X", bid := 1 }
    (AList.insert "w"
      { render := "w", interestGroupOwner := "A", interestGroupName := "W", bid := 1 } ∅)

/-- A library that reads `bare` and `best` as the score 2 and anything else as the
score 1, with URLs of the seller for `best` and of somebody else for the loss of the
others. -/
def debugLibrary : Library where
  parseJsonString := fun text => some (.object [("response",
    if text = "bare" then .number 2
    else .object
      [("desirability", .number (if text = "best" then 2 else 1)),
        ("allowComponentAuction", .bool true),
        ("debugReportUrls", .object
          [("auctionDebugWinUrl", .string "https://seller.com/win"),
            ("auctionDebugLossUrl", .string (if text = "best" then "https://seller.com/loss"
              else "https://other.com/loss"))])])])
  serializeJsonDoc := fun _ => none
  messageToJsonString := fun _ => none
  toString := fun _ => ""
  toFloat := id

def sellerEnrolled : DebugEnvironment where
  ord := .stored
  strings := { strFormat := fun _ => "1.00", strReplaceAll := fun url _ => url }
  memory := ⟨0, false⟩
  getValidAdTechSite := fun url =>
    some (if url = "https://other.com/loss" then "https://other.com" else "https://seller.com")
  adtechAttestationCache := some (.ofList ["https://seller.com"])

/-- The loss of `x` is pinged at a site that is not enrolled. -/
theorem debugReporting_attested_fails_on_loser :
    ¬ ∀ d, twoDebugAds.debugReporting sellerEnrolled debugLibrary .standard
        [.ok ⟨"w", "best"⟩, .ok ⟨"x", "other"⟩] = some d → ∀ sent ∈ d.sent,
          sent.debugUrl ≠ "" → sellerEnrolled.attests sent.debugUrl = true := by
  intro h
  have hurls : (twoDebugAds.debugReporting sellerEnrolled debugLibrary .standard
      [.ok ⟨"w", "best"⟩, .ok ⟨"x", "other"⟩]).map (fun d => d.sent.map SentDebugUrl.debugUrl) =
        some ["https://other.com/loss", "https://seller.com/win"] := by
    decide +kernel
  obtain ⟨d, hd, hsent⟩ := Option.map_eq_some_iff.mp hurls
  obtain ⟨sent, hmem, hurl⟩ := List.mem_map.mp
    (hsent ▸ List.mem_cons_self : "https://other.com/loss" ∈ d.sent.map SentDebugUrl.debugUrl)
  have hattested := h d hd sent hmem (by rw [hurl]; decide)
  rw [hurl] at hattested
  revert hattested
  decide +kernel

end Sent

end ScoreAdsReactor

end BiddingAuction

import BiddingAuction.ScoreAds.FindWinner

/-!
# Debug reporting in `ScoreAds`

Debug URLs come with the scores. `ad_scores_` keeps a copy of every score as it
was first parsed; the winning score in the response is another copy, and the one
`AttestDebugUrls` checks. A URL that leaves the server is pinged or put into a
report of the response; beside it the model keeps which ad it is about and what
`scoreAd` gave, before placeholders were replaced.
-/

namespace BiddingAuction

/-- What debug reporting depends on besides the scores. -/
structure DebugEnvironment where
  ord : HashOrder
  strings : StringsLibrary
  memory : Memory
  getValidAdTechSite : String → Option String
  adtechAttestationCache : Option (FlatHashSet String) := none
  /-- `DebugUrlPassesSampling`, by the kind of the URL (win or not) and the ad the
  loop is at; it is asked at most once for each. -/
  debugUrlPassesSampling : Bool → String → Bool := fun _ _ => false

structure SentDebugUrl where
  id : String
  debugUrl : String
  isWinReport : Bool
  placeholderData : Option DebugReportingPlaceholder
deriving DecidableEq

structure SellerDebugReport where
  sent : SentDebugUrl
  report : DebugReport
deriving DecidableEq

structure DebugPing where
  sent : SentDebugUrl
  url : String
deriving DecidableEq

namespace AdScore

variable (adScore : AdScore ℚ)

/-- `debug_report_urls().auction_debug_win_url()`. -/
def auctionDebugWinUrl : String :=
  (adScore.debugReportUrls.map DebugReportUrls.auctionDebugWinUrl).getD ""

/-- `debug_report_urls().auction_debug_loss_url()`. -/
def auctionDebugLossUrl : String :=
  (adScore.debugReportUrls.map DebugReportUrls.auctionDebugLossUrl).getD ""

end AdScore

/-! ## Attestation -/

namespace DebugEnvironment

variable (env : DebugEnvironment)

/-- The check of `AttestDebugUrls`: the URL has a site and it is enrolled. Without a
cache nothing is checked. -/
def attests (url : String) : Bool :=
  match env.adtechAttestationCache with
  | none => true
  | some sites => (env.getValidAdTechSite url).any fun site => site ∈ sites

def keepAttested (url : String) : String := if env.attests url then url else ""

/-- `AttestDebugUrls`, on the winning score of the response. -/
def attestDebugUrls (winner : Option (AdScore ℚ)) : Option (AdScore ℚ) :=
  if env.adtechAttestationCache.isNone then winner
  else
    -- the score and its URLs are there from now on
    let adScore := winner.getD .unset
    let debugUrls := adScore.debugReportUrls.getD ⟨"", ""⟩
    if debugUrls.auctionDebugWinUrl = "" ∧ debugUrls.auctionDebugLossUrl = "" then
      some { adScore with debugReportUrls := some debugUrls }
    else
      let attested : DebugReportUrls :=
        { auctionDebugWinUrl := env.keepAttested debugUrls.auctionDebugWinUrl
          auctionDebugLossUrl := env.keepAttested debugUrls.auctionDebugLossUrl }
      some { adScore with
        debugReportUrls :=
          if attested.auctionDebugWinUrl = "" ∧ attested.auctionDebugLossUrl = "" then none
          else some attested }

end DebugEnvironment

namespace ScoreAdsReactor

variable (r : ScoreAdsReactor) (env : DebugEnvironment) (signals : PostAuctionSignals)

/-! ## Reports in the response -/

/-- The reports so far, with the counter of their sizes. -/
structure ReportsInResponse where
  reports : List SellerDebugReport := []
  currentSizeAllDebugUrlsChars : ℕ := 0

/-- What `AddSellerDebugReportToResponse` is called with. -/
structure ReportOffer where
  sent : SentDebugUrl
  isComponentWin : Bool

def ReportOffer.toReport (offer : ReportOffer) : SellerDebugReport where
  sent := offer.sent
  report :=
    { url := match offer.sent.placeholderData with
        | some data => createDebugReportingUrlForInterestGroup env.strings offer.sent.debugUrl data
            (offer.sent.isWinReport || offer.isComponentWin)
        | none => offer.sent.debugUrl
      isSellerReport := true
      isWinReport := offer.sent.isWinReport
      isComponentWin := offer.isComponentWin }

def addSellerDebugReportToResponse (s : ReportsInResponse) (offer : ReportOffer) :
    ReportsInResponse :=
  if offer.sent.debugUrl.utf8ByteSize + s.currentSizeAllDebugUrlsChars >
      r.maxAllowedSizeAllDebugUrlsChars then
    s
  else
    { reports := s.reports ++ [offer.toReport env]
      currentSizeAllDebugUrlsChars :=
        s.currentSizeAllDebugUrlsChars + offer.sent.debugUrl.utf8ByteSize }

/-- The score is of the interest group the signals name as the winner's. -/
def isWinningIg (adScore : AdScore ℚ) : Bool :=
  adScore.interestGroupOwner = signals.winningIgOwner &&
    adScore.interestGroupName = signals.winningIgName

/-- A URL with the placeholder data of the interest group of a score. -/
def sentFor (id debugUrl : String) (isWinReport : Bool) (adScore : AdScore ℚ) : SentDebugUrl where
  id := id
  debugUrl := debugUrl
  isWinReport := isWinReport
  placeholderData := some (getPlaceholderDataForInterestGroup adScore.interestGroupOwner
    adScore.interestGroupName signals)

/-- A report without a URL, which tells the client about a cooldown. -/
def cooldownOffer (id : String) (isWinReport isComponentWin : Bool) : ReportOffer where
  sent := { id := id, debugUrl := "", isWinReport := isWinReport, placeholderData := none }
  isComponentWin := isComponentWin

/-! ## Sampled, with one seller -/

/-- The URL the loops of a single seller consider for an ad. -/
def debugUrlFor (adScore : AdScore ℚ) : String :=
  if isWinningIg signals adScore then adScore.auctionDebugWinUrl else adScore.auctionDebugLossUrl

/-- The loop of `PerformSampledDebugReporting`, with the kind of report the last URL
without luck asks a cooldown for. -/
def performSampledDebugReportingForSingleSeller :
    List (String × AdScore ℚ) → Option (String × Bool) → ReportsInResponse → ReportsInResponse
  | [], none, s => s
  | [], some (id, cooldownIsForDebugWin), s =>
    r.addSellerDebugReportToResponse env s (cooldownOffer id cooldownIsForDebugWin false)
  | (id, adScore) :: rest, cooldown, s =>
    let debugUrl := debugUrlFor signals adScore
    if debugUrl = "" then
      performSampledDebugReportingForSingleSeller rest cooldown s
    else if env.debugUrlPassesSampling (isWinningIg signals adScore) id then
      r.addSellerDebugReportToResponse env s
        { sent := sentFor signals id debugUrl (isWinningIg signals adScore) adScore
          isComponentWin := false }
    else
      performSampledDebugReportingForSingleSeller rest
        (some (id, isWinningIg signals adScore)) s

/-! ## Sampled, in a component auction -/

structure SamplingFlags where
  winUrlChecked : Bool := false
  lossUrlSelected : Bool := false
  putSellerInCooldownForConfirmedLoss : Bool := false

def SamplingFlags.all (flags : SamplingFlags) : Bool :=
  flags.winUrlChecked && flags.lossUrlSelected && flags.putSellerInCooldownForConfirmedLoss

/-- The winning score in the response, with the id of its ad. -/
structure WinningAd where
  id : String
  adScore : AdScore ℚ

/-- `SampleDebugWinReportForComponentAuctionWinner`, while the loop is at an ad. -/
def sampleDebugWinReportForComponentAuctionWinner (winner : WinningAd) (at_ : String)
    (s : ReportsInResponse) : ReportsInResponse :=
  let debugWinUrl := winner.adScore.auctionDebugWinUrl
  if debugWinUrl = "" then s
  else if env.debugUrlPassesSampling true at_ then
    r.addSellerDebugReportToResponse env s
      { sent := sentFor signals winner.id debugWinUrl true winner.adScore, isComponentWin := true }
  else
    r.addSellerDebugReportToResponse env s (cooldownOffer winner.id true true)

def sampleDebugLossReportForComponentAuctionAd (id : String) (adScore : AdScore ℚ)
    (flags : SamplingFlags) (s : ReportsInResponse) : SamplingFlags × ReportsInResponse :=
  let debugLossUrl := adScore.auctionDebugLossUrl
  if debugLossUrl = "" then (flags, s)
  else if !flags.lossUrlSelected && env.debugUrlPassesSampling false id then
    ({ flags with lossUrlSelected := true },
      r.addSellerDebugReportToResponse env s
        { sent := sentFor signals id debugLossUrl false adScore
          isComponentWin := isWinningIg signals adScore })
  else if isWinningIg signals adScore then
    (flags, r.addSellerDebugReportToResponse env s (cooldownOffer id false true))
  else
    ({ flags with putSellerInCooldownForConfirmedLoss := true }, s)

/-- One turn of the loop of `PerformSampledDebugReportingForComponentAuction`. -/
def sampleComponentAuctionAd (winner : WinningAd) (s : SamplingFlags × ReportsInResponse)
    (ad : String × AdScore ℚ) : SamplingFlags × ReportsInResponse :=
  if s.1.all then s
  else if isWinningIg signals ad.2 then
    r.sampleDebugLossReportForComponentAuctionAd env signals ad.1 ad.2
      { s.1 with winUrlChecked := true }
      (r.sampleDebugWinReportForComponentAuctionWinner env signals winner ad.1 s.2)
  else
    r.sampleDebugLossReportForComponentAuctionAd env signals ad.1 ad.2 s.1 s.2

def performSampledDebugReportingForComponentAuction (winner : WinningAd)
    (ads : List (String × AdScore ℚ)) : ReportsInResponse :=
  let s := ads.foldl (r.sampleComponentAuctionAd env signals winner) ({}, {})
  if s.1.putSellerInCooldownForConfirmedLoss then
    r.addSellerDebugReportToResponse env s.2 (cooldownOffer "" false false)
  else
    s.2

def performSampledDebugReporting (winner : WinningAd) (ads : List (String × AdScore ℚ)) :
    List SellerDebugReport :=
  if isComponentAuction r.auctionScope then
    (r.performSampledDebugReportingForComponentAuction env signals winner ads).reports
  else
    (r.performSampledDebugReportingForSingleSeller env signals ads none {}).reports

/-! ## Unsampled -/

/-- `PerformUnsampledDebugReportingForComponentAuctionWinner`, which counts sizes anew. -/
def performUnsampledDebugReportingForComponentAuctionWinner (winner : WinningAd)
    (reports : List SellerDebugReport) : List SellerDebugReport :=
  let offer (debugUrl : String) (isWinReport : Bool) (s : ReportsInResponse) :=
    if debugUrl = "" then s
    else r.addSellerDebugReportToResponse env s
      { sent := sentFor signals winner.id debugUrl isWinReport winner.adScore
        isComponentWin := true }
  (offer winner.adScore.auctionDebugLossUrl false
    (offer winner.adScore.auctionDebugWinUrl true { reports := reports })).reports

def sendDebugReportingPing (id debugUrl : String) (adScore : AdScore ℚ) (isWinningIg : Bool) :
    List DebugPing :=
  if debugUrl = "" then []
  else
    let data := getPlaceholderDataForInterestGroup adScore.interestGroupOwner
      adScore.interestGroupName signals
    [{ sent := sentFor signals id debugUrl isWinningIg adScore
       url := createDebugReportingUrlForInterestGroup env.strings debugUrl data isWinningIg }]

/-- One turn of the loop of `PerformUnsampledDebugReporting`. -/
def reportUnsampled (winner : WinningAd) (s : List SellerDebugReport × List DebugPing)
    (ad : String × AdScore ℚ) : List SellerDebugReport × List DebugPing :=
  if ad.2.debugReportUrls.isNone then s
  else if isWinningIg signals ad.2 && isComponentAuction r.auctionScope then
    (r.performUnsampledDebugReportingForComponentAuctionWinner env signals winner s.1, s.2)
  else
    (s.1, s.2 ++ sendDebugReportingPing env signals ad.1 (debugUrlFor signals ad.2) ad.2
      (isWinningIg signals ad.2))

def performUnsampledDebugReporting (winner : WinningAd) (ads : List (String × AdScore ℚ)) :
    List SellerDebugReport × List DebugPing :=
  ads.foldl (r.reportUnsampled env signals winner) ([], [])

/-! ## The whole -/

/-- What debug reporting leaves: the winning score of the response, the reports in
the response, and the pings. -/
structure DebugReporting where
  adScore : Option (AdScore ℚ) := none
  reports : List SellerDebugReport := []
  pings : List DebugPing := []

def DebugReporting.sent (d : DebugReporting) : List SentDebugUrl :=
  d.reports.map SellerDebugReport.sent ++ d.pings.map DebugPing.sent

/-- `clear_debug_report_urls` on the winning score. -/
def withoutDebugReportUrls (adScore : Option (AdScore ℚ)) : Option (AdScore ℚ) :=
  some { adScore.getD .unset with debugReportUrls := none }

/-- `PerformDebugReporting`, with `ad_scores_` and the winning score of the response. -/
def performDebugReporting (adScores : FlatHashMap String (AdScore ℚ))
    (adScore : Option (AdScore ℚ)) (winnerId : String) : DebugReporting :=
  if r.auctionScope = .serverTopLevelSeller then
    { adScore := withoutDebugReportUrls adScore }
  else
    let attested := env.attestDebugUrls adScore
    if (attested.bind AdScore.debugReportUrls).isNone then
      { adScore := attested }
    else
      let winner : WinningAd := ⟨winnerId, attested.getD .unset⟩
      let ads := env.ord.entries adScores
      if r.rawRequest.fdoFlags.enableSampledDebugReporting then
        { adScore := withoutDebugReportUrls attested
          reports := r.performSampledDebugReporting env signals winner ads }
      else
        let done := r.performUnsampledDebugReporting env signals winner ads
        { adScore := withoutDebugReportUrls attested, reports := done.1, pings := done.2 }

/-- The switch that `Execute` computes. -/
def enableDebugReporting : Bool :=
  r.enableSellerDebugUrlGeneration && r.rawRequest.enableDebugReporting &&
    !(r.rawRequest.fdoFlags.enableSampledDebugReporting &&
      r.rawRequest.fdoFlags.inCooldownOrLockout)

variable (lib : Library) (ch : Choices) (responses : List RomaResponse)

/-- The debug reporting of `ScoreAdsCallback`; `none` when the callback aborts before. -/
def debugReporting : Option DebugReporting := do
  let served ← r.scoreAdsCallback lib ch responses
  let found := r.findWinningAd lib ch (r.collectValidRomaResponses lib responses)
  if r.enableDebugReporting then
    return r.performDebugReporting env (r.postAuctionSignals env.ord env.memory served.adScore)
      found.adScores served.adScore (served.reportingId.getD "")
  else
    return { adScore := served.adScore }

end ScoreAdsReactor

end BiddingAuction

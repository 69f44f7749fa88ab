import BiddingAuction.Common.Reporting
import BiddingAuction.SelectAd.Reactor

/-!
# Debug reporting in `SelectAdReactor`

The debug URLs of the buyers come with their bids, sampled already; those of the
seller come from the auction as finished reports. They are put into the response
under the ad tech they belong to.
-/

namespace BiddingAuction

/-- `GeneratePostAuctionSignals`, called with or without a winner. -/
def PostAuctionSignals.ofHighScore (ord : HashOrder) (highScore : Option (AdScore ℚ))
    (sellerCurrency : String) : PostAuctionSignals :=
  match highScore with
  | some winningAdScore => generate ord winningAdScore sellerCurrency
  | none =>
    { winningBid := 0
      winningBidInSellerCurrency := 0
      sellerCurrency := sellerCurrency
      highestScoringOtherBid := 0
      hasHighestScoringOtherBid := false }

namespace AdWithBid

variable {F : Type} (ad : AdWithBid F)

/-- `debug_report_urls().auction_debug_win_url()`. -/
def auctionDebugWinUrl : String :=
  (ad.debugReportUrls.map DebugReportUrls.auctionDebugWinUrl).getD ""

/-- `debug_report_urls().auction_debug_loss_url()`. -/
def auctionDebugLossUrl : String :=
  (ad.debugReportUrls.map DebugReportUrls.auctionDebugLossUrl).getD ""

end AdWithBid

namespace SelectAdReactor

variable (r : SelectAdReactor) (strings : StringsLibrary) (signals : PostAuctionSignals)

/-- The report made of a debug URL, under the placeholder data if there is any. -/
def buyerDebugReport (debugUrl : String) (isWinReport isComponentWin : Bool)
    (placeholderData : Option DebugReportingPlaceholder) : DebugReport where
  url := match placeholderData with
    | some data =>
      createDebugReportingUrlForInterestGroup strings debugUrl data (isWinReport || isComponentWin)
    | none => debugUrl
  isSellerReport := false
  isWinReport := isWinReport
  isComponentWin := isComponentWin

/-- `AddBuyerDebugReportToResponse`, with the report made. -/
def addBuyerDebugReportToResponse (m : AdtechOriginDebugUrlsMap) (adtechOrigin : String)
    (report : DebugReport) : AdtechOriginDebugUrlsMap :=
  m.insert adtechOrigin { reports := ((m.lookup adtechOrigin).getD {}).reports ++ [report] }

/-- The bid is of the interest group the signals name as the winner's. -/
def isWinningIg (igOwner : String) (ad : AdWithBid ℚ) : Bool :=
  igOwner = signals.winningIgOwner && ad.interestGroupName = signals.winningIgName

/-! ## Sampled, with one seller -/

/-- The loop over the bids of a buyer in `PerformSampledDebugReporting`, with what asks
for a cooldown so far. -/
def sampleBuyerBids (igOwner : String) :
    List (AdWithBid ℚ) → Bool → Bool → AdtechOriginDebugUrlsMap → AdtechOriginDebugUrlsMap
  | [], putBuyerInCooldownForDebugWin, putBuyerInCooldownForDebugLoss, m =>
    if putBuyerInCooldownForDebugWin then
      addBuyerDebugReportToResponse m igOwner (buyerDebugReport strings "" true false none)
    else if putBuyerInCooldownForDebugLoss then
      addBuyerDebugReportToResponse m igOwner (buyerDebugReport strings "" false false none)
    else
      m
  | ad :: rest, putBuyerInCooldownForDebugWin, putBuyerInCooldownForDebugLoss, m =>
    let isWinning := isWinningIg signals igOwner ad
    let debugUrl := if isWinning then ad.auctionDebugWinUrl else ad.auctionDebugLossUrl
    if isWinning && ad.debugWinUrlFailedSampling then
      sampleBuyerBids igOwner rest true putBuyerInCooldownForDebugLoss m
    else if !isWinning && ad.debugLossUrlFailedSampling then
      sampleBuyerBids igOwner rest putBuyerInCooldownForDebugWin true m
    else if debugUrl = "" then
      sampleBuyerBids igOwner rest putBuyerInCooldownForDebugWin putBuyerInCooldownForDebugLoss m
    else
      addBuyerDebugReportToResponse m igOwner (buyerDebugReport strings debugUrl isWinning false
        (some (getPlaceholderDataForInterestGroup igOwner ad.interestGroupName signals)))

/-! ## Sampled, in a component auction -/

structure BuyerSamplingFlags where
  winUrlChecked : Bool := false
  lossUrlSelected : Bool := false
  putBuyerInCooldownForConfirmedLoss : Bool := false

def BuyerSamplingFlags.all (flags : BuyerSamplingFlags) : Bool :=
  flags.winUrlChecked && flags.lossUrlSelected && flags.putBuyerInCooldownForConfirmedLoss

def handleSampledDebugWinReportForComponentAuctionWinner (winningAd : AdWithBid ℚ)
    (m : AdtechOriginDebugUrlsMap) : AdtechOriginDebugUrlsMap :=
  let igOwner := signals.winningIgOwner
  if winningAd.auctionDebugWinUrl ≠ "" then
    addBuyerDebugReportToResponse m igOwner
      (buyerDebugReport strings winningAd.auctionDebugWinUrl true true
        (some (getPlaceholderDataForInterestGroup igOwner signals.winningIgName signals)))
  else if winningAd.debugWinUrlFailedSampling then
    addBuyerDebugReportToResponse m igOwner (buyerDebugReport strings "" true true none)
  else
    m

def handleSampledDebugLossReportForComponentAuctionAd (ad : AdWithBid ℚ) (igOwner : String)
    (flags : BuyerSamplingFlags) (m : AdtechOriginDebugUrlsMap) :
    BuyerSamplingFlags × AdtechOriginDebugUrlsMap :=
  let isWinning := isWinningIg signals igOwner ad
  if !ad.debugLossUrlFailedSampling && ad.auctionDebugLossUrl = "" then (flags, m)
  else if !flags.lossUrlSelected && ad.auctionDebugLossUrl ≠ "" then
    ({ flags with lossUrlSelected := true },
      addBuyerDebugReportToResponse m igOwner
        (buyerDebugReport strings ad.auctionDebugLossUrl false isWinning
          (some (getPlaceholderDataForInterestGroup igOwner ad.interestGroupName signals))))
  else if isWinning then
    (flags, addBuyerDebugReportToResponse m igOwner (buyerDebugReport strings "" false true none))
  else
    ({ flags with putBuyerInCooldownForConfirmedLoss := true }, m)

def sampleComponentAuctionBid (igOwner : String)
    (s : BuyerSamplingFlags × AdtechOriginDebugUrlsMap) (ad : AdWithBid ℚ) :
    BuyerSamplingFlags × AdtechOriginDebugUrlsMap :=
  if s.1.all then s
  else if isWinningIg signals igOwner ad then
    handleSampledDebugLossReportForComponentAuctionAd strings signals ad igOwner
      { s.1 with winUrlChecked := true }
      (handleSampledDebugWinReportForComponentAuctionWinner strings signals ad s.2)
  else
    handleSampledDebugLossReportForComponentAuctionAd strings signals ad igOwner s.1 s.2

/-- The loop over the bids of a buyer in `PerformSampledDebugReportingForComponentAuction`. -/
def sampleComponentAuctionBuyerBids (igOwner : String) (bids : List (AdWithBid ℚ))
    (m : AdtechOriginDebugUrlsMap) : AdtechOriginDebugUrlsMap :=
  let s := bids.foldl (sampleComponentAuctionBid strings signals igOwner) ({}, m)
  if s.1.putBuyerInCooldownForConfirmedLoss then
    addBuyerDebugReportToResponse s.2 igOwner (buyerDebugReport strings "" false false none)
  else
    s.2

def sampleBuyer (m : AdtechOriginDebugUrlsMap) (buyer : String × List (AdWithBid ℚ)) :
    AdtechOriginDebugUrlsMap :=
  if isComponentAuction r.auctionScope then
    sampleComponentAuctionBuyerBids strings signals buyer.1 buyer.2 m
  else
    sampleBuyerBids strings signals buyer.1 buyer.2 false false m

def performSampledDebugReporting (ord : HashOrder) : AdtechOriginDebugUrlsMap :=
  (ord.entries r.sharedBuyerBidsMap).foldl (r.sampleBuyer strings signals) ∅

/-! ## Unsampled -/

def performUnsampledDebugReportingForComponentAuctionWinner (winningAd : AdWithBid ℚ)
    (m : AdtechOriginDebugUrlsMap) : AdtechOriginDebugUrlsMap :=
  let igOwner := signals.winningIgOwner
  let add (debugUrl : String) (isWinReport : Bool) (m : AdtechOriginDebugUrlsMap) :=
    if debugUrl = "" then m
    else addBuyerDebugReportToResponse m igOwner (buyerDebugReport strings debugUrl isWinReport true
      (some (getPlaceholderDataForInterestGroup igOwner winningAd.interestGroupName signals)))
  add winningAd.auctionDebugLossUrl false (add winningAd.auctionDebugWinUrl true m)

/-- One turn of the loops of `PerformUnsampledDebugReporting`: the reports in the response
and the URLs that are pinged. -/
def reportBidUnsampled (igOwner : String) (s : AdtechOriginDebugUrlsMap × List String)
    (ad : AdWithBid ℚ) : AdtechOriginDebugUrlsMap × List String :=
  let isWinning := isWinningIg signals igOwner ad
  let debugUrl := if isWinning then ad.auctionDebugWinUrl else ad.auctionDebugLossUrl
  if ad.debugReportUrls.isNone then s
  else if isWinning && isComponentAuction r.auctionScope then
    (performUnsampledDebugReportingForComponentAuctionWinner strings signals ad s.1, s.2)
  else if debugUrl = "" then s
  else
    (s.1, s.2 ++ [createDebugReportingUrlForInterestGroup strings debugUrl
      (getPlaceholderDataForInterestGroup igOwner ad.interestGroupName signals) isWinning])

def performUnsampledDebugReporting (ord : HashOrder) : AdtechOriginDebugUrlsMap × List String :=
  (ord.entries r.sharedBuyerBidsMap).foldl
    (fun s buyer => buyer.2.foldl (r.reportBidUnsampled strings signals buyer.1) s) (∅, [])

/-! ## The whole -/

def addSellerDebugReport (s : DebugReportsInResponseCounts × List DebugReport)
    (debugReport : DebugReport) : DebugReportsInResponseCounts × List DebugReport :=
  if s.1.canAddDebugReport debugReport then
    (s.1.decrementCountsForDebugReport debugReport, s.2 ++ [debugReport])
  else
    s

def mergeSellerDebugReportsToResponse (sellerDebugReports : Option DebugReports)
    (enableSampledDebugReporting : Bool) (m : AdtechOriginDebugUrlsMap) :
    AdtechOriginDebugUrlsMap :=
  let fromSeller := (sellerDebugReports.getD {}).reports
  if fromSeller.isEmpty then m
  else
    let reports := ((m.lookup r.seller).getD {}).reports
    let counts := reports.foldl DebugReportsInResponseCounts.decrementCountsForDebugReport
      (.create enableSampledDebugReporting (isComponentAuction r.auctionScope))
    m.insert r.seller { reports := (fromSeller.foldl addSellerDebugReport (counts, reports)).2 }

/-- `PerformDebugReporting`: the debug reports of the response, by ad tech, and the
URLs that are pinged. -/
def performDebugReporting (ord : HashOrder) (sellerDebugReports : Option DebugReports)
    (highScore : Option (AdScore ℚ)) : AdtechOriginDebugUrlsMap × List String :=
  if r.enableDebugReporting then
    let signals := PostAuctionSignals.ofHighScore ord highScore r.sellerCurrency
    let done :=
      if r.enableSampledDebugReporting then (r.performSampledDebugReporting strings signals ord, [])
      else r.performUnsampledDebugReporting strings signals ord
    (r.mergeSellerDebugReportsToResponse sellerDebugReports r.enableSampledDebugReporting done.1,
      done.2)
  else
    (∅, [])

end SelectAdReactor

end BiddingAuction

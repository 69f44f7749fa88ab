import BiddingAuction.Web.Messages

/-!
# Signals of a finished auction and debug URLs

`PostAuctionSignals` says what an auction came to; a debug URL gets its
placeholders replaced by what the signals say about an interest group. How
numbers are formatted and strings replaced is the library's.
-/

namespace BiddingAuction

/-- `absl::StrFormat` with `"%.2f"` and `absl::StrReplaceAll`. -/
structure StringsLibrary where
  strFormat : ℚ → String
  strReplaceAll : String → List (String × String) → String

/-! ## Post-auction signals -/

/-- What memory holds that nothing was written to. -/
structure Memory where
  number : ℚ
  flag : Bool

structure PostAuctionSignals where
  winningIgName : String := ""
  winningIgOwner : String := ""
  winningBid : ℚ
  winningBidInSellerCurrency : ℚ
  sellerCurrency : String := ""
  highestScoringOtherBid : ℚ
  highestScoringOtherBidIgOwner : String := ""
  hasHighestScoringOtherBid : Bool
  rejectionReasonMap : FlatHashMap String (FlatHashMap String SellerRejectionReason) := ∅

namespace PostAuctionSignals

/-- The signals before they are set: empty strings, and numbers that are whatever
the memory holds. -/
def uninitialized (memory : Memory) : PostAuctionSignals where
  winningBid := memory.number
  winningBidInSellerCurrency := memory.number
  highestScoringOtherBid := memory.number
  hasHighestScoringOtherBid := memory.flag

/-- One turn of the loop that groups the rejection reasons: the first reason of an
interest group stays. -/
def addRejectionReason (m : FlatHashMap String (FlatHashMap String SellerRejectionReason))
    (reason : AdRejectionReason) : FlatHashMap String (FlatHashMap String SellerRejectionReason) :=
  m.insert reason.interestGroupOwner
    (FlatHashMap.emplace ((m.lookup reason.interestGroupOwner).getD ∅)
      reason.interestGroupName reason.rejectionReason)

/-- `GeneratePostAuctionSignals`; the map of other bids is read where its iteration starts. -/
def generate (ord : HashOrder) (winningAdScore : AdScore ℚ) (sellerCurrency : String) :
    PostAuctionSignals :=
  let other := (ord.entries winningAdScore.igOwnerHighestScoringOtherBidsMap).head?.bind
    fun entry => entry.2.head?.map fun bid => (entry.1, bid)
  { winningIgName := winningAdScore.interestGroupName
    winningIgOwner := winningAdScore.interestGroupOwner
    winningBid := winningAdScore.buyerBid
    winningBidInSellerCurrency := winningAdScore.incomingBidInSellerCurrency
    sellerCurrency := sellerCurrency
    highestScoringOtherBid := (other.map Prod.snd).getD 0
    highestScoringOtherBidIgOwner := (other.map Prod.fst).getD ""
    hasHighestScoringOtherBid := other.isSome
    rejectionReasonMap := winningAdScore.adRejectionReasons.foldl addRejectionReason ∅ }

/-- `GeneratePostAuctionSignalsForTopLevelSeller`. -/
def generateForTopLevelSeller (winningAdScore : AdScore ℚ) : PostAuctionSignals where
  winningIgName := winningAdScore.interestGroupName
  winningIgOwner := winningAdScore.interestGroupOwner
  winningBid := winningAdScore.buyerBid
  winningBidInSellerCurrency := 0
  sellerCurrency := "???"
  highestScoringOtherBid := 0
  hasHighestScoringOtherBid := false

def rejectionReason? (signals : PostAuctionSignals) (owner name : String) :
    Option SellerRejectionReason :=
  (signals.rejectionReasonMap.lookup owner).bind fun byName => byName.lookup name

theorem mem_rejectionReasonMap_generate {ord : HashOrder} {winningAdScore : AdScore ℚ}
    {sellerCurrency owner : String} :
    owner ∈ (generate ord winningAdScore sellerCurrency).rejectionReasonMap ↔
      ∃ reason ∈ winningAdScore.adRejectionReasons, reason.interestGroupOwner = owner := by
  show owner ∈ winningAdScore.adRejectionReasons.foldl addRejectionReason ∅ ↔ _
  induction winningAdScore.adRejectionReasons using List.reverseRecOn with
  | nil => simp [AList.notMem_empty]
  | append_singleton reasons reason ih =>
    rw [List.foldl_append, List.foldl_cons, List.foldl_nil, addRejectionReason, AList.mem_insert,
      ih]
    simp [or_comm, or_and_right, exists_or, eq_comm]

end PostAuctionSignals

/-! ## Debug URLs -/

structure DebugReportingPlaceholder where
  winningBid : ℚ
  winningBidCurrency : String
  madeWinningBid : Bool
  highestScoringOtherBid : ℚ
  highestScoringOtherBidCurrency : String
  madeHighestScoringOtherBid : Bool
  rejectionReason : SellerRejectionReason
deriving DecidableEq

def toSellerRejectionReasonString : SellerRejectionReason → String
  | .invalidBid => "invalid-bid"
  | .bidBelowAuctionFloor => "bid-below-auction-floor"
  | .pendingApprovalByExchange => "pending-approval-by-exchange"
  | .disapprovedByExchange => "disapproved-by-exchange"
  | .blockedByPublisher => "blocked-by-publisher"
  | .languageExclusions => "language-exclusions"
  | .categoryExclusions => "category-exclusions"
  | .bidFromGenerateBidFailedCurrencyCheck => "bid-from-gen-bid-failed-currency-check"
  | .bidFromScoreAdFailedCurrencyCheck => "bid-from-score-ad-failed-currency-check"
  | .didNotMeetTheKAnonymityThreshold => "did-not-meet-the-kanonymity-threshold"
  | .sellerRejectionReasonNotAvailable => "not-available"

def getPlaceholderDataForInterestGroup (interestGroupOwner interestGroupName : String)
    (signals : PostAuctionSignals) : DebugReportingPlaceholder :=
  let inSellerCurrency := signals.sellerCurrency != ""
  let bothCurrencyCodes := if inSellerCurrency then signals.sellerCurrency else "???"
  { winningBid :=
      if inSellerCurrency then signals.winningBidInSellerCurrency else signals.winningBid
    winningBidCurrency := bothCurrencyCodes
    madeWinningBid := interestGroupOwner = signals.winningIgOwner
    highestScoringOtherBid := signals.highestScoringOtherBid
    highestScoringOtherBidCurrency := bothCurrencyCodes
    madeHighestScoringOtherBid := signals.hasHighestScoringOtherBid &&
      interestGroupOwner = signals.highestScoringOtherBidIgOwner
    rejectionReason := (signals.rejectionReason? interestGroupOwner interestGroupName).getD
      .sellerRejectionReasonNotAvailable }

/-- `CreateDebugReportingUrlForInterestGroup`: the winner's group is told about the
second bid, under placeholders that are listed twice. -/
def createDebugReportingUrlForInterestGroup (strings : StringsLibrary) (debugUrl : String)
    (data : DebugReportingPlaceholder) (isWinningInterestGroup : Bool) : String :=
  strings.strReplaceAll debugUrl
    ([("$\x7bwinningBid\x7d", strings.strFormat data.winningBid),
      ("$\x7bwinningBidCurrency\x7d", data.winningBidCurrency),
      ("$\x7bmadeWinningBid\x7d", if data.madeWinningBid then "true" else "false"),
      ("$\x7brejectReason\x7d", toSellerRejectionReasonString data.rejectionReason),
      ("$\x7bhighestScoringOtherBid\x7d", "0.00"),
      ("$\x7bhighestScoringOtherBidCurrency\x7d", data.highestScoringOtherBidCurrency),
      ("$\x7bmadeHighestScoringOtherBid\x7d", "false")] ++
    if isWinningInterestGroup then
      [("$\x7bhighestScoringOtherBid\x7d", strings.strFormat data.highestScoringOtherBid),
        ("$\x7bmadeHighestScoringOtherBid\x7d",
          if data.madeHighestScoringOtherBid then "true" else "false")]
    else
      [])

/-! ## Debug reports of the response -/

structure DebugReportsInResponseCounts where
  allowedWinReportCount : ℤ := 0
  allowedLossReportCount : ℤ := 0
  allowedReportCount : ℤ := 0
deriving DecidableEq, Repr

namespace DebugReportsInResponseCounts

def create (enableSampledReporting isComponentAuction : Bool) : DebugReportsInResponseCounts :=
  if enableSampledReporting then
    { allowedWinReportCount := 1
      allowedLossReportCount := 1
      allowedReportCount := if isComponentAuction then 2 else 1 }
  else
    { allowedWinReportCount := 2, allowedLossReportCount := 2, allowedReportCount := 4 }

def canAddDebugReport (counts : DebugReportsInResponseCounts) (debugReport : DebugReport) : Bool :=
  if debugReport.url = "" then true
  else if counts.allowedReportCount ≤ 0 then false
  else if debugReport.isWinReport then counts.allowedWinReportCount > 0
  else counts.allowedLossReportCount > 0

def decrementCountsForDebugReport (counts : DebugReportsInResponseCounts)
    (debugReport : DebugReport) : DebugReportsInResponseCounts :=
  if debugReport.url = "" then counts
  else if debugReport.isWinReport then
    { counts with
      allowedReportCount := counts.allowedReportCount - 1
      allowedWinReportCount := counts.allowedWinReportCount - 1 }
  else
    { counts with
      allowedReportCount := counts.allowedReportCount - 1
      allowedLossReportCount := counts.allowedLossReportCount - 1 }

end DebugReportsInResponseCounts

end BiddingAuction

import BiddingAuction.Bidding.ByobReactor

/-!
# `GenerateBidsReactor`

The bids of the script come back as texts of JSON, all interest groups at once. A bid that is
valid is stamped with the name of its interest group and with the data version of the request.
-/

namespace BiddingAuction

open Byob (DebugUrlTotals Setup Finish)

/-- Why `IsValidProtectedAudienceBid` drops a bid. -/
inductive DropReason where
  | zeroBid
  | componentNotAllowed
deriving DecidableEq, Repr

/-- `IsValidProtectedAudienceBid`, with the reason. -/
def Byob.Setup.dropReason {F : Type} (u : Setup F) (bid : Byob.AdWithBid F) : Option DropReason :=
  if u.isZero bid.bid then some .zeroBid
  else if u.auctionScope = .deviceComponentMultiSeller && !bid.allowComponentAuction then
    some .componentNotAllowed
  else none

theorem Byob.Setup.isValid_eq_isNone {F : Type} (u : Setup F) (bid : Byob.AdWithBid F) :
    u.isValidProtectedAudienceBid bid = (u.dropReason bid).isNone := by
  unfold isValidProtectedAudienceBid dropReason
  cases u.isZero bid.bid with
  | true => rfl
  | false =>
    by_cases h : (u.auctionScope = .deviceComponentMultiSeller && !bid.allowComponentAuction) = true
    · rw [if_neg Bool.false_ne_true, if_pos h, h]
      rfl
    · rw [if_neg Bool.false_ne_true, if_neg h, Bool.eq_false_of_not_eq_true h]
      rfl

namespace ScriptBidding

variable {F : Type}

/-- What the dispatcher returns for an interest group, by its name: the messages that the texts of
`ParseAndGetResponseJsonArray` are converted to, each if it can be, and if there is an array. -/
structure DispatchResponse (F : Type) where
  id : String
  resp : Option (List (Option (Byob.AdWithBid F)))

/-! ## One bid -/

/-- `checkMultiBidLimit`, of the code around the script: too many bids are all dropped. -/
def checkMultiBidLimit {α : Type} (u : Setup F) (generateBidResponse : List α) : List α :=
  if u.rawRequest.multiBidLimit.toInt < generateBidResponse.length then []
  else generateBidResponse

def escapeAd (bid : Byob.AdWithBid F) : Byob.AdWithBid F :=
  { bid with
    ad := match bid.ad with
      | some (.string value) => some (.string ("\"" ++ value ++ "\""))
      | ad => ad }

/-- One turn of the loop of `ProcessPAggContributions`: a contribution without an event type is
removed, and one of a type of which there are enough. -/
def keepContribution (perAdtechPaapiContributionsLimit : ℤ)
    (kept : List (PrivateAggregateContribution F)) (contribution : PrivateAggregateContribution F) :
    List (PrivateAggregateContribution F) :=
  if contribution.event.eventType = .unspecified ∨ perAdtechPaapiContributionsLimit ≤
      kept.countP fun before => before.event.eventType = contribution.event.eventType then kept
  else kept ++ [contribution]

def processPAggContributions (bid : Byob.AdWithBid F) (perAdtechPaapiContributionsLimit : ℤ) :
    Byob.AdWithBid F :=
  { bid with
    privateAggregationContributions := bid.privateAggregationContributions.foldl
      (keepContribution perAdtechPaapiContributionsLimit) [] }

/-- What is done so far: why each bid that was received is dropped, if it is, and the bids of the
response. -/
structure Callback (F : Type) where
  verdicts : List (Option DropReason) := []
  failedToBidCount : ℕ := 0
  totalDebugUrlsCount : ℕ := 0
  totals : DebugUrlTotals := {}
  bids : List (Byob.AdWithBid F) := []

section Callback

variable (u : Setup F) (perAdtechPaapiContributionsLimit : ℤ)

/-- One turn of the loop through the bids of an interest group. -/
def processBid (interestGroupName : String) (c : Callback F) (bid : Option (Byob.AdWithBid F)) :
    Callback F :=
  match bid with
  | none => c
  | some bid =>
    let bid := escapeAd bid
    match u.dropReason bid with
    | some reason => { c with verdicts := c.verdicts ++ [some reason] }
    | none =>
      let validated := u.debugUrlsValidationConfig.validateBuyerDebugUrls bid c.totals
      let bid := processPAggContributions validated.2.1 perAdtechPaapiContributionsLimit
      { c with
        verdicts := c.verdicts ++ [none]
        totalDebugUrlsCount := c.totalDebugUrlsCount + validated.1
        totals := validated.2.2
        bids := c.bids ++ [{ bid with
          dataVersion := u.rawRequest.dataVersion.toInt32
          interestGroupName := interestGroupName }] }

def processResult (c : Callback F) (result : Except String (DispatchResponse F)) : Callback F :=
  match result with
  | .error _ => { c with failedToBidCount := c.failedToBidCount + 1 }
  | .ok response =>
    match response.resp with
    | none => { c with failedToBidCount := c.failedToBidCount + 1 }
    | some bids =>
      let processed := bids.foldl (processBid u perAdtechPaapiContributionsLimit response.id) c
      if processed.verdicts.length = c.verdicts.length then
        { processed with failedToBidCount := processed.failedToBidCount + 1 }
      else processed

def generateBidsCallback (output : List (Except String (DispatchResponse F))) : Callback F :=
  output.foldl (processResult u perAdtechPaapiContributionsLimit) {}

end Callback

end ScriptBidding

end BiddingAuction

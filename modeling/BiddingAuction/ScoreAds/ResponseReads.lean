import BiddingAuction.Common.Accessors
import BiddingAuction.Foundation.FirstFailure
import BiddingAuction.ScoreAds.Scoring
import BiddingAuction.ScoreAds.TrustedSignals

/-!
# Values of another type in responses and signals

What `scoreAd` returns and what the trusted scoring signals are is JSON of any shape. The
functions of scoring are written here with the accessors they use, so that an accessor applied
to a value of another type shows. Where none is, they return what is known of them.
-/

namespace BiddingAuction

open Foundation

/-! ## Scoring with accessors -/

/-- `MayVlogAdTechCodeLogs`, of one type of logs. -/
def vlogAdTechCodeLogs (document : Json) (logType : String) : Except ReadError (List String) := do
  return (← document.readStrings logType).map fun log => logType ++ ": " ++ log

/-- `MayVlogAdTechCodeLogs`: the messages that are logged. -/
def mayVlogAdTechCodeLogs (enableAdTechCodeLogging : Bool) (document : Json) :
    Except ReadError (List String) :=
  if enableAdTechCodeLogging then do
    let logs ← vlogAdTechCodeLogs document "logs"
    let warnings ← vlogAdTechCodeLogs document "warnings"
    let errors ← vlogAdTechCodeLogs document "errors"
    return logs ++ warnings ++ errors
  else
    .ok []

namespace Reading

def parseAndGetScoreAdResponseJson (enableAdTechCodeLogging : Bool)
    (scoreAdsWrapperResponse : Json) : Except ReadError Json := do
  let _ ← mayVlogAdTechCodeLogs enableAdTechCodeLogging scoreAdsWrapperResponse
  match ← scoreAdsWrapperResponse.member? "response" with
  | some (.object members) => return .object members
  | some (.number value) => return .number value
  | some (.double value) => return .double value
  | _ => return .null

def parseAdRejectionReason (scoreAdResp : Json) (interestGroupOwner interestGroupName : String) :
    Except ReadError (Option AdRejectionReason) := do
  match ← scoreAdResp.member? "rejectReason" with
  | some (.string rejectionReason) => return some ⟨interestGroupOwner, interestGroupName,
      toSellerRejectionReason (cString rejectionReason)⟩
  | _ => return none

def getDebugUrlIfInLimit (urlType : String) (debugReportingUrls : Json)
    (maxAllowedSizeDebugUrlChars : ℤ) : Except ReadError String := do
  match ← debugReportingUrls.member? urlType with
  | some (.string debugUrl) =>
    return if (cString debugUrl).utf8ByteSize ≤ maxAllowedSizeDebugUrlChars then cString debugUrl
      else ""
  | _ => return ""

/-- The number under a name, as a `float`. -/
def floatMember (lib : Library) (scoreAdResp : Json) (name : String) :
    Except ReadError (Option ℚ) := do
  return ((← scoreAdResp.member? name).bind Json.number?).map lib.toFloat

def adMetadataForComponentAuction (lib : Library) (scoreAdResp : Json) :
    Except ReadError (Option String) := do
  match ← scoreAdResp.member? "ad" with
  | some (.string s) => return some ("\"" ++ cString s ++ "\"")
  | some (.object members) => return lib.serializeJsonDoc (.object members)
  | _ => return some ""

def addComponentAuctionFields (lib : Library) (scoreAdResp : Json) (adScore : AdScore ℚ) :
    Except ReadError (Option (AdScore ℚ)) := do
  let allowComponentAuction ← scoreAdResp.member? "allowComponentAuction"
  match ← adMetadataForComponentAuction lib scoreAdResp with
  | none => return none
  | some adMetadata =>
    let bid ← floatMember lib scoreAdResp "bid"
    let bidCurrency ← scoreAdResp.member? "bidCurrency"
    return some { adScore with
      allowComponentAuction := (allowComponentAuction.bind Json.bool?).getD false
      adMetadata := adMetadata
      bid := bid.getD 0
      bidCurrency := ((bidCurrency.bind Json.string?).map cString).getD "" }

def addDebugReportUrls (scoreAdResp : Json) (maxAllowedSizeDebugUrlChars : ℤ)
    (adScore : AdScore ℚ) : Except ReadError (AdScore ℚ) := do
  match ← scoreAdResp.member? "debugReportUrls" with
  | none => return adScore
  | some debugReportingUrls =>
    let winUrl ← getDebugUrlIfInLimit "auctionDebugWinUrl" debugReportingUrls
      maxAllowedSizeDebugUrlChars
    let lossUrl ← getDebugUrlIfInLimit "auctionDebugLossUrl" debugReportingUrls
      maxAllowedSizeDebugUrlChars
    return { adScore with
      debugReportUrls := some { auctionDebugWinUrl := winUrl, auctionDebugLossUrl := lossUrl } }

def scoreAdResponseJsonToProto (lib : Library) (scoreAdResp : Json)
    (maxAllowedSizeDebugUrlChars : ℤ) (deviceComponentAuction : Bool) :
    Except ReadError (Option (AdScore ℚ)) :=
  match scoreAdResp with
  | .number value | .double value => .ok (some (.ofDesirability (lib.toFloat value)))
  | _ => do
    let desirability ← floatMember lib scoreAdResp "desirability"
    let incomingBid ← floatMember lib scoreAdResp "incomingBidInSellerCurrency"
    let adScore := { AdScore.ofDesirability (desirability.getD 0) with
      incomingBidInSellerCurrency := incomingBid.getD 0 }
    let withFields ← if deviceComponentAuction then
        addComponentAuctionFields lib scoreAdResp adScore
      else
        .ok (some adScore)
    match withFields with
    | none => return none
    | some adScore =>
      return some (← addDebugReportUrls scoreAdResp maxAllowedSizeDebugUrlChars adScore)

variable (r : ScoreAdsReactor) (lib : Library) (enablePrivateAggregateReporting : Bool)

def scoredAd (response : RomaResponse) : Except ReadError (Option ScoredAdData) :=
  match response with
  | .error _ => .ok none
  | .ok response =>
    match r.findScoredAdType response.id, lib.parseJsonString response.resp with
    | some ad, some scoreAdsWrapperResponse => do
      let responseJson ← parseAndGetScoreAdResponseJson r.enableAdtechCodeLogging
        scoreAdsWrapperResponse
      match ← scoreAdResponseJsonToProto lib responseJson r.maxAllowedSizeDebugUrlChars
          (isComponentAuction r.auctionScope) with
      | none => return none
      | some adScore =>
        if enablePrivateAggregateReporting then
          let _ ← scoreAdsWrapperResponse.member? "paapiContributions"
        let data := getScoringDataFromAd ad
        return some {
          adScore := populateAdScoreData (r.mayAddKAnonJoinCandidate response.id adScore) data
          responseJson := responseJson
          id := response.id
          kAnonStatus := !r.enableEnforceKanon || data.kAnonStatus }
    | _, _ => .ok none

def collectValidRomaResponses (r : ScoreAdsReactor) (lib : Library)
    (enablePrivateAggregateReporting : Bool) :
    List RomaResponse → Except ReadError (List ScoredAdData)
  | [] => .ok []
  | response :: rest => do
    match ← scoredAd r lib enablePrivateAggregateReporting response with
    | none => collectValidRomaResponses r lib enablePrivateAggregateReporting rest
    | some ad =>
      return ad :: (← collectValidRomaResponses (r.moveKAnonJoinCandidate ad.id) lib
        enablePrivateAggregateReporting rest)

/-- `GetAdRejectionReason`, which parses the seller's reason first. -/
def getAdRejectionReason (responseJson : Json) (adScore : AdScore ℚ) :
    Except ReadError (Option AdRejectionReason) := do
  let adRejectionReason ← if responseJson.isNumber then .ok none
    else parseAdRejectionReason responseJson adScore.interestGroupOwner adScore.interestGroupName
  if ScoreAdsReactor.isBidCurrencyMismatched r.auctionScope r.rawRequest.sellerCurrency adScore.bid
      adScore.bidCurrency then
    return some ⟨adScore.interestGroupOwner, adScore.interestGroupName,
      .bidFromScoreAdFailedCurrencyCheck⟩
  if ScoreAdsReactor.isIncomingBidInSellerCurrencyIllegallyModified lib
      r.rawRequest.sellerCurrency adScore.buyerBidCurrency adScore.incomingBidInSellerCurrency
      adScore.buyerBid then
    return some ⟨adScore.interestGroupOwner, adScore.interestGroupName, .invalidBid⟩
  if adScore.desirability ≤ 0 then
    return some ⟨adScore.interestGroupOwner, adScore.interestGroupName,
      .sellerRejectionReasonNotAvailable⟩
  return adRejectionReason

end Reading

/-! ## Shapes -/

def areLogs (enableAdTechCodeLogging : Bool) (document : Json) : Bool :=
  !enableAdTechCodeLogging ||
    (document.absentOr "logs" Json.areStrings && document.absentOr "warnings" Json.areStrings &&
      document.absentOr "errors" Json.areStrings)

/-- The metadata of the ad is an object that cannot be written. -/
def isUnwritableMetadata (lib : Library) (response : Json) : Bool :=
  match response.findMember "ad" with
  | some (.object members) => (lib.serializeJsonDoc (.object members)).isNone
  | _ => false

/-- A score: a number, or an object whose debug URLs are one too where they are read. -/
def isScore (lib : Library) (deviceComponentAuction : Bool) (response : Json) : Bool :=
  response.isNumber || (response.isObject &&
    ((deviceComponentAuction && isUnwritableMetadata lib response) ||
      response.absentOr "debugReportUrls" Json.isObject))

/-- What `scoreAd` returns in full: an object with a score, and lists of strings if they are
logged. -/
def isScoreAdWrapper (lib : Library) (deviceComponentAuction enableAdTechCodeLogging : Bool)
    (document : Json) : Bool :=
  document.isObject && areLogs enableAdTechCodeLogging document &&
    ((document.findMember "response").map (isScore lib deviceComponentAuction)).getD false

def ScoreAdsReactor.isReadable (r : ScoreAdsReactor) (lib : Library) : RomaResponse → Bool
  | .error _ => true
  | .ok response =>
    match r.findScoredAdType response.id, lib.parseJsonString response.resp with
    | some _, some document =>
      isScoreAdWrapper lib (isComponentAuction r.auctionScope) r.enableAdtechCodeLogging document
    | _, _ => true

/-! ## What is read under a shape -/

def logMessages (enableAdTechCodeLogging : Bool) (document : Json) : List String :=
  if enableAdTechCodeLogging then
    ["logs", "warnings", "errors"].flatMap fun logType =>
      (document.stringsUnder logType).map fun log => logType ++ ": " ++ log
  else []

theorem vlogAdTechCodeLogs_guarded (document : Json) (logType : String) :
    vlogAdTechCodeLogs document logType =
      guarded .asserted (document.isObject && document.absentOr logType Json.areStrings)
        ((document.stringsUnder logType).map fun log => logType ++ ": " ++ log) := by
  unfold vlogAdTechCodeLogs
  rw [Json.readStrings_guarded]
  exact guarded_bind_pure _

theorem mayVlogAdTechCodeLogs_guarded (enableAdTechCodeLogging : Bool) {document : Json}
    (hobject : document.isObject = true) :
    mayVlogAdTechCodeLogs enableAdTechCodeLogging document =
      guarded .asserted (areLogs enableAdTechCodeLogging document)
        (logMessages enableAdTechCodeLogging document) := by
  unfold mayVlogAdTechCodeLogs areLogs logMessages
  cases enableAdTechCodeLogging with
  | false => rfl
  | true =>
    simp only [if_true, vlogAdTechCodeLogs_guarded, hobject, Bool.true_and, Bool.not_true,
      Bool.false_or, List.flatMap_cons, List.flatMap_nil, List.append_nil, Bool.and_assoc]
    refine guarded_bind fun _ => guarded_bind fun _ => ?_
    rw [← List.append_assoc]
    exact guarded_bind_pure _

theorem parseAndGetScoreAdResponseJson_guarded (enableAdTechCodeLogging : Bool)
    (document : Json) :
    Reading.parseAndGetScoreAdResponseJson enableAdTechCodeLogging document =
      guarded .asserted (document.isObject && areLogs enableAdTechCodeLogging document)
        (parseAndGetScoreAdResponseJson document) := by
  unfold Reading.parseAndGetScoreAdResponseJson
  cases hobject : document.isObject with
  | false =>
    -- the first read fails, of the logs or of `response`
    cases enableAdTechCodeLogging with
    | false => rw [Json.member?_guarded, hobject]; rfl
    | true =>
      have hlogs : mayVlogAdTechCodeLogs true document = .error .asserted := by
        simp only [mayVlogAdTechCodeLogs, vlogAdTechCodeLogs_guarded, hobject]
        rfl
      rw [hlogs]
      rfl
  | true =>
    rw [mayVlogAdTechCodeLogs_guarded enableAdTechCodeLogging hobject, Json.member?_guarded,
      hobject, Bool.true_and]
    refine guarded_bind_ok fun _ => ?_
    unfold parseAndGetScoreAdResponseJson
    cases document.findMember "response" with
    | none => rfl
    | some response => cases response <;> rfl

theorem parseAdRejectionReason_guarded (scoreAdResp : Json) (owner name : String) :
    Reading.parseAdRejectionReason scoreAdResp owner name =
      guarded .asserted scoreAdResp.isObject (parseAdRejectionReason scoreAdResp owner name) := by
  unfold Reading.parseAdRejectionReason parseAdRejectionReason
  rw [Json.member?_guarded]
  refine guarded_bind_ok fun _ => ?_
  cases scoreAdResp.findMember "rejectReason" with
  | none => rfl
  | some reason => cases reason <;> rfl

theorem getDebugUrlIfInLimit_guarded (urlType : String) (debugReportingUrls : Json)
    (maxAllowedSizeDebugUrlChars : ℤ) :
    Reading.getDebugUrlIfInLimit urlType debugReportingUrls maxAllowedSizeDebugUrlChars =
      guarded .asserted debugReportingUrls.isObject
        (getDebugUrlIfInLimit urlType debugReportingUrls maxAllowedSizeDebugUrlChars) := by
  unfold Reading.getDebugUrlIfInLimit getDebugUrlIfInLimit
  rw [Json.member?_guarded]
  refine guarded_bind_ok fun _ => ?_
  cases debugReportingUrls.findMember urlType with
  | none => rfl
  | some debugUrl => cases debugUrl <;> rfl

def withDebugReportUrls (response : Json) (maxAllowedSizeDebugUrlChars : ℤ)
    (adScore : AdScore ℚ) : AdScore ℚ :=
  match response.findMember "debugReportUrls" with
  | none => adScore
  | some debugReportingUrls => { adScore with
      debugReportUrls := some
        { auctionDebugWinUrl := getDebugUrlIfInLimit "auctionDebugWinUrl" debugReportingUrls
            maxAllowedSizeDebugUrlChars
          auctionDebugLossUrl := getDebugUrlIfInLimit "auctionDebugLossUrl" debugReportingUrls
            maxAllowedSizeDebugUrlChars } }

theorem addDebugReportUrls_guarded (members : List (String × Json))
    (maxAllowedSizeDebugUrlChars : ℤ) (adScore : AdScore ℚ) :
    Reading.addDebugReportUrls (.object members) maxAllowedSizeDebugUrlChars adScore =
      guarded .asserted ((Json.object members).absentOr "debugReportUrls" Json.isObject)
        (withDebugReportUrls (.object members) maxAllowedSizeDebugUrlChars adScore) := by
  unfold Reading.addDebugReportUrls Json.absentOr withDebugReportUrls
  rw [Json.member?_object]
  cases (Json.object members).findMember "debugReportUrls" with
  | none => rfl
  | some debugReportingUrls =>
    simp only [bind, Except.bind, getDebugUrlIfInLimit_guarded, Option.map_some,
      Option.getD_some]
    cases debugReportingUrls.isObject <;> rfl

theorem addComponentAuctionFields_eq (lib : Library) (members : List (String × Json))
    (adScore : AdScore ℚ) :
    Reading.addComponentAuctionFields lib (.object members) adScore =
      .ok (addComponentAuctionFields lib (.object members) adScore) := by
  have hmetadata : Reading.adMetadataForComponentAuction lib (.object members) =
      .ok (adMetadataForComponentAuction lib (.object members)) := by
    unfold Reading.adMetadataForComponentAuction adMetadataForComponentAuction
    rw [Json.member?_object]
    cases (Json.object members).findMember "ad" with
    | none => rfl
    | some metadata => cases metadata <;> rfl
  unfold Reading.addComponentAuctionFields addComponentAuctionFields
  rw [hmetadata]
  cases adMetadataForComponentAuction lib (.object members) <;> rfl

theorem isNone_addComponentAuctionFields (lib : Library) (response : Json)
    (adScore : AdScore ℚ) :
    (addComponentAuctionFields lib response adScore).isNone =
      isUnwritableMetadata lib response := by
  have hnone : (addComponentAuctionFields lib response adScore).isNone =
      (adMetadataForComponentAuction lib response).isNone := by
    unfold addComponentAuctionFields
    cases adMetadataForComponentAuction lib response <;> rfl
  rw [hnone]
  unfold adMetadataForComponentAuction isUnwritableMetadata
  cases response.findMember "ad" with
  | none => rfl
  | some metadata => cases metadata <;> rfl

theorem readDebugReportUrls_guarded (members : List (String × Json))
    (maxAllowedSizeDebugUrlChars : ℤ) (withFields : Option (AdScore ℚ)) :
    (match withFields with
      | none => return none
      | some adScore => do
        return some (← Reading.addDebugReportUrls (.object members) maxAllowedSizeDebugUrlChars
          adScore)) =
      guarded ReadError.asserted
        (withFields.isNone || (Json.object members).absentOr "debugReportUrls" Json.isObject)
        (withFields.map (withDebugReportUrls (.object members) maxAllowedSizeDebugUrlChars)) := by
  cases withFields with
  | none => rfl
  | some adScore =>
    dsimp only
    rw [addDebugReportUrls_guarded]
    exact guarded_bind_pure _

theorem scoreAdResponseJsonToProto_object (lib : Library) (members : List (String × Json))
    (maxAllowedSizeDebugUrlChars : ℤ) (deviceComponentAuction : Bool) :
    ∃ withFields : Option (AdScore ℚ), withFields.isNone =
        (deviceComponentAuction && isUnwritableMetadata lib (.object members)) ∧
      scoreAdResponseJsonToProto lib (.object members) maxAllowedSizeDebugUrlChars
          deviceComponentAuction =
        withFields.map (withDebugReportUrls (.object members) maxAllowedSizeDebugUrlChars) ∧
      Reading.scoreAdResponseJsonToProto lib (.object members) maxAllowedSizeDebugUrlChars
          deviceComponentAuction =
        guarded .asserted
          (withFields.isNone || (Json.object members).absentOr "debugReportUrls" Json.isObject)
          (withFields.map
            (withDebugReportUrls (.object members) maxAllowedSizeDebugUrlChars)) := by
  have htotal (withFields : Option (AdScore ℚ)) :
      (withFields >>= fun adScore =>
        match (Json.object members).findMember "debugReportUrls" with
        | none => return adScore
        | some debugReportingUrls => return { adScore with
            debugReportUrls := some
              { auctionDebugWinUrl := getDebugUrlIfInLimit "auctionDebugWinUrl" debugReportingUrls
                  maxAllowedSizeDebugUrlChars
                auctionDebugLossUrl := getDebugUrlIfInLimit "auctionDebugLossUrl"
                  debugReportingUrls maxAllowedSizeDebugUrlChars } }) =
        withFields.map (withDebugReportUrls (.object members) maxAllowedSizeDebugUrlChars) := by
    unfold withDebugReportUrls
    cases withFields with
    | none => rfl
    | some adScore => cases (Json.object members).findMember "debugReportUrls" <;> rfl
  -- the score before its debug URLs, which a component auction may fail to make
  cases deviceComponentAuction with
  | false => exact ⟨some _, rfl, htotal _, readDebugReportUrls_guarded _ _ (some _)⟩
  | true =>
    refine ⟨addComponentAuctionFields lib (.object members) _,
      isNone_addComponentAuctionFields lib _ _, htotal _, ?_⟩
    unfold Reading.scoreAdResponseJsonToProto
    simp only [if_true, addComponentAuctionFields_eq]
    exact readDebugReportUrls_guarded _ _ _

theorem scoreAdResponseJsonToProto_guarded (lib : Library) (scoreAdResp : Json)
    (maxAllowedSizeDebugUrlChars : ℤ) (deviceComponentAuction : Bool) :
    Reading.scoreAdResponseJsonToProto lib scoreAdResp maxAllowedSizeDebugUrlChars
        deviceComponentAuction =
      guarded .asserted (isScore lib deviceComponentAuction scoreAdResp)
        (scoreAdResponseJsonToProto lib scoreAdResp maxAllowedSizeDebugUrlChars
          deviceComponentAuction) := by
  cases scoreAdResp with
  | object members =>
    obtain ⟨withFields, hnone, htotal, hread⟩ := scoreAdResponseJsonToProto_object lib members
      maxAllowedSizeDebugUrlChars deviceComponentAuction
    have hscore : isScore lib deviceComponentAuction (.object members) =
        ((deviceComponentAuction && isUnwritableMetadata lib (.object members)) ||
          (Json.object members).absentOr "debugReportUrls" Json.isObject) := rfl
    rw [hscore, ← hnone, htotal, hread]
  | _ => rfl

theorem isScore_parseAndGetScoreAdResponseJson (lib : Library) (deviceComponentAuction : Bool)
    (document : Json) :
    isScore lib deviceComponentAuction (parseAndGetScoreAdResponseJson document) =
      ((document.findMember "response").map (isScore lib deviceComponentAuction)).getD false := by
  unfold parseAndGetScoreAdResponseJson
  cases document.findMember "response" with
  | none => rfl
  | some response => cases response <;> rfl

theorem isNumber_or_isObject_of_isScore {lib : Library} {deviceComponentAuction : Bool}
    {response : Json} (h : isScore lib deviceComponentAuction response = true) :
    (response.isNumber || response.isObject) = true := by
  unfold isScore at h
  rw [Bool.or_eq_true, Bool.and_eq_true] at h
  rw [Bool.or_eq_true]
  exact h.imp_right And.left

theorem scoredAd_guarded (r : ScoreAdsReactor) (lib : Library)
    (enablePrivateAggregateReporting : Bool) (response : RomaResponse) :
    Reading.scoredAd r lib enablePrivateAggregateReporting response =
      guarded .asserted (r.isReadable lib response) (r.scoredAd lib response) := by
  unfold Reading.scoredAd ScoreAdsReactor.isReadable ScoreAdsReactor.scoredAd
  cases response with
  | error message => rfl
  | ok response =>
    simp only [Except.toOption, bind, Option.bind_some]
    cases r.findScoredAdType response.id with
    | none => rfl
    | some ad =>
      cases lib.parseJsonString response.resp with
      | none => rfl
      | some document =>
        dsimp only
        rw [parseAndGetScoreAdResponseJson_guarded, isScoreAdWrapper,
          ← isScore_parseAndGetScoreAdResponseJson]
        refine guarded_bind fun hwrapper => ?_
        rw [scoreAdResponseJsonToProto_guarded]
        refine guarded_bind_ok fun _ => ?_
        -- `paapiContributions` is looked for in the wrapper, whose `response` was found
        have hobject := (Bool.and_eq_true_iff.mp hwrapper).1
        rw [Option.bind_some, Option.bind_some]
        cases scoreAdResponseJsonToProto lib (parseAndGetScoreAdResponseJson document)
          r.maxAllowedSizeDebugUrlChars (isComponentAuction r.auctionScope) with
        | none => rfl
        | some adScore =>
          cases enablePrivateAggregateReporting with
          | false => rfl
          | true =>
            rw [Json.member?_guarded, hobject]
            rfl

theorem getAdRejectionReason_guarded (r : ScoreAdsReactor) (lib : Library) (responseJson : Json)
    (adScore : AdScore ℚ) :
    Reading.getAdRejectionReason r lib responseJson adScore =
      guarded .asserted (responseJson.isNumber || responseJson.isObject)
        (r.getAdRejectionReason lib responseJson adScore) := by
  unfold Reading.getAdRejectionReason ScoreAdsReactor.getAdRejectionReason
  rw [parseAdRejectionReason_guarded]
  cases responseJson.isNumber with
  | true =>
    simp only [if_true, bind, Except.bind, Bool.true_or, guarded_true]
    split_ifs <;> rfl
  | false =>
    simp only [Bool.false_eq_true, if_false, Bool.false_or]
    refine guarded_bind_ok fun _ => ?_
    split_ifs <;> rfl

theorem isReadable_moveKAnonJoinCandidate (r : ScoreAdsReactor) (lib : Library) (id : String) :
    (r.moveKAnonJoinCandidate id).isReadable lib = r.isReadable lib := by
  unfold ScoreAdsReactor.moveKAnonJoinCandidate
  split <;> rfl

theorem collectValidRomaResponses_guarded (r : ScoreAdsReactor) (lib : Library)
    (enablePrivateAggregateReporting : Bool) (responses : List RomaResponse) :
    Reading.collectValidRomaResponses r lib enablePrivateAggregateReporting responses =
      guarded .asserted (responses.all (r.isReadable lib))
        (r.collectValidRomaResponses lib responses) := by
  induction responses generalizing r with
  | nil => rfl
  | cons response rest ih =>
    unfold Reading.collectValidRomaResponses ScoreAdsReactor.collectValidRomaResponses
    rw [scoredAd_guarded, List.all_cons]
    refine guarded_bind fun _ => ?_
    cases r.scoredAd lib response with
    | none => exact ih r
    | some ad =>
      dsimp only
      rw [ih, isReadable_moveKAnonJoinCandidate]
      exact guarded_bind_pure _

/-! ## Responses -/

namespace ScoreAdsReactor

variable (r : ScoreAdsReactor) (lib : Library)

/-- A response that executed, belongs to an ad and is what `scoreAd` returns in full. -/
def isWellFormed : RomaResponse → Bool
  | .error _ => false
  | .ok response =>
    match r.findScoredAdType response.id, lib.parseJsonString response.resp with
    | some _, some document =>
      isScoreAdWrapper lib (isComponentAuction r.auctionScope) r.enableAdtechCodeLogging document
    | _, _ => false

/-- No accessor is applied to a value of another type, and the ads are scored as if there were
no malformed responses. -/
def ScoresOtherAds (enablePrivateAggregateReporting : Bool) (responses : List RomaResponse) :
    Prop :=
  ∃ ads, Reading.collectValidRomaResponses r lib enablePrivateAggregateReporting responses =
      .ok ads ∧
    Reading.collectValidRomaResponses r lib enablePrivateAggregateReporting
      (responses.filter (r.isWellFormed lib)) = .ok ads ∧
    ∀ ad ∈ ads, ∀ adScore, Reading.getAdRejectionReason r lib ad.responseJson adScore ≠
      .error .asserted

variable {r lib}

theorem scoredAd_of_not_isWellFormed {response : RomaResponse}
    (hreadable : r.isReadable lib response = true) (h : r.isWellFormed lib response = false) :
    r.scoredAd lib response = none := by
  unfold isWellFormed at h
  unfold isReadable at hreadable
  unfold scoredAd
  cases response with
  | error message => rfl
  | ok response =>
    simp only [Except.toOption, bind, Option.bind_some] at h hreadable ⊢
    cases had : r.findScoredAdType response.id with
    | none => rfl
    | some ad =>
      cases hdocument : lib.parseJsonString response.resp with
      | none => rfl
      | some document =>
        rw [had, hdocument] at h hreadable
        cases h.symm.trans hreadable

theorem isWellFormed_moveKAnonJoinCandidate (r : ScoreAdsReactor) (lib : Library) (id : String) :
    (r.moveKAnonJoinCandidate id).isWellFormed lib = r.isWellFormed lib := by
  unfold moveKAnonJoinCandidate
  split <;> rfl

theorem collectValidRomaResponses_filter {responses : List RomaResponse}
    (h : ∀ response ∈ responses, r.isReadable lib response = true) :
    r.collectValidRomaResponses lib (responses.filter (r.isWellFormed lib)) =
      r.collectValidRomaResponses lib responses := by
  induction responses generalizing r with
  | nil => rfl
  | cons response rest ih =>
    obtain ⟨hresponse, hrest⟩ := List.forall_mem_cons.mp h
    cases hformed : r.isWellFormed lib response with
    | false =>
      -- no ad is scored, so no candidate moves either
      rw [List.filter_cons_of_neg (ne_true_of_eq_false hformed), ih hrest]
      conv_rhs => unfold collectValidRomaResponses
      rw [scoredAd_of_not_isWellFormed hresponse hformed]
    | true =>
      rw [List.filter_cons_of_pos hformed]
      unfold collectValidRomaResponses
      cases r.scoredAd lib response with
      | none => exact ih hrest
      | some ad =>
        dsimp only
        rw [← isWellFormed_moveKAnonJoinCandidate r lib ad.id, ih]
        rwa [isReadable_moveKAnonJoinCandidate]

theorem responseJson_of_scoredAd {response : RomaResponse} {ad : ScoredAdData}
    (hreadable : r.isReadable lib response = true) (h : r.scoredAd lib response = some ad) :
    (ad.responseJson.isNumber || ad.responseJson.isObject) = true := by
  unfold scoredAd at h
  unfold isReadable at hreadable
  cases response with
  | error message => cases h
  | ok response =>
    simp only [Except.toOption, bind, Option.bind_some, Option.bind_eq_some_iff] at h hreadable
    obtain ⟨found, hfound, document, hdocument, adScore, -, h⟩ := h
    rw [hfound, hdocument] at hreadable
    have hscore := (Bool.and_eq_true_iff.mp hreadable).2
    rw [← isScore_parseAndGetScoreAdResponseJson] at hscore
    cases h
    exact isNumber_or_isObject_of_isScore hscore

theorem responseJson_of_mem {responses : List RomaResponse} {ad : ScoredAdData}
    (h : ∀ response ∈ responses, r.isReadable lib response = true)
    (had : ad ∈ r.collectValidRomaResponses lib responses) :
    (ad.responseJson.isNumber || ad.responseJson.isObject) = true := by
  induction responses generalizing r with
  | nil => nomatch had
  | cons response rest ih =>
    obtain ⟨hresponse, hrest⟩ := List.forall_mem_cons.mp h
    unfold collectValidRomaResponses at had
    cases hscored : r.scoredAd lib response with
    | none =>
      rw [hscored] at had
      exact ih hrest had
    | some scored =>
      rw [hscored] at had
      rcases List.mem_cons.mp had with rfl | had
      · exact responseJson_of_scoredAd hresponse hscored
      · refine ih ?_ had
        rwa [isReadable_moveKAnonJoinCandidate]

theorem scoresOtherAds_iff (enablePrivateAggregateReporting : Bool)
    (responses : List RomaResponse) :
    r.ScoresOtherAds lib enablePrivateAggregateReporting responses ↔
      ∀ response ∈ responses, r.isReadable lib response = true := by
  unfold ScoresOtherAds
  simp only [collectValidRomaResponses_guarded, guarded_eq_ok, List.all_eq_true]
  constructor
  · rintro ⟨ads, ⟨hreadable, -⟩, -⟩
    exact hreadable
  · intro hreadable
    refine ⟨r.collectValidRomaResponses lib responses, ⟨hreadable, rfl⟩,
      ⟨fun response hresponse => hreadable response (List.mem_of_mem_filter hresponse),
        collectValidRomaResponses_filter hreadable⟩, fun ad had adScore => ?_⟩
    rw [getAdRejectionReason_guarded, guarded_ne_error]
    exact responseJson_of_mem hreadable had

end ScoreAdsReactor

/-! ## Signals -/

def isMalformedPart (member : String × Json) : Bool :=
  (member.1 = "renderUrls" || member.1 = "adComponentRenderUrls") && !member.2.isObject

def withoutMalformedParts : Json → Json
  | .object members => .object (members.filter fun member => !isMalformedPart member)
  | document => document

/-- No accessor is applied to a value of another type, and malformed parts are as good as
absent. -/
def SignalsSkipMalformed (parse : String → Option Json) (scoringSignals : String)
    (rawRequest : ScoreAdsRawRequest) (requireScoringSignalsForScoring : Bool) : Prop :=
  buildTrustedScoringSignals parse scoringSignals rawRequest requireScoringSignalsForScoring ≠
      .error .asserted ∧
    buildTrustedScoringSignals parse scoringSignals rawRequest requireScoringSignalsForScoring =
      buildTrustedScoringSignals (fun text => (parse text).map withoutMalformedParts)
        scoringSignals rawRequest requireScoringSignalsForScoring

/-- The parts of the signals are objects if they are there, or the signals are refused for the
lack of render URLs. -/
def areSignals (requireScoringSignalsForScoring : Bool) (document : Json) : Bool :=
  (requireScoringSignalsForScoring && (document.findMember "renderUrls").isNone) ||
    (isAbsentOrObject "renderUrls" document && isAbsentOrObject "adComponentRenderUrls" document)

theorem withoutMalformedParts_object (members : List (String × Json)) :
    withoutMalformedParts (.object members) =
      .object (members.filter fun member => !isMalformedPart member) := rfl

theorem findMember_withoutMalformedParts {name : String} {document : Json}
    (h : isAbsentOrObject name document = true) :
    (withoutMalformedParts document).findMember name = document.findMember name := by
  cases document with
  | object members =>
    simp only [withoutMalformedParts_object]
    induction members with
    | nil => rfl
    | cons member members ih =>
      by_cases hname : member.1 = name
      · have hobject : member.2.isObject = true := by
          unfold isAbsentOrObject at h
          rw [Json.findMember_cons_eq members hname] at h
          cases hvalue : member.2 with
          | object _ => rfl
          | _ => rw [hvalue] at h; cases h
        rw [List.filter_cons_of_pos (by simp [isMalformedPart, hobject]),
          Json.findMember_cons_eq _ hname, Json.findMember_cons_eq _ hname]
      · unfold isAbsentOrObject at h ih
        rw [Json.findMember_cons_ne members hname] at h ⊢
        rw [← ih h, List.filter_cons]
        split
        · exact Json.findMember_cons_ne _ hname
        · rfl
  | _ => rfl

theorem combineSignals_foldlM_ne_asserted (document : Json) (ads : List AdWithBidMetadata) :
    ads.foldlM (combineSignals (findSharedComponentUrls ads))
      { renderUrlSignals := signalsMap (signalMembers "renderUrls" document)
        componentSignals := signalsMap (signalMembers "adComponentRenderUrls" document) } ≠
      .error .asserted := by
  -- a component whose signals stand under a longer name, cut, ends the loop with a status
  by_cases hnamed : ∀ ad ∈ ads,
      NamedInFull (signalMembers "adComponentRenderUrls" document) ad.adComponents
  · obtain ⟨combined, hfold, -⟩ := combined_lookup hnamed []
    rw [hfold]
    exact fun h => nomatch h
  · obtain ⟨message, hfold⟩ := combineSignals_foldlM_internal
      (⟨fun url _ => rfl, fun url _ => rfl⟩ : Ready
        (signalMembers "adComponentRenderUrls" document) (signalMembers "renderUrls" document) ads
        { renderUrlSignals := signalsMap (signalMembers "renderUrls" document)
          componentSignals := signalsMap (signalMembers "adComponentRenderUrls" document) })
      (fun url => mem_findSharedComponentUrls) hnamed
    rw [hfold]
    exact fun h => nomatch h

theorem buildTrustedScoringSignals_eq_asserted {parse : String → Option Json}
    {scoringSignals : String} (rawRequest : ScoreAdsRawRequest)
    (requireScoringSignalsForScoring : Bool) {document : Json}
    (hparsed : parsedSignals parse scoringSignals = some document) :
    buildTrustedScoringSignals parse scoringSignals rawRequest requireScoringSignalsForScoring =
      .error .asserted ↔ areSignals requireScoringSignalsForScoring document = false := by
  rw [buildTrustedScoringSignals_eq rawRequest requireScoringSignalsForScoring hparsed,
    areSignals, Bool.or_eq_false_iff]
  by_cases hmissing : requireScoringSignalsForScoring = true ∧
      (document.findMember "renderUrls").isNone = true
  · rw [if_pos hmissing]
    exact iff_of_false (fun h => nomatch h) fun h => by simp [hmissing] at h
  rw [if_neg hmissing, adScoringSignalsMap_eq, adScoringSignalsMap_eq, and_iff_right
    (Bool.eq_false_iff.mpr fun h => hmissing (Bool.and_eq_true_iff.mp h))]
  cases isAbsentOrObject "renderUrls" document with
  | false => exact iff_of_true rfl rfl
  | true =>
    cases isAbsentOrObject "adComponentRenderUrls" document with
    | false => exact iff_of_true rfl rfl
    | true =>
      refine iff_of_false (fun h => ?_) (fun h => nomatch h)
      have hfold := combineSignals_foldlM_ne_asserted document rawRequest.adBids
      simp only [if_true, bind, Except.bind] at h
      split at h
      · rename_i e he
        cases h
        exact hfold he
      · cases h

theorem parsedSignals_withoutMalformedParts (parse : String → Option Json)
    (scoringSignals : String) :
    parsedSignals (fun text => (parse text).map withoutMalformedParts) scoringSignals =
      (parsedSignals parse scoringSignals).map withoutMalformedParts := by
  unfold parsedSignals
  split
  · rfl
  · dsimp only
    cases parse (cString scoringSignals) with
    | none => rfl
    | some document => cases document <;> rfl

theorem buildTrustedScoringSignals_of_none {parse : String → Option Json} {scoringSignals : String}
    (rawRequest : ScoreAdsRawRequest) (requireScoringSignalsForScoring : Bool)
    (h : parsedSignals parse scoringSignals = none) :
    buildTrustedScoringSignals parse scoringSignals rawRequest requireScoringSignalsForScoring =
      .error (.invalidArgument (if scoringSignals = "" then "Empty trusted scoring signals"
        else "Malformed trusted scoring signals")) := by
  unfold parsedSignals at h
  unfold buildTrustedScoringSignals
  split
  · rfl
  · rename_i hnonempty
    rw [if_neg hnonempty] at h
    split
    · rename_i members hmembers
      rw [hmembers] at h
      cases h
    · rfl

theorem buildTrustedScoringSignals_withoutMalformedParts {parse : String → Option Json}
    {scoringSignals : String} (rawRequest : ScoreAdsRawRequest)
    {requireScoringSignalsForScoring : Bool} {document : Json}
    (hparsed : parsedSignals parse scoringSignals = some document)
    (hsignals : areSignals requireScoringSignalsForScoring document = true) :
    buildTrustedScoringSignals parse scoringSignals rawRequest requireScoringSignalsForScoring =
      buildTrustedScoringSignals (fun text => (parse text).map withoutMalformedParts)
        scoringSignals rawRequest requireScoringSignalsForScoring := by
  have hwithout : parsedSignals (fun text => (parse text).map withoutMalformedParts)
      scoringSignals = some (withoutMalformedParts document) := by
    rw [parsedSignals_withoutMalformedParts, hparsed]
    rfl
  rw [buildTrustedScoringSignals_eq rawRequest _ hparsed,
    buildTrustedScoringSignals_eq rawRequest _ hwithout]
  have hrenders : (withoutMalformedParts document).findMember "renderUrls" =
      document.findMember "renderUrls" := by
    refine findMember_withoutMalformedParts ?_
    rcases Bool.or_eq_true_iff.mp hsignals with hmissing | hobjects
    · have hnone := Option.isNone_iff_eq_none.mp (Bool.and_eq_true_iff.mp hmissing).2
      rw [isAbsentOrObject, hnone]
    · exact (Bool.and_eq_true_iff.mp hobjects).1
  rw [hrenders]
  by_cases hmissing : requireScoringSignalsForScoring = true ∧
      (document.findMember "renderUrls").isNone = true
  · rw [if_pos hmissing, if_pos hmissing]
  · have hobjects := (Bool.or_eq_true_iff.mp hsignals).resolve_left fun h =>
      hmissing (Bool.and_eq_true_iff.mp h)
    have hcomponents := findMember_withoutMalformedParts (Bool.and_eq_true_iff.mp hobjects).2
    rw [if_neg hmissing, if_neg hmissing]
    simp only [adScoringSignalsMap, hrenders, hcomponents]

theorem signalsSkipMalformed_iff (parse : String → Option Json) (scoringSignals : String)
    (rawRequest : ScoreAdsRawRequest) (requireScoringSignalsForScoring : Bool) :
    SignalsSkipMalformed parse scoringSignals rawRequest requireScoringSignalsForScoring ↔
      ∀ document, parsedSignals parse scoringSignals = some document →
        areSignals requireScoringSignalsForScoring document = true := by
  unfold SignalsSkipMalformed
  constructor
  · rintro ⟨hasserted, -⟩ document hparsed
    by_contra hnot
    exact hasserted ((buildTrustedScoringSignals_eq_asserted rawRequest _ hparsed).mpr
      (Bool.eq_false_iff.mpr hnot))
  · intro hsignals
    cases hparsed : parsedSignals parse scoringSignals with
    | none =>
      -- refused as they are, with their malformed parts or without
      have hwithout : parsedSignals (fun text => (parse text).map withoutMalformedParts)
          scoringSignals = none := by
        rw [parsedSignals_withoutMalformedParts, hparsed]
        rfl
      rw [buildTrustedScoringSignals_of_none rawRequest _ hparsed,
        buildTrustedScoringSignals_of_none rawRequest _ hwithout]
      exact ⟨(fun h => nomatch h), rfl⟩
    | some document =>
      refine ⟨fun h => ?_, buildTrustedScoringSignals_withoutMalformedParts rawRequest hparsed
        (hsignals document hparsed)⟩
      cases ((buildTrustedScoringSignals_eq_asserted rawRequest _ hparsed).mp h).symm.trans
        (hsignals document hparsed)

/-! ## Scoring -/

/-- No accessor is applied to a value of another type and what is malformed goes alone iff every
response that executed, belongs to an ad and is JSON is what `scoreAd` returns in full, and the
parts of the signals are objects if they are read. -/
theorem scoring_readsForeignJson_iff (r : ScoreAdsReactor) (lib : Library)
    (enablePrivateAggregateReporting : Bool) (responses : List RomaResponse)
    (parse : String → Option Json) (scoringSignals : String) (rawRequest : ScoreAdsRawRequest)
    (requireScoringSignalsForScoring : Bool) :
    (r.ScoresOtherAds lib enablePrivateAggregateReporting responses ↔
      ∀ response ∈ responses, r.isReadable lib response = true) ∧
    (SignalsSkipMalformed parse scoringSignals rawRequest requireScoringSignalsForScoring ↔
      ∀ document, parsedSignals parse scoringSignals = some document →
        areSignals requireScoringSignalsForScoring document = true) :=
  ⟨r.scoresOtherAds_iff enablePrivateAggregateReporting responses,
    signalsSkipMalformed_iff parse scoringSignals rawRequest requireScoringSignalsForScoring⟩

def emptyObjectLibrary : Library :=
  ⟨fun _ => some (.object []), fun _ => none, fun _ => none, fun _ => "", id⟩

/-- A response without a score, for an ad of the request, ends the process; so do render URLs
that are a number. -/
theorem emptyObject_asserted :
    ¬ ({ adData := FlatHashMap.emplace ∅ "ad" {} : ScoreAdsReactor }).ScoresOtherAds
        emptyObjectLibrary false [.ok ⟨"ad", "\x7b\x7d"⟩] ∧
      ¬ SignalsSkipMalformed (fun _ => some (.object [("renderUrls", .number 1)]))
        "\x7b\"renderUrls\":1\x7d" {} false := by
  constructor
  · rw [ScoreAdsReactor.scoresOtherAds_iff]
    decide
  · rw [signalsSkipMalformed_iff]
    intro h
    exact absurd (h _ rfl) (by decide)

end BiddingAuction

import BiddingAuction.Common.CString
import BiddingAuction.Common.FixedNotation
import BiddingAuction.ScoreAds.Scoring
import BiddingAuction.ScoreAds.TopLevel

/-!
# What `scoreAd` is called with

The arguments of `scoreAd` are texts of JSON. The bid is printed with six digits after the
point; the metadata is printed if it is an object, and passed as it is if it is a string. What
a component seller returns as `ad` is printed by its server, and passed as it is by the one of
the top-level seller.
-/

namespace BiddingAuction

open JsonText FixedNotation

/-! ## Texts of a value -/

mutual

def withoutKind : Json → Json
  | .double value => .number value
  | .array elements => .array (elementsWithoutKind elements)
  | .object members => .object (membersWithoutKind members)
  | value => value

def elementsWithoutKind : List Json → List Json
  | [] => []
  | element :: rest => withoutKind element :: elementsWithoutKind rest

def membersWithoutKind : List (String × Json) → List (String × Json)
  | [] => []
  | (name, value) :: rest => (name, withoutKind value) :: membersWithoutKind rest

end

@[simp] theorem withoutKind_string (s : String) : withoutKind (.string s) = .string s := rfl

@[simp] theorem withoutKind_number (value : ℚ) : withoutKind (.number value) = .number value := rfl

@[simp] theorem withoutKind_double (value : ℚ) : withoutKind (.double value) = .number value := rfl

def Says (text : String) (value : Json) : Prop :=
  (parse text).map withoutKind = some (withoutKind value)

theorem withoutKind_eq_string {value : Json} {s : String} (h : withoutKind value = .string s) :
    value = .string s := by
  cases value with
  | string s' => rwa [withoutKind_string] at h
  | _ => cases h

theorem says_string_iff {text s : String} :
    Says text (.string s) ↔ IsText text.toList (.string s) := by
  unfold Says
  rw [withoutKind_string, ← parse_eq_some_iff_isText]
  constructor
  · intro h
    obtain ⟨value, hvalue, hstring⟩ := Option.map_eq_some_iff.mp h
    rw [hvalue, withoutKind_eq_string hstring]
  · intro h
    rw [h, Option.map_some, withoutKind_string]

theorem not_says_self (s : String) : ¬ Says s (.string s) := by
  intro h
  exact Nat.lt_irrefl _ (says_string_iff.mp h).length_lt

theorem not_says_empty (value : Json) : ¬ Says "" value := by
  intro h
  cases h

theorem says_quoted_iff (s : String) :
    Says ("\"" ++ cString s ++ "\"") (.string s) ↔ IsClean s.toList := by
  have htext : ("\"" ++ cString s ++ "\"").toList =
      '\x22' :: ((cString s).toList ++ ['\x22']) := by
    rw [String.toList_append, String.toList_append]
    rfl
  rw [says_string_iff, htext, isText_quoted_iff (length_cString_le s)]
  constructor
  · rintro ⟨hwhole, hclean⟩
    rwa [hwhole]
  · intro hclean
    -- a null character would be a control character
    have hwhole : cString s = s := by
      refine (cString_eq_iff s).mpr fun c hc hzero => ?_
      have hcontrol := (hclean c hc).2.2
      rw [isControl, hzero] at hcontrol
      exact absurd hcontrol (by decide)
    rw [hwhole]
    exact ⟨rfl, hclean⟩

theorem says_stdToString_iff (bid : ℚ) :
    Says (stdToString bid) (.number bid) ↔ HasSixDecimals bid := by
  unfold Says
  rw [parse_stdToString, ← printed_eq_iff, Option.map_some, withoutKind_double,
    withoutKind_number]
  exact ⟨fun h => Json.number.inj (Option.some.inj h), fun h => by rw [h]⟩

/-! ## The ads -/

/-- An ad that is scored; one of a component auction with the response that its server got
for it. -/
inductive AdToScore where
  | protectedAudience (ad : AdWithBidMetadata)
  | protectedAppSignals (ad : ProtectedAppSignalsAdWithBidMetadata)
  | winner (scoreAdResp : Json) (auctionResult : AuctionResult ℚ)
  | ghostWinner (scoreAdResp : Json) (candidate : ComponentGhostWinner ℚ)

namespace AdToScore

def bid : AdToScore → ℚ
  | .protectedAudience ad => ad.bid
  | .protectedAppSignals ad => ad.bid
  | .winner _ auctionResult => auctionResult.bid
  | .ghostWinner _ candidate => candidate.modifiedBid

/-- The metadata, as the buyer gave it or as the component seller returned it. -/
def metadata : AdToScore → Json
  | .protectedAudience ad => ad.ad
  | .protectedAppSignals ad => ad.ad
  | .winner scoreAdResp _ => (scoreAdResp.findMember "ad").getD .null
  | .ghostWinner scoreAdResp _ => (scoreAdResp.findMember "ad").getD .null

section Request

variable (lib : Library) (scoringSignals auctionConfig bidMetadata : String)
  (enableAdtechCodeLogging enableDebugReporting : Bool) (codeVersion : String)

/-- The request for the ad. The result of a component auction carries what the response says
of the metadata. -/
def request : AdToScore → Option DispatchRequest
  | .protectedAudience ad =>
    buildScoreAdRequest lib ad.render ad.ad scoringSignals ad.bid auctionConfig bidMetadata
      enableAdtechCodeLogging enableDebugReporting codeVersion
  | .protectedAppSignals ad =>
    buildScoreAdRequest lib ad.render ad.ad scoringSignals ad.bid auctionConfig bidMetadata
      enableAdtechCodeLogging enableDebugReporting codeVersion
  | .winner scoreAdResp auctionResult => do
    let adMetadata ← adMetadataForComponentAuction lib scoreAdResp
    let candidate := componentWinner { auctionResult with adMetadata := adMetadata }
    buildScoreAdRequest lib candidate.adRenderUrl (.string candidate.adMetadata) "\x7b\x7d"
      candidate.bid auctionConfig bidMetadata enableAdtechCodeLogging enableDebugReporting
      codeVersion
  | .ghostWinner scoreAdResp candidate => do
    let adMetadata ← adMetadataForComponentAuction lib scoreAdResp
    let candidate := { candidate with adMetadata := adMetadata }
    buildScoreAdRequest lib candidate.adRenderUrl (.string candidate.adMetadata) "\x7b\x7d"
      candidate.modifiedBid auctionConfig bidMetadata enableAdtechCodeLogging enableDebugReporting
      codeVersion

end Request

/-- The metadata is printed as it is: it is an object, or, of a component auction, a string
without a character that needs an escape. -/
def FitsMetadata : AdToScore → Prop
  | .protectedAudience ad => ∃ members, ad.ad = .object members
  | .protectedAppSignals ad => ∃ members, ad.ad = .object members
  | .winner scoreAdResp _ | .ghostWinner scoreAdResp _ =>
    (∃ members, scoreAdResp.findMember "ad" = some (.object members)) ∨
      ∃ s, scoreAdResp.findMember "ad" = some (.string s) ∧ IsClean s.toList

end AdToScore

/-- What `scoreAd` is called with is JSON, of the bid and of the metadata. -/
structure Faithful (request : DispatchRequest) (bid : ℚ) (metadata : Json) : Prop where
  bid : Says request.input.bid (.number bid)
  adMetadata : Says request.input.adMetadata metadata

def PrintsObject (print : Json → Option String) (value : Json) : Prop :=
  ∀ members, value = .object members → ∃ text, print value = some text ∧ Says text value

section Lib

variable {lib : Library}

theorem says_adObjectJson_iff {ad : Json} (hprint : PrintsObject lib.messageToJsonString ad) :
    (∃ text, adObjectJson lib ad = some text ∧ Says text ad) ↔ ∃ members, ad = .object members := by
  constructor
  · rintro ⟨text, htext, hsays⟩
    cases ad with
    | object members => exact ⟨members, rfl⟩
    | string s =>
      -- handed over without quotes
      cases htext
      exact absurd hsays (not_says_self text)
    | _ =>
      cases htext
      exact absurd hsays (not_says_empty _)
  · rintro ⟨members, rfl⟩
    exact hprint members rfl

theorem faithful_buildScoreAdRequest_iff (hstring : lib.toString = stdToString)
    {adRenderUrl : String} {ad metadata : Json} {scoringSignals : String} {adBid : ℚ}
    {auctionConfig bidMetadata : String} {enableAdtechCodeLogging enableDebugReporting : Bool}
    {codeVersion : String} :
    (∃ request, buildScoreAdRequest lib adRenderUrl ad scoringSignals adBid auctionConfig
        bidMetadata enableAdtechCodeLogging enableDebugReporting codeVersion = some request ∧
        Faithful request adBid metadata) ↔
      HasSixDecimals adBid ∧ ∃ text, adObjectJson lib ad = some text ∧ Says text metadata := by
  rw [← says_stdToString_iff, ← hstring]
  unfold buildScoreAdRequest
  cases adObjectJson lib ad with
  | none =>
    constructor
    · rintro ⟨request, hrequest, -⟩
      cases hrequest
    · rintro ⟨-, text, htext, -⟩
      cases htext
  | some text =>
    constructor
    · rintro ⟨request, hrequest, hfaithful⟩
      cases hrequest
      exact ⟨hfaithful.bid, text, rfl, hfaithful.adMetadata⟩
    · rintro ⟨hbid, text', htext, hmetadata⟩
      cases htext
      exact ⟨_, rfl, hbid, hmetadata⟩

theorem says_adMetadataForComponentAuction_iff {scoreAdResp : Json}
    (hprint : PrintsObject lib.serializeJsonDoc ((scoreAdResp.findMember "ad").getD .null)) :
    (∃ text, adMetadataForComponentAuction lib scoreAdResp = some text ∧
        Says text ((scoreAdResp.findMember "ad").getD .null)) ↔
      (∃ members, scoreAdResp.findMember "ad" = some (.object members)) ∨
        ∃ s, scoreAdResp.findMember "ad" = some (.string s) ∧ IsClean s.toList := by
  unfold adMetadataForComponentAuction
  cases hfound : scoreAdResp.findMember "ad" with
  | none => simp [not_says_empty]
  | some ad =>
    rw [hfound] at hprint
    cases ad with
    | object members =>
      obtain ⟨text, htext, hsays⟩ := hprint members rfl
      exact iff_of_true ⟨text, htext, hsays⟩ (.inl ⟨members, rfl⟩)
    | string s => simp [says_quoted_iff]
    | _ => simp [not_says_empty]

end Lib

section Passed

variable {lib : Library} (hstring : lib.toString = stdToString)
  {scoringSignals auctionConfig bidMetadata : String}
  {enableAdtechCodeLogging enableDebugReporting : Bool} {codeVersion : String}

include hstring

theorem faithful_passed_iff {text? : Option String} {adRenderUrl : String} {adBid : ℚ}
    {metadata : Json} :
    (∃ request, (text?.bind fun text => buildScoreAdRequest lib adRenderUrl (.string text)
        scoringSignals adBid auctionConfig bidMetadata enableAdtechCodeLogging
        enableDebugReporting codeVersion) = some request ∧ Faithful request adBid metadata) ↔
      HasSixDecimals adBid ∧ ∃ text, text? = some text ∧ Says text metadata := by
  cases text? with
  | none => simp
  | some text =>
    rw [Option.bind_some, faithful_buildScoreAdRequest_iff hstring]
    rfl

theorem AdToScore.faithful_iff (ad : AdToScore)
    (hstruct : PrintsObject lib.messageToJsonString ad.metadata)
    (hdocument : PrintsObject lib.serializeJsonDoc ad.metadata) :
    (∃ request, ad.request lib scoringSignals auctionConfig bidMetadata enableAdtechCodeLogging
        enableDebugReporting codeVersion = some request ∧
        Faithful request ad.bid ad.metadata) ↔
      HasSixDecimals ad.bid ∧ ad.FitsMetadata := by
  cases ad with
  | protectedAudience ad =>
    refine (faithful_buildScoreAdRequest_iff hstring).trans (and_congr_right fun _ => ?_)
    exact says_adObjectJson_iff hstruct
  | protectedAppSignals ad =>
    refine (faithful_buildScoreAdRequest_iff hstring).trans (and_congr_right fun _ => ?_)
    exact says_adObjectJson_iff hstruct
  | winner scoreAdResp auctionResult =>
    refine (faithful_passed_iff hstring).trans (and_congr_right fun _ => ?_)
    exact says_adMetadataForComponentAuction_iff hdocument
  | ghostWinner scoreAdResp candidate =>
    refine (faithful_passed_iff hstring).trans (and_congr_right fun _ => ?_)
    exact says_adMetadataForComponentAuction_iff hdocument

end Passed

/-- The result of a component auction that is made of the score of a winner carries no metadata,
and so none is handed over. -/
theorem not_says_handedOver (highScore : Option (AdScore ℚ)) (ghostWinningScores : List (AdScore ℚ))
    (error : Option AuctionResultError) (data : ComponentAuctionData)
    (getKAnonJoinCandidate : AdScore ℚ → KAnonJoinCandidate) (metadata : Json) :
    ¬ Says (componentWinner (handedOver highScore ghostWinningScores error data
      getKAnonJoinCandidate)).adMetadata metadata := by
  have hempty : (componentWinner (handedOver highScore ghostWinningScores error data
      getKAnonJoinCandidate)).adMetadata = "" := by
    cases highScore <;> cases error <;> rfl
  rw [hempty]
  exact not_says_empty metadata

/-- The bid and the metadata of an ad come to `scoreAd` as they are exactly when the bid has no
more than six decimals and the metadata is an object, or, of a component auction whose result
carries it, a string that needs no escape. The result that is made of a winner's score carries
no metadata. -/
theorem scoreAdInputs_iff (lib : Library) (ad : AdToScore) (hstring : lib.toString = stdToString)
    (hstruct : PrintsObject lib.messageToJsonString ad.metadata)
    (hdocument : PrintsObject lib.serializeJsonDoc ad.metadata)
    (scoringSignals auctionConfig bidMetadata : String)
    (enableAdtechCodeLogging enableDebugReporting : Bool) (codeVersion : String) :
    ((∃ request, ad.request lib scoringSignals auctionConfig bidMetadata enableAdtechCodeLogging
        enableDebugReporting codeVersion = some request ∧
        Faithful request ad.bid ad.metadata) ↔
      HasSixDecimals ad.bid ∧ ad.FitsMetadata) ∧
    ∀ (highScore : Option (AdScore ℚ)) (ghostWinningScores : List (AdScore ℚ))
      (error : Option AuctionResultError) (data : ComponentAuctionData)
      (getKAnonJoinCandidate : AdScore ℚ → KAnonJoinCandidate) (metadata : Json),
      ¬ Says (componentWinner (handedOver highScore ghostWinningScores error data
        getKAnonJoinCandidate)).adMetadata metadata :=
  ⟨ad.faithful_iff hstring hstruct hdocument, not_says_handedOver⟩

def flagPrinter : Library where
  parseJsonString := parse
  serializeJsonDoc _ := some "\x7b\"flag\":true\x7d"
  messageToJsonString _ := some "\x7b\"flag\":true\x7d"
  toString := stdToString
  toFloat q := q

def adWith (metadata : Json) : AdToScore :=
  .protectedAudience { ad := metadata, bid := 3 / 2, render := "https://ads.com/1" }

theorem isText_flag :
    IsText "\x7b\"flag\":true\x7d".toList (.object [("flag", .bool true)]) := by
  have hmember : IsMember (['f', 'l', 'a', 'g'], ['t', 'r', 'u', 'e']) ("flag", .bool true) :=
    ⟨rfl, isText_scalar (by simp [isDelimiter, isWhitespace]) rfl⟩
  exact (isText_objectText_iff (.cons hmember .nil)).mpr (by decide)

theorem printsObject_flag {value : Json} (h : ∀ members, value = .object members →
    members = [("flag", .bool true)]) :
    PrintsObject (fun _ => some "\x7b\"flag\":true\x7d") value := by
  rintro members rfl
  rw [h members rfl]
  exact ⟨_, rfl, congrArg (Option.map withoutKind) (parse_eq_some_iff_isText.mpr isText_flag)⟩

/-- A string comes to `scoreAd` without its quotes. -/
theorem scoreAdInputs_string :
    ¬ ∀ (lib : Library) (ad : AdToScore), lib.toString = stdToString →
      PrintsObject lib.messageToJsonString ad.metadata →
      PrintsObject lib.serializeJsonDoc ad.metadata →
      ∃ request, ad.request lib "null" "\x7b\x7d" "\x7b\x7d" false false "v1" = some request ∧
        Faithful request ad.bid ad.metadata := by
  intro h
  have hnone : ∀ members, Json.string "hello" = .object members →
      members = [("flag", .bool true)] := by
    intro members hmembers
    cases hmembers
  obtain ⟨request, hrequest, hfaithful⟩ := h flagPrinter (adWith (.string "hello")) rfl
    (printsObject_flag hnone) (printsObject_flag hnone)
  cases hrequest
  exact not_says_self "hello" hfaithful.adMetadata

theorem scoreAdInputs_object : ∃ request,
    (adWith (.object [("flag", .bool true)])).request flagPrinter "null" "\x7b\x7d" "\x7b\x7d"
        false false "v1" = some request ∧
      Faithful request (3 / 2) (.object [("flag", .bool true)]) := by
  have hflag : ∀ members, Json.object [("flag", .bool true)] = .object members →
      members = [("flag", .bool true)] := fun members h => (Json.object.inj h).symm
  exact (scoreAdInputs_iff flagPrinter (adWith (.object [("flag", .bool true)])) rfl
    (printsObject_flag hflag) (printsObject_flag hflag) "null" "\x7b\x7d" "\x7b\x7d" false false
    "v1").1.mpr ⟨by decide +kernel, _, rfl⟩

end BiddingAuction

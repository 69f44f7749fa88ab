import BiddingAuction.PrivateAggregation.Handlers
import BiddingAuction.SelectAd.AuctionResult
import BiddingAuction.SelectAuctionResult.Components
import BiddingAuction.Web.Encode

/-!
# The answer of a top-level auction

`SelectAuctionResultReactor::OnScoreAdsDone`: what the client is sent for an outcome
of the scoring. An app client is sent an `AuctionResult`, a browser its CBOR form.
-/

namespace BiddingAuction

open Foundation.Cbor

inductive ClientType where
  | unknown
  | android
  | browser
deriving DecidableEq, Repr

structure GrpcStatus where
  code : ℕ
  message : String
deriving DecidableEq, Repr

/-- `grpc::StatusCode::INTERNAL`. -/
def kInternal : ℕ := 13

def kInternalServerError := "Internal server error."

/-- What is compressed, framed and encrypted for the client. -/
inductive AuctionResultPlaintext where
  | app (result : AuctionResult FloatVal)
  | web (serializedData : Bytes)

/-- What becomes of an auction result. It is `unanswered` where the process aborts, or
waits for an error handler that nobody calls. -/
inductive Packaged where
  | ciphertext (plaintext : AuctionResultPlaintext)
  | failed
  | unanswered

inductive SelectAdAnswer where
  | response (auctionResultCiphertext : AuctionResultPlaintext)
  | status (status : GrpcStatus)
  | unanswered

/-! ## Packaging -/

/-- The code around the reactor: libcbor, the order of hash containers, and whether a
plaintext can be compressed, framed and encrypted. -/
structure ResponseEnv where
  lib : LibCbor
  ord : HashOrder
  packages : AuctionResultPlaintext → Bool

namespace ResponseEnv

variable (env : ResponseEnv)

def packageAuctionResultCiphertext (plaintext : AuctionResultPlaintext) : Packaged :=
  if env.packages plaintext then .ciphertext plaintext else .failed

def packageAuctionResultForWeb (auctionResultNonce : String)
    (highScore : Option (AdScore FloatVal)) (maybeBiddingGroupMap : Option BiddingGroupMap)
    (updateGroupMap : UpdateGroupMap) (error : Option AuctionResultError)
    (kanonData : Option (KAnonAuctionResultData FloatVal))
    (perAdtechPaapiContributionsLimit : Int32) : Packaged :=
  let serializedData := encode env.lib env.ord highScore (maybeBiddingGroupMap.getD ∅)
    updateGroupMap ∅ error perAdtechPaapiContributionsLimit auctionResultNonce kanonData
  match serializedData.result with
  | .ok bytes => env.packageAuctionResultCiphertext (.web bytes)
  | .error .badStatusOrAccess => .unanswered
  | .error (.error _ _) => if serializedData.reported.isEmpty then .unanswered else .failed

def packageTopLevelAuctionResultForApp (highScore : Option (AdScore FloatVal))
    (error : Option AuctionResultError) (kanonData : Option (KAnonAuctionResultData FloatVal)) :
    Packaged :=
  let result := mapAdScoreToAuctionResult highScore error kanonData
  env.packageAuctionResultCiphertext <| .app <| highScore.elim result fun highScore =>
    { result with
      auctionParams := { result.auctionParams with componentSeller := highScore.seller } }

def createNonChaffAuctionResultCiphertext (auctionResultNonce : String)
    (adScore : AdScore FloatVal) (biddingGroupMap : BiddingGroupMap)
    (updateGroupMap : UpdateGroupMap) (clientType : ClientType)
    (kanonData : Option (KAnonAuctionResultData FloatVal)) : Packaged :=
  match clientType with
  | .android => env.packageTopLevelAuctionResultForApp (some adScore) none kanonData
  | .browser => env.packageAuctionResultForWeb auctionResultNonce (some adScore)
      (some biddingGroupMap) updateGroupMap none kanonData 0
  | .unknown => .failed

def createChaffAuctionResultCiphertext (auctionResultNonce : String) (clientType : ClientType) :
    Packaged :=
  match clientType with
  | .android => env.packageTopLevelAuctionResultForApp none none none
  | .browser => env.packageAuctionResultForWeb auctionResultNonce none none ∅ none none 0
  | .unknown => .failed

end ResponseEnv

/-! ## The reactor -/

/-- What the reactor holds when the scoring is done. -/
structure SelectAuctionResultReactor where
  enableKanon : Bool
  clientType : ClientType
  adAuctionResultNonce : String
  componentAuctionBiddingGroups : List BiddingGroupMap
  componentAuctionUpdateGroups : UpdateGroupMap

def finishWithResponse : Packaged → SelectAdAnswer
  | .ciphertext plaintext => .response plaintext
  | .failed => .status ⟨kInternal, kInternalServerError⟩
  | .unanswered => .unanswered

def hasWinner (response : ScoreAdsRawResponse FloatVal) : Bool :=
  response.adScore.any fun adScore => 0 < adScore.buyerBid

/-- `score_ad_response->ad_score()`, which need not be set. -/
def adScoreOf (response : ScoreAdsRawResponse FloatVal) : AdScore FloatVal :=
  response.adScore.getD .unset

def kanonDataOf (enableKanon : Bool) (response : ScoreAdsRawResponse FloatVal) :
    Option (KAnonAuctionResultData FloatVal) :=
  if enableKanon && (!response.ghostWinningAdScores.isEmpty ||
      !((adScoreOf response).kAnonJoinCandidate.getD {}).adRenderUrlHash.isEmpty) then
    some (getTopLevelKAnonAuctionResultData
      (if hasWinner response then some (adScoreOf response) else none)
      response.ghostWinningAdScores)
  else none

def SelectAuctionResultReactor.onScoreAdsDone (reactor : SelectAuctionResultReactor)
    (env : ResponseEnv) (response : Except GrpcStatus (ScoreAdsRawResponse FloatVal)) :
    SelectAdAnswer :=
  let chaff := finishWithResponse <|
    env.createChaffAuctionResultCiphertext reactor.adAuctionResultNonce reactor.clientType
  match response with
  | .error status =>
    -- only an internal error is hidden from the seller
    if status.code ≠ kInternal then .status status else chaff
  | .ok response =>
    if hasWinner response || (reactor.enableKanon && !response.ghostWinningAdScores.isEmpty) then
      finishWithResponse <| env.createNonChaffAuctionResultCiphertext
        reactor.adAuctionResultNonce (adScoreOf response)
        (getBuyerIgsWithBidsMap reactor.componentAuctionBiddingGroups)
        reactor.componentAuctionUpdateGroups reactor.clientType
        (kanonDataOf reactor.enableKanon response)
    else chaff

/-! ## What the client sees -/

/-- The client is sent a winning ad: the result is neither chaff nor an error. -/
def EncodesWinningAd (lib : LibCbor) : AuctionResultPlaintext → Prop
  | .app result => result.isChaff = false ∧ result.error = none
  | .web serializedData => ∃ root, lib.load serializedData = some root ∧
      (.text kChaff, .bool false) ∈ cborMapHandle root

def CarriesGhostWinners (lib : LibCbor) (ghosts : List (AdScore FloatVal)) :
    AuctionResultPlaintext → Prop
  | .app result => result.kAnonGhostWinners = ghosts.map topLevelGhostWinnerOf
  | .web serializedData => ∃ root items, lib.load serializedData = some root ∧
      (ghosts.map topLevelGhostWinnerOf).mapM (ghostItem lib) = some items ∧
      (.text kKAnonGhostWinners, .array items) ∈ cborMapHandle root

def ScoredWinner (response : Except GrpcStatus (ScoreAdsRawResponse FloatVal)) : Prop :=
  ∃ scored, response = .ok scored ∧ hasWinner scored = true

def scoredGhosts (response : Except GrpcStatus (ScoreAdsRawResponse FloatVal)) :
    List (AdScore FloatVal) :=
  (response.toOption.map fun scored => scored.ghostWinningAdScores).getD []

/-- The result tells what the scoring came to. -/
structure AnswersTruthfully (lib : LibCbor)
    (response : Except GrpcStatus (ScoreAdsRawResponse FloatVal))
    (plaintext : AuctionResultPlaintext) : Prop where
  winningAd : EncodesWinningAd lib plaintext ↔ ScoredWinner response
  ghostWinners : ¬ ScoredWinner response → scoredGhosts response ≠ [] →
    CarriesGhostWinners lib (scoredGhosts response) plaintext

/-! ## Either kind of result -/

theorem finishWithResponse_eq {packaged : Packaged} {plaintext : AuctionResultPlaintext}
    (h : finishWithResponse packaged = .response plaintext) : packaged = .ciphertext plaintext := by
  cases packaged with
  | ciphertext plaintext' =>
    cases h
    rfl
  | failed => cases h
  | unanswered => cases h

section

variable {env : ResponseEnv} {plaintext : AuctionResultPlaintext}

theorem packageAuctionResultCiphertext_eq {made : AuctionResultPlaintext}
    (h : env.packageAuctionResultCiphertext made = .ciphertext plaintext) : plaintext = made := by
  unfold ResponseEnv.packageAuctionResultCiphertext at h
  split at h
  · exact (Packaged.ciphertext.inj h).symm
  · cases h

theorem packageAuctionResultForWeb_eq (hlib : env.lib.Faithful) {nonce : String}
    {highScore : Option (AdScore FloatVal)} {biddingGroupMap : Option BiddingGroupMap}
    {updateGroupMap : UpdateGroupMap} {error : Option AuctionResultError}
    {kanonData : Option (KAnonAuctionResultData FloatVal)} {limit : Int32}
    (h : env.packageAuctionResultForWeb nonce highScore biddingGroupMap updateGroupMap error
      kanonData limit = .ciphertext plaintext) :
    ∃ bytes fs, plaintext = .web bytes ∧ env.lib.load bytes = some (Item.record fs) ∧
      encodedFields env.lib env.ord highScore (biddingGroupMap.getD ∅) updateGroupMap ∅ error limit
        nonce kanonData = some fs := by
  unfold ResponseEnv.packageAuctionResultForWeb at h
  dsimp only at h
  cases hresult : (encode env.lib env.ord highScore (biddingGroupMap.getD ∅) updateGroupMap ∅
      error limit nonce kanonData).result with
  | ok bytes =>
    rw [hresult] at h
    obtain ⟨fs, hfs, hbytes⟩ := encode_ok _ _ _ _ _ _ _ _ _ _ hresult
    exact ⟨bytes, fs, packageAuctionResultCiphertext_eq h, hlib _ _ hbytes, hfs⟩
  | error status =>
    rw [hresult] at h
    cases status with
    | error code message =>
      dsimp only at h
      split at h <;> cases h
    | badStatusOrAccess => cases h

theorem nonChaff_encodesWinningAd (hlib : env.lib.Faithful) {nonce : String}
    {adScore : AdScore FloatVal} {biddingGroupMap : BiddingGroupMap}
    {updateGroupMap : UpdateGroupMap} {clientType : ClientType}
    {kanonData : Option (KAnonAuctionResultData FloatVal)}
    (h : env.createNonChaffAuctionResultCiphertext nonce adScore biddingGroupMap updateGroupMap
      clientType kanonData = .ciphertext plaintext) : EncodesWinningAd env.lib plaintext := by
  cases clientType with
  | unknown => cases h
  | android =>
    rw [packageAuctionResultCiphertext_eq h]
    exact ⟨rfl, rfl⟩
  | browser =>
    obtain ⟨bytes, fs, rfl, hload, hfs⟩ := packageAuctionResultForWeb_eq hlib h
    refine ⟨Item.record fs, hload, mem_cborMapHandle_record.mpr ?_⟩
    have hpiece : some [(kChaff, Item.bool false)] ∈ scoreAdPieces env.lib env.ord adScore
        ((some biddingGroupMap).getD ∅) updateGroupMap ∅ 0 nonce kanonData := by
      unfold scoreAdPieces
      simp
    exact Fields.mem_join hfs hpiece (List.mem_singleton_self _)

theorem encodedFields_chaff {lib : LibCbor} {ord : HashOrder} {nonce : String} {fs : Fields}
    (h : encodedFields lib ord none ∅ ∅ ∅ none 0 nonce none = some fs) {f : String × Item}
    (hf : f ∈ fs) : f.1 = kAdAuctionResultNonce ∨ f = (kChaff, .bool true) := by
  have hfs : some (ifNonempty kAdAuctionResultNonce nonce ++ [(kChaff, .bool true)]) = some fs := h
  rw [← Option.some.inj hfs] at hf
  rcases List.mem_append.mp hf with hf | hf
  · left
    unfold ifNonempty at hf
    split at hf
    · rw [List.mem_singleton.mp hf]
    · cases hf
  · exact Or.inr (List.mem_singleton.mp hf)

theorem chaff_not_encodesWinningAd (hlib : env.lib.Faithful) {nonce : String}
    {clientType : ClientType}
    (h : env.createChaffAuctionResultCiphertext nonce clientType = .ciphertext plaintext) :
    ¬ EncodesWinningAd env.lib plaintext := by
  cases clientType with
  | unknown => cases h
  | android =>
    rw [packageAuctionResultCiphertext_eq h]
    rintro ⟨hchaff, -⟩
    cases hchaff
  | browser =>
    obtain ⟨bytes, fs, rfl, hload, hfs⟩ := packageAuctionResultForWeb_eq hlib h
    rintro ⟨root, hroot, hmem⟩
    rw [hload] at hroot
    rw [← Option.some.inj hroot, mem_cborMapHandle_record] at hmem
    rcases encodedFields_chaff hfs hmem with hkey | hfield
    · exact absurd hkey (by decide)
    · exact absurd hfield (by simp)

theorem chaff_not_carriesGhostWinners (hlib : env.lib.Faithful) {nonce : String}
    {clientType : ClientType}
    (h : env.createChaffAuctionResultCiphertext nonce clientType = .ciphertext plaintext)
    {ghosts : List (AdScore FloatVal)} (hghosts : ghosts ≠ []) :
    ¬ CarriesGhostWinners env.lib ghosts plaintext := by
  cases clientType with
  | unknown => cases h
  | android =>
    rw [packageAuctionResultCiphertext_eq h]
    intro hcarries
    exact hghosts (List.map_eq_nil_iff.mp (Eq.symm hcarries))
  | browser =>
    obtain ⟨bytes, fs, rfl, hload, hfs⟩ := packageAuctionResultForWeb_eq hlib h
    rintro ⟨root, items, hroot, -, hmem⟩
    rw [hload] at hroot
    rw [← Option.some.inj hroot, mem_cborMapHandle_record] at hmem
    have hkeys : kKAnonGhostWinners ≠ kAdAuctionResultNonce ∧ kKAnonGhostWinners ≠ kChaff := by
      decide
    rcases encodedFields_chaff hfs hmem with hkey | hfield
    · exact hkeys.1 hkey
    · exact hkeys.2 (congrArg Prod.fst hfield)

end

/-! ## Truthful answers -/

/-- The answer is truthful just when there is a winner or no ghost winner. Where only
ghost winners are left, the builder of winners is handed an ad score that was never
set; and where they were not asked for, they are dropped. -/
theorem onScoreAdsDone_truthful_iff (reactor : SelectAuctionResultReactor) (env : ResponseEnv)
    (hlib : env.lib.Faithful) {response : Except GrpcStatus (ScoreAdsRawResponse FloatVal)}
    {plaintext : AuctionResultPlaintext}
    (h : reactor.onScoreAdsDone env response = .response plaintext) :
    AnswersTruthfully env.lib response plaintext ↔
      ScoredWinner response ∨ scoredGhosts response = [] := by
  unfold SelectAuctionResultReactor.onScoreAdsDone at h
  cases response with
  | error status =>
    dsimp only at h
    split at h
    · cases h
    · -- an internal error is answered with chaff
      have hchaff := finishWithResponse_eq h
      have hnone : ¬ ScoredWinner (.error status) := by
        rintro ⟨scored, heq, -⟩
        cases heq
      refine ⟨fun _ => Or.inr rfl, fun _ => ⟨?_, fun _ hghosts => absurd rfl hghosts⟩⟩
      exact iff_of_false (chaff_not_encodesWinningAd hlib hchaff) hnone
  | ok scored =>
    dsimp only at h
    have hscored : ScoredWinner (.ok scored) ↔ hasWinner scored = true := by
      constructor
      · rintro ⟨scored', heq, hwinner⟩
        rw [Except.ok.inj heq]
        exact hwinner
      · intro hwinner
        exact ⟨scored, rfl, hwinner⟩
    have hghosts : scoredGhosts (.ok scored) = scored.ghostWinningAdScores := rfl
    by_cases hwinner : hasWinner scored = true
    · -- a winner is encoded
      rw [hwinner, Bool.true_or, if_pos rfl] at h
      have hencodes := nonChaff_encodesWinningAd hlib (finishWithResponse_eq h)
      refine iff_of_true ⟨iff_of_true hencodes (hscored.mpr hwinner), ?_⟩
        (Or.inl (hscored.mpr hwinner))
      intro hnone
      exact absurd (hscored.mpr hwinner) hnone
    · have hnone : ¬ ScoredWinner (.ok scored) := fun hsome => hwinner (hscored.mp hsome)
      rw [or_iff_right hnone, hghosts]
      by_cases hempty : scored.ghostWinningAdScores = []
      · -- nobody won: chaff
        rw [eq_false_of_ne_true hwinner, hempty, List.isEmpty_nil, Bool.not_true, Bool.and_false,
          Bool.or_false, if_neg Bool.false_ne_true] at h
        have hchaff := chaff_not_encodesWinningAd hlib (finishWithResponse_eq h)
        refine iff_of_true ⟨iff_of_false hchaff hnone, ?_⟩ hempty
        intro _ hne
        exact absurd hempty hne
      · refine iff_of_false ?_ hempty
        intro htruthful
        split at h
        · -- only ghost winners, and the score that was never set goes out as a winner
          have hencodes := nonChaff_encodesWinningAd hlib (finishWithResponse_eq h)
          exact hnone (htruthful.winningAd.mp hencodes)
        · -- only ghost winners that nobody asked for
          exact chaff_not_carriesGhostWinners hlib (finishWithResponse_eq h) hempty
            (htruthful.ghostWinners hnone hempty)

/-! ### Answers -/

def chaffBytes : Bytes := [0xA1, 0x67, 0x69, 0x73, 0x43, 0x68, 0x61, 0x66, 0x66, 0xF5]

def chaffLib : LibCbor where
  half v := v
  lowWord v := v
  serialize
    | .map [(.text "isChaff", .bool true)] => some chaffBytes
    | _ => none
  load bytes := if bytes = chaffBytes then some (.map [(.text "isChaff", .bool true)]) else none

def chaffEnv : ResponseEnv where
  lib := chaffLib
  ord := .stored
  packages _ := true

theorem chaffLib_faithful : chaffLib.Faithful := by
  intro item bytes h
  simp only [chaffLib] at h
  split at h
  · cases h
    rfl
  · cases h

def reactorFor (clientType : ClientType) : SelectAuctionResultReactor where
  enableKanon := true
  clientType := clientType
  adAuctionResultNonce := ""
  componentAuctionBiddingGroups := []
  componentAuctionUpdateGroups := ∅

theorem noWinner_answered_truthfully :
    AnswersTruthfully chaffLib (.ok {}) (.web chaffBytes) :=
  (onScoreAdsDone_truthful_iff (reactorFor .browser) chaffEnv chaffLib_faithful rfl).mpr
    (Or.inr rfl)

/-- The outcome of an auction with nothing but a ghost winner. -/
def onlyGhostWinner : Except GrpcStatus (ScoreAdsRawResponse FloatVal) :=
  .ok { ghostWinningAdScores := [{ AdScore.unset with
    buyerBid := .fin 1
    desirability := .fin 1
    interestGroupOwner := "https://buyer.com"
    render := "https://ad.com"
    kAnonJoinCandidate := some { adRenderUrlHash := [1] } }] }

/-- An app is told of a winner where there are only ghost winners. -/
theorem onlyGhostWinner_answered_as_winner :
    ∃ plaintext,
      (reactorFor .android).onScoreAdsDone chaffEnv onlyGhostWinner = .response plaintext ∧
      ¬ AnswersTruthfully chaffLib onlyGhostWinner plaintext := by
  refine ⟨_, rfl, ?_⟩
  intro htruthful
  obtain ⟨scored, heq, hwinner⟩ := htruthful.winningAd.mp ⟨rfl, rfl⟩
  cases heq
  cases hwinner

end BiddingAuction

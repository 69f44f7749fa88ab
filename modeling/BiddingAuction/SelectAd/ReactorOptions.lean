import BiddingAuction.Chaffing.Transcoding
import BiddingAuction.SelectAd.BuyerInputErrors
import BiddingAuction.SelectAd.Processing
import BiddingAuction.SelectAd.ScoringRequest

/-!
# The options of a server in its two reactors

The reactors for an app and for a browser pass their options to the class they share by
position. The app's leaves out two of them, so that those after the first left out land in the
places of others.
-/

namespace BiddingAuction

open Foundation
open Transcoding (CompressionType)
open Foundation.Cbor (FloatVal)
open LoadedInput (CborItem Decoding returnIfPrevErrors)

namespace SelectAd

/-! ## The constructors -/

/-- The options that both reactors are made with. -/
structure ReactorOptions where
  enableBuyerPrivateAggregateReporting : Bool := false
  perAdtechPaapiContributionsLimit : Int32 := 0
  failFast : Bool := true
  sfeBfeCompressionAlgo : CompressionType := .gzip
deriving DecidableEq, Repr

/-- What the members of the class they share are set to. -/
structure ReactorMembers extends ReactorOptions where
  maxBuyersSolicited : Int32
deriving DecidableEq, Repr

def kMaxBuyersSolicited : Int32 := 2

/-- `SelectAdReactor::SelectAdReactor`, with its defaults. -/
def selectAdReactor (enableBuyerPrivateAggregateReporting : Bool := false)
    (perAdtechPaapiContributionsLimit : Int32 := 0) (failFast : Bool := true)
    (maxBuyersSolicited : Int32 := kMaxBuyersSolicited)
    (sfeBfeCompressionAlgo : CompressionType := .gzip) : ReactorMembers where
  enableBuyerPrivateAggregateReporting := enableBuyerPrivateAggregateReporting
  perAdtechPaapiContributionsLimit := perAdtechPaapiContributionsLimit
  failFast := failFast
  sfeBfeCompressionAlgo := sfeBfeCompressionAlgo
  maxBuyersSolicited := maxBuyersSolicited

/-- An enumerator where a `bool` is expected. -/
def boolOf (compressionType : CompressionType) : Bool := compressionType.toUInt8 ≠ 0

def selectAdReactorForApp (o : ReactorOptions) : ReactorMembers :=
  selectAdReactor o.failFast kMaxBuyersSolicited (boolOf o.sfeBfeCompressionAlgo)

def selectAdReactorForWeb (o : ReactorOptions) (maxBuyersSolicited : Int32 := 2) :
    ReactorMembers :=
  selectAdReactor o.enableBuyerPrivateAggregateReporting o.perAdtechPaapiContributionsLimit
    o.failFast maxBuyersSolicited o.sfeBfeCompressionAlgo

inductive Client where
  | app
  | web
deriving DecidableEq, Repr

def Client.clientType : Client → ClientType
  | app => .android
  | web => .browser

def Client.members (o : ReactorOptions) : Client → ReactorMembers
  | app => selectAdReactorForApp o
  | web => selectAdReactorForWeb o

/-! ## What the members decide -/

def ConfiguredReactor.madeWith (r : ConfiguredReactor) (members : ReactorMembers)
    (client : Client) : ConfiguredReactor :=
  { r with
    clientType := client.clientType
    server := { r.server with
      enableBuyerPrivateAggregateReporting := fun _ => members.enableBuyerPrivateAggregateReporting
      perAdtechPaapiContributionsLimit := members.perAdtechPaapiContributionsLimit } }

structure RequestConfig where
  minimumRequestSize : ℤ := 0
  compressionType : CompressionType := .uncompressed
  isChaffRequest : Bool := false
deriving DecidableEq, Repr

/-- `MovingMedianManager`, as it is asked for the window and the median of a buyer. -/
structure MovingMedianManager where
  isWindowFilled : String → Option Bool
  getMedian : String → Option ℤ

def kMinChaffRequestSizeBytes : ℤ := 9000
def kMaxChaffRequestSizeBytes : ℤ := 95000
def kChaffingV2UnfilledWindowRequestSizeBytes : ℤ := 100000

def getChaffingV1GetBidsRequestConfig (isChaffRequest : Bool) (rng : RandomNumberGenerator)
    (sfeBfeCompressionAlgo : CompressionType) : RequestConfig where
  minimumRequestSize :=
    if isChaffRequest then
      rng.getUniformInt kMinChaffRequestSizeBytes kMaxChaffRequestSizeBytes
    else 0
  compressionType := sfeBfeCompressionAlgo
  isChaffRequest := isChaffRequest

def getChaffingV2GetBidsRequestConfig (buyerName : String) (isChaffRequest : Bool)
    (movingMedianManager : MovingMedianManager) (sfeBfeCompressionAlgo : CompressionType) :
    RequestConfig where
  minimumRequestSize :=
    match movingMedianManager.isWindowFilled buyerName with
    | none => kChaffingV2UnfilledWindowRequestSizeBytes
    | some isWindowFilled =>
      if isChaffRequest then
        match movingMedianManager.getMedian buyerName with
        | none => kChaffingV2UnfilledWindowRequestSizeBytes
        | some median =>
          if isWindowFilled then median else kChaffingV2UnfilledWindowRequestSizeBytes
      else if isWindowFilled then 0
      else kChaffingV2UnfilledWindowRequestSizeBytes
  compressionType := sfeBfeCompressionAlgo
  isChaffRequest := isChaffRequest

/-- `FetchBid`: how a call is made. -/
def fetchBidConfig (members : ReactorMembers) (movingMedianManager : MovingMedianManager)
    (r : ConfiguredReactor) (call : SentGetBids) : RequestConfig :=
  if r.server.chaffingEnabled && !r.server.chaffingV2Enabled && r.rpcSetup.hasRng then
    getChaffingV1GetBidsRequestConfig call.request.isChaff r.decrypted.rng
      members.sfeBfeCompressionAlgo
  else if r.server.chaffingEnabled && r.server.chaffingV2Enabled then
    getChaffingV2GetBidsRequestConfig call.buyerName call.request.isChaff movingMedianManager
      members.sfeBfeCompressionAlgo
  else { compressionType := members.sfeBfeCompressionAlgo }

/-! ## Decoding the inputs -/

/-- The libraries that an input is decoded with: of an app it is a message, of a browser CBOR. -/
structure InputCodec where
  lib : Library
  gzipDecompress : Bytes → Option Bytes
  parseFromArray : Bytes → Option BuyerInput
  cborLoad : Bytes → Option CborItem

def kBadCompressedBuyerInput (owner : String) :=
  "Unable to decompress buyer input for buyer: " ++ owner

def kBadBuyerInputProto (owner : String) :=
  "Unable to decode BuyerInput binary proto for buyer: " ++ owner

/-- The inputs decoded so far, and the errors. -/
abbrev DecodedBuyerInputs := Decoding (FlatHashMap String BuyerInputForBidding)

section Decode

variable (codec : InputCodec) (failFast : Bool)

/-- One turn of the loop of `SelectAdReactorForApp::GetDecodedBuyerinputs`. -/
def decodeForApp (s : DecodedBuyerInputs) (encoded : String × Bytes) : DecodedBuyerInputs :=
  match codec.gzipDecompress encoded.2 with
  | none => ⟨s.value, s.errors ++ [kBadCompressedBuyerInput encoded.1]⟩
  | some decompressedBuyerInput =>
    match codec.parseFromArray decompressedBuyerInput with
    | none => ⟨s.value, s.errors ++ [kBadBuyerInputProto encoded.1]⟩
    | some buyerInput =>
      ⟨FlatHashMap.emplace s.value encoded.1 (toBuyerInputForBidding codec.lib buyerInput),
        s.errors⟩

/-- One turn of the loop of `DecodeBuyerInputs`. -/
def decodeForWeb (s : DecodedBuyerInputs) (encoded : String × Bytes) :
    Option (Flow DecodedBuyerInputs) :=
  (LoadedInput.decodeBuyerInput codec.lib failFast codec.gzipDecompress codec.cborLoad encoded.1
    encoded.2 s.errors).bind fun buyerInput =>
      returnIfPrevErrors failFast ⟨s.value, buyerInput.errors⟩ <|
        some (.next ⟨FlatHashMap.emplace s.value encoded.1 buyerInput.value, buyerInput.errors⟩)

/-- One turn of the loop over the inputs; the app's does not look at `fail_fast_`. -/
def Client.decodeNext : Client → DecodedBuyerInputs → String × Bytes →
    Option (Flow DecodedBuyerInputs)
  | app, s, encoded => some (.next (decodeForApp codec s encoded))
  | web, s, encoded => decodeForWeb codec failFast s encoded

def Client.getDecodedBuyerinputs (client : Client) (encodedBuyerInputs : List (String × Bytes)) :
    Option DecodedBuyerInputs :=
  (loopOrReturn (client.decodeNext codec failFast) ⟨∅, []⟩ encodedBuyerInputs).map Flow.state

end Decode

/-! ## The contributions that are sent -/

/-- The contributions of an adtech in the response to a device, whose auction is that of a
single seller. The limit is not passed on where the response is a message. -/
def ConfiguredReactor.contributionsSent (r : ConfiguredReactor) (done : ScoreAdsDone ℚ)
    (adtechOrigin : String) : List (PrivateAggregateContribution FloatVal) :=
  if r.clientType = .android then
    contributionsOf adtechOrigin (r.auctionResult done ∅).topLevelContributions
  else
    match r.clientVisibleError, done.highScore.map AdScore.asFloats with
    | none, some highScore =>
      ((groupContributionsByAdTech r.server.perAdtechPaapiContributionsLimit
        highScore.topLevelContributions).lookup adtechOrigin).getD []
    | _, _ => []

end SelectAd

end BiddingAuction

/-!
# Whether the options are honoured

The browser's reactor honours every option. The app's asks the buyers the same, but with the
compression that is the default, with private aggregation switched by the fail-fast option,
without ever stopping at an error of the decoding, and without a limit on contributions.
-/

namespace BiddingAuction

open Foundation
open Transcoding (CompressionType)
open LoadedInput (Decoding returnIfPrevErrors)

namespace SelectAd

/-! ## What the options promise -/

/-- A browser's request decodes to the input as well as an app's: it has no signals of apps, and
unlimited egress, which is not decoded for browsers, is off. -/
structure DecodesForBoth (r : ConfiguredReactor) : Prop where
  noSignals : ∀ owner input, r.decrypted.buyerInputs.lookup owner = some input →
    input.protectedAppSignals = none
  noUnlimitedEgress : r.decrypted.protectedAuctionInput.enableUnlimitedEgress = false

def withoutEmptySignals (input : BuyerInput) : BuyerInput :=
  { input with protectedAppSignals := input.protectedAppSignals.filter (· ≠ {}) }

/-- A call less the kind of client and the fields that the app's reactor overrides. The browser's
reactor leaves the empty message that `ToBuyerInput` makes, which the app's clears. -/
def withoutDebugFields (sent : SentGetBids) : SentGetBids :=
  { sent with request := { sent.request with
      buyerInput := sent.request.buyerInput.map withoutEmptySignals
      clientType := .unknown
      enableDebugReporting := false
      enableSampledDebugReporting := false
      isDebugEligible := false } }

def StopsAtErrors (decode : List (String × Bytes) → Option DecodedBuyerInputs) : Prop :=
  ∀ before after s, decode before = some s → s.errors ≠ [] → decode (before ++ after) = some s

def GoesOn (decodeNext : DecodedBuyerInputs → String × Bytes → Option (Flow DecodedBuyerInputs))
    (decode : List (String × Bytes) → Option DecodedBuyerInputs) : Prop :=
  ∀ before encoded, decode (before ++ [encoded]) =
    (decode before).bind fun s => (decodeNext s encoded).map Flow.state

def Client.made (client : Client) (o : ReactorOptions) (r : ConfiguredReactor) :
    ConfiguredReactor :=
  r.madeWith (client.members o) client

def SameRequests (o : ReactorOptions) : Prop :=
  ∀ r, DecodesForBoth r →
    (Client.app.made o r).getBidsRequests.map withoutDebugFields =
      (Client.web.made o r).getBidsRequests.map withoutDebugFields

def UsesCompression (o : ReactorOptions) (client : Client) : Prop :=
  ∀ manager r, ∀ call ∈ (client.made o r).getBidsRequests,
    (fetchBidConfig (client.members o) manager (client.made o r) call).compressionType =
      o.sfeBfeCompressionAlgo

/-- The decoding of the inputs stops or goes on at errors by the rule of the options. -/
def FollowsFailFast (o : ReactorOptions) (client : Client) : Prop :=
  ∀ codec,
    let failFast := (client.members o).failFast
    if o.failFast then StopsAtErrors (client.getDecodedBuyerinputs codec failFast)
    else GoesOn (client.decodeNext codec failFast) (client.getDecodedBuyerinputs codec failFast)

/-- What the scores come to is what they come to under the switch of the options. -/
def FollowsSwitch (o : ReactorOptions) (client : Client) : Prop :=
  ∀ (r : ConfiguredReactor) bids interestGroupIndexMap (reply : ScoreAdsReply),
    (client.made o r).scoresDone bids interestGroupIndexMap reply =
      onScoreAdsDone r.server.ops o.enableBuyerPrivateAggregateReporting interestGroupIndexMap
        (r.reactor bids).sharedBuyerBidsMap reply.toScoreAdsRawResponse

/-- A device is sent no more contributions of an adtech than the options allow. -/
def KeepsLimit (o : ReactorOptions) (client : Client) : Prop :=
  ∀ (r : ConfiguredReactor) done adtechOrigin, r.auctionScope = .singleSeller →
    ((client.made o r).contributionsSent done adtechOrigin).length ≤
      contributionsLimit o.perAdtechPaapiContributionsLimit

/-- The reactor for a client honours the options it is made with. -/
structure HonouredBy (o : ReactorOptions) (client : Client) : Prop where
  compression : UsesCompression o client
  failFast : FollowsFailFast o client
  privateAggregation : FollowsSwitch o client
  limit : KeepsLimit o client

/-- Both reactors honour them, and ask the buyers the same. -/
structure Honours (o : ReactorOptions) : Prop where
  requests : SameRequests o
  app : HonouredBy o .app
  web : HonouredBy o .web

/-! ## The requests -/

section Requests

variable {o : ReactorOptions} {r : ConfiguredReactor}

def clearSignals {Browser : Type} (input : BuyerInputOf Browser) : BuyerInputOf Browser :=
  { input with protectedAppSignals := none }

theorem mayPopulate_of_noSignals (u : Setup) (buyer : String) {request : GetBidsRawRequest}
    (hinput : ∀ input ∈ request.buyerInput,
      Setup.hasAppInstallSignals input.protectedAppSignals = false)
    (hforBidding : ∀ input ∈ request.buyerInputForBidding, input.protectedAppSignals = none) :
    u.mayPopulateProtectedAppSignalsBuyerInput buyer request =
      { request with buyerInput := request.buyerInput.map clearSignals } := by
  have hsame : request.buyerInputForBidding.map clearSignals = request.buyerInputForBidding := by
    cases hsome : request.buyerInputForBidding with
    | none => rfl
    | some input =>
      have hnone := hforBidding input hsome
      cases input
      cases hnone
      rfl
  have hsignals : Setup.hasAppInstallSignals
      (request.buyerInput.bind BuyerInputOf.protectedAppSignals) = false := by
    cases hsome : request.buyerInput with
    | none => rfl
    | some input => exact hinput input hsome
  unfold Setup.mayPopulateProtectedAppSignalsBuyerInput
  dsimp only
  rw [hsignals]
  split
  · show ({ request with
      buyerInput := request.buyerInput.map clearSignals
      buyerInputForBidding := request.buyerInputForBidding.map clearSignals } :
        GetBidsRawRequest) = _
    rw [hsame]
  · rfl

theorem createGetBidsRequest_clientType (u : Setup) (clientType : ClientType) (buyer : String)
    (input : BuyerInputForBidding) :
    u.createGetBidsRequest clientType buyer input =
      { u.createGetBidsRequest .unknown buyer input with clientType := clientType } := by
  unfold Setup.createGetBidsRequest
  dsimp only
  split <;> rfl

theorem createGetBidsRequest_inputs (u : Setup) (clientType : ClientType) (buyer : String)
    (input : BuyerInputForBidding) :
    (u.createGetBidsRequest clientType buyer input).buyerInput = some (toBuyerInput input) ∧
      (u.createGetBidsRequest clientType buyer input).buyerInputForBidding =
        some (u.clearInterestGroups input) := by
  unfold Setup.createGetBidsRequest
  dsimp only
  split <;> exact ⟨rfl, rfl⟩

theorem createGetBidsRequestForApp_of_noSignals (u : Setup) (buyer : String)
    {input : BuyerInputForBidding} (hnone : input.protectedAppSignals = none) :
    u.createGetBidsRequestForApp buyer input =
      { u.createGetBidsRequest .android buyer input with
        buyerInput := some (clearSignals (toBuyerInput input))
        enableDebugReporting := false
        enableSampledDebugReporting := false
        isDebugEligible :=
          (u.createGetBidsRequest .android buyer input).enableUnlimitedEgress } := by
  obtain ⟨hinput, hforBidding⟩ := createGetBidsRequest_inputs u .android buyer input
  unfold Setup.createGetBidsRequestForApp
  refine (mayPopulate_of_noSignals u buyer (fun sent hsent => ?_) fun sent hsent => ?_).trans ?_
  · dsimp only at hsent
    rw [hinput] at hsent
    cases hsent
    unfold toBuyerInput
    rw [hnone]
    rfl
  · dsimp only at hsent
    rw [hforBidding] at hsent
    cases hsent
    unfold Setup.clearInterestGroups
    split <;> exact hnone
  · rw [hinput]
    rfl

/-- The message that `ToBuyerInput` makes of no signals is empty. -/
theorem withoutEmptySignals_toBuyerInput {input : BuyerInputForBidding}
    (hnone : input.protectedAppSignals = none) :
    withoutEmptySignals (toBuyerInput input) =
      withoutEmptySignals (clearSignals (toBuyerInput input)) := by
  unfold toBuyerInput
  rw [hnone]
  rfl

theorem sameRequest (hboth : DecodesForBoth r) (request : BuyerGetBidsRequest) (timeoutMs : Int32) :
    withoutDebugFields
        ⟨request.buyerName, timeoutMs, (Client.app.made o r).getBidsRequest request⟩ =
      withoutDebugFields
        ⟨request.buyerName, timeoutMs, (Client.web.made o r).getBidsRequest request⟩ := by
  unfold ConfiguredReactor.getBidsRequest
  by_cases hchaff : request.isChaff = true
  · rw [if_pos hchaff, if_pos hchaff]
    rfl
  · rw [if_neg hchaff, if_neg hchaff]
    have hnone : ((r.decrypted.buyerInputs.lookup request.buyerName).getD
        {}).protectedAppSignals = none := by
      cases hlookup : r.decrypted.buyerInputs.lookup request.buyerName with
      | none => rfl
      | some input => exact hboth.noSignals _ _ hlookup
    generalize hinput : (r.decrypted.buyerInputs.lookup request.buyerName).getD {} = input at hnone
    have hmade : ∀ client : Client,
        ((client.made o r).decrypted.buyerInputs.lookup request.buyerName).getD {} = input :=
      fun _ => hinput
    rw [hmade, hmade]
    show withoutDebugFields ⟨_, _, r.setup.createGetBidsRequestForApp _ _⟩ =
      withoutDebugFields ⟨_, _, r.setup.createGetBidsRequest .browser _ _⟩
    rw [createGetBidsRequestForApp_of_noSignals _ _ hnone]
    unfold withoutDebugFields
    dsimp only
    rw [(createGetBidsRequest_inputs r.setup .browser _ input).1, Option.map_some,
      Option.map_some, withoutEmptySignals_toBuyerInput hnone,
      createGetBidsRequest_clientType _ .android, createGetBidsRequest_clientType _ .browser]

theorem rpcSetup_made (hboth : DecodesForBoth r) (client : Client) :
    (client.made o r).rpcSetup.toSelectAdSetup =
      { r.rpcSetup.toSelectAdSetup with isDebugEligible := false } := by
  have hoff : (client.made o r).decrypted.protectedAuctionInput.enableUnlimitedEgress = false :=
    hboth.noUnlimitedEgress
  unfold ConfiguredReactor.rpcSetup
  dsimp only
  rw [hoff, Bool.and_false]
  rfl

theorem sameRequests (o : ReactorOptions) : SameRequests o := by
  intro r hboth
  have hasked : (Client.app.made o r).buyersAsked = (Client.web.made o r).buyersAsked := by
    unfold ConfiguredReactor.buyersAsked
    rw [rpcSetup_made hboth, rpcSetup_made hboth]
    rfl
  unfold ConfiguredReactor.getBidsRequests
  rw [List.map_map, List.map_map, hasked]
  exact List.map_congr_left fun request _ => sameRequest hboth request _

end Requests

/-! ## Compression -/

theorem compressionType_fetchBidConfig (members : ReactorMembers) (manager : MovingMedianManager)
    (r : ConfiguredReactor) (call : SentGetBids) :
    (fetchBidConfig members manager r call).compressionType = members.sfeBfeCompressionAlgo := by
  unfold fetchBidConfig
  split
  · rfl
  · split <;> rfl

theorem usesCompression_web (o : ReactorOptions) : UsesCompression o .web :=
  fun _ _ _ _ => compressionType_fetchBidConfig ..

theorem mem_buyersAsked_app (o : ReactorOptions) : ⟨"https://buyer.example", false⟩ ∈
    (Client.app.made o Scoring.manyJoinsReactor).buyersAsked := by
  have hsame : (Client.app.made o Scoring.manyJoinsReactor).buyersAsked =
      (Client.app.made {} Scoring.manyJoinsReactor).buyersAsked := rfl
  rw [hsame]
  decide +kernel

theorem usesCompression_app_iff {o : ReactorOptions} :
    UsesCompression o .app ↔ o.sfeBfeCompressionAlgo = .gzip := by
  constructor
  · intro h
    have hcall := h ⟨fun _ => none, fun _ => none⟩ Scoring.manyJoinsReactor
      ⟨"https://buyer.example", 0,
        (Client.app.made o Scoring.manyJoinsReactor).getBidsRequest
          ⟨"https://buyer.example", false⟩⟩
      (List.mem_map.mpr ⟨_, mem_buyersAsked_app o, rfl⟩)
    rw [compressionType_fetchBidConfig] at hcall
    exact hcall.symm
  · intro h _ _ _ _
    rw [compressionType_fetchBidConfig, h]
    rfl

/-! ## Errors of the decoding -/

section Decoding

variable {codec : InputCodec}

theorem decodeForWeb_next {s s' : DecodedBuyerInputs} {encoded : String × Bytes}
    (h : decodeForWeb codec true s encoded = some (.next s')) : s'.errors = [] := by
  unfold decodeForWeb at h
  obtain ⟨buyerInput, -, hflow⟩ := Option.bind_eq_some_iff.mp h
  unfold returnIfPrevErrors at hflow
  split at hflow
  · cases hflow
  · rename_i hnone
    cases hflow
    simpa using hnone

theorem decodeForWeb_isNext {s : DecodedBuyerInputs} {encoded : String × Bytes}
    {flow : Flow DecodedBuyerInputs} (h : decodeForWeb codec false s encoded = some flow) :
    flow.IsNext := by
  unfold decodeForWeb at h
  obtain ⟨buyerInput, -, hflow⟩ := Option.bind_eq_some_iff.mp h
  unfold returnIfPrevErrors at hflow
  rw [Bool.and_false, if_neg Bool.false_ne_true] at hflow
  cases hflow
  trivial

theorem goesOn_of_isNext {client : Client} {failFast : Bool}
    (hnext : ∀ s encoded flow, client.decodeNext codec failFast s encoded = some flow →
      flow.IsNext) :
    GoesOn (client.decodeNext codec failFast) (client.getDecodedBuyerinputs codec failFast) := by
  intro before encoded
  unfold Client.getDecodedBuyerinputs
  rw [loopOrReturn_append]
  cases hrun : loopOrReturn (client.decodeNext codec failFast) ⟨∅, []⟩ before with
  | none => rfl
  | some flow =>
    have hflow := loopOrReturn_isNext hnext hrun
    cases flow with
    | returned s => exact hflow.elim
    | next s =>
      simp only [Option.bind_some, Option.map_some, Flow.state]
      unfold loopOrReturn
      cases hlast : client.decodeNext codec failFast s encoded with
      | none => rfl
      | some last =>
        cases last with
        | next s' => rfl
        | returned s' => rfl

theorem stopsAtErrors_of_next {client : Client} {failFast : Bool}
    (hnext : ∀ s encoded s', client.decodeNext codec failFast s encoded = some (.next s') →
      s'.errors = []) :
    StopsAtErrors (client.getDecodedBuyerinputs codec failFast) := by
  intro before after s hrun herrors
  unfold Client.getDecodedBuyerinputs at *
  obtain ⟨flow, hflow, rfl⟩ := Option.map_eq_some_iff.mp hrun
  rw [loopOrReturn_append, hflow]
  cases flow with
  | next s => exact absurd (loopOrReturn_next_of_body hnext rfl hflow) herrors
  | returned s => rfl

end Decoding

theorem followsFailFast_web (o : ReactorOptions) : FollowsFailFast o .web := by
  intro codec
  show if o.failFast = true then
      StopsAtErrors (Client.web.getDecodedBuyerinputs codec o.failFast)
    else GoesOn (Client.web.decodeNext codec o.failFast)
      (Client.web.getDecodedBuyerinputs codec o.failFast)
  cases o.failFast with
  | true => exact stopsAtErrors_of_next fun _ _ _ h => decodeForWeb_next h
  | false => exact goesOn_of_isNext fun _ _ _ h => decodeForWeb_isNext h

def emptyMessages : InputCodec where
  lib := noDocuments
  gzipDecompress := some
  parseFromArray bytes := if bytes = [] then some {} else none
  cborLoad _ := none

theorem followsFailFast_app_iff {o : ReactorOptions} :
    FollowsFailFast o .app ↔ o.failFast = false := by
  constructor
  · intro h
    by_contra hfast
    have hstops := h emptyMessages
    dsimp only at hstops
    rw [if_pos (Bool.eq_true_of_not_eq_false hfast)] at hstops
    -- a second malformed input is reported as well
    have htwo := hstops [("a", [1])] [("b", [1])] _ rfl (by decide +kernel)
    have hlength := congrArg (Option.map fun s => s.errors.length) htwo
    revert hlength
    generalize (Client.app.members o).failFast = failFast
    cases failFast <;> decide +kernel
  · intro hslow codec
    dsimp only
    rw [hslow]
    refine goesOn_of_isNext fun _ _ _ h => ?_
    cases h
    trivial

/-! ## Private aggregation -/

theorem followsSwitch_web (o : ReactorOptions) : FollowsSwitch o .web := fun _ _ _ _ => rfl

def contributingBid : AdWithBid ℚ where
  bid := 1
  interestGroupName := "shoes"
  privateAggregationContributions :=
    [{ bucket := some (.bucket128Bit [1, 0]), value := some (.intValue 1),
       event := { eventType := .win } }]

/-- What scoring comes to for the bid, won and without a switch that is on or off. -/
def contributingReply : ScoreAdsReply where
  adScore := some (exampleReportedScore none)

def contributingBids : FlatHashMap String BuyerReply :=
  AList.insert "https://buyer.example" { bids := [contributingBid] } ∅

def responsesReported (enableBuyerPrivateAggregateReporting : Bool) : Option ℕ :=
  (onScoreAdsDone Scoring.manyJoinsReactor.server.ops enableBuyerPrivateAggregateReporting
    (AList.insert ⟨"https://buyer.example", "shoes"⟩ 0 ∅)
    (Scoring.manyJoinsReactor.reactor contributingBids).sharedBuyerBidsMap
    contributingReply.toScoreAdsRawResponse).highScore.map fun score =>
      score.topLevelContributions.length

theorem responsesReported_injective : Function.Injective responsesReported := by
  decide +kernel

theorem followsSwitch_app_iff {o : ReactorOptions} :
    FollowsSwitch o .app ↔ o.enableBuyerPrivateAggregateReporting = o.failFast := by
  constructor
  · intro h
    have hdone := h Scoring.manyJoinsReactor contributingBids
      (AList.insert ⟨"https://buyer.example", "shoes"⟩ 0 ∅) contributingReply
    exact (responsesReported_injective (congrArg (fun done => done.highScore.map fun score =>
      score.topLevelContributions.length) hdone)).symm
  · intro h r bids interestGroupIndexMap reply
    rw [h]
    rfl

/-! ## The limit on contributions -/

theorem keepsLimit_web (o : ReactorOptions) : KeepsLimit o .web := by
  intro r done adtechOrigin _
  unfold ConfiguredReactor.contributionsSent
  rw [if_neg (show ¬(Client.web.made o r).clientType = .android from nofun)]
  split
  · rw [lookup_groupContributionsByAdTech]
    split
    · exact List.length_take_le _ _
    · exact Nat.zero_le _
  · exact Nat.zero_le _

def winnerWith (count : ℕ) : ScoreAdsDone ℚ where
  highScore := some { exampleReportedScore none with
    topLevelContributions := [⟨List.replicate count {}, "https://buyer.example"⟩] }
  ghostWinners := none
  sharedBuyerBidsMap := ∅

theorem length_contributionsSent_app (o : ReactorOptions) (count : ℕ) :
    ((Client.app.made o Scoring.manyJoinsReactor).contributionsSent (winnerWith count)
      "https://buyer.example").length = count := by
  have hsent : (Client.app.made o Scoring.manyJoinsReactor).contributionsSent (winnerWith count)
      "https://buyer.example" = contributionsOf "https://buyer.example"
        [⟨(List.replicate count {}).map (PrivateAggregateContribution.map .fin),
          "https://buyer.example"⟩] := rfl
  rw [hsent]
  unfold contributionsOf
  simp

theorem not_keepsLimit_app (o : ReactorOptions) : ¬KeepsLimit o .app := by
  intro h
  have hsent := h Scoring.manyJoinsReactor
    (winnerWith (contributionsLimit o.perAdtechPaapiContributionsLimit + 1))
    "https://buyer.example" rfl
  rw [length_contributionsSent_app] at hsent
  omega

/-! ## All of them -/

/-- The browser's reactor honours every choice of the options. The app's sends the same requests,
with the compression that is configured only if it is the default, decodes by the rule only if
that is to go on, switches private aggregation as configured only if the two switches agree, and
keeps no limit. -/
theorem options_honoured (o : ReactorOptions) :
    SameRequests o ∧ HonouredBy o .web ∧
      (UsesCompression o .app ↔ o.sfeBfeCompressionAlgo = .gzip) ∧
      (FollowsFailFast o .app ↔ o.failFast = false) ∧
      (FollowsSwitch o .app ↔ o.enableBuyerPrivateAggregateReporting = o.failFast) ∧
      ¬KeepsLimit o .app ∧ ¬Honours o where
  left := sameRequests o
  right := ⟨⟨usesCompression_web o, followsFailFast_web o, followsSwitch_web o, keepsLimit_web o⟩,
    usesCompression_app_iff, followsFailFast_app_iff, followsSwitch_app_iff,
    not_keepsLimit_app o, fun h => not_keepsLimit_app o h.app.limit⟩

/-- A server with Zstandard between its services and without private aggregation. -/
def zstdOptions : ReactorOptions where
  perAdtechPaapiContributionsLimit := 100
  sfeBfeCompressionAlgo := .zstd

/-- Its reactor for apps uses gzip, and reports the contributions of a winner. -/
theorem zstdOptions_not_honoured :
    (Client.app.members zstdOptions).sfeBfeCompressionAlgo = .gzip ∧
      (Client.app.members zstdOptions).enableBuyerPrivateAggregateReporting = true ∧
      ¬UsesCompression zstdOptions .app ∧ ¬FollowsSwitch zstdOptions .app ∧
      ¬Honours zstdOptions :=
  ⟨rfl, rfl, fun h => absurd (usesCompression_app_iff.mp h) (by decide),
    fun h => absurd (followsSwitch_app_iff.mp h) (by decide),
    fun h => absurd (usesCompression_app_iff.mp h.app.compression) (by decide)⟩

end SelectAd

end BiddingAuction

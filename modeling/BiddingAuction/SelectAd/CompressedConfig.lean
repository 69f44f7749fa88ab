import BiddingAuction.SelectAd.BuyerInputs
import BiddingAuction.SelectAd.Processing

/-!
# A config that comes compressed

Of a compressed config nothing is in the plain field of the request. The scope is read from
there, and so are the sellers of a component auction and the contextual ads of a buyer.
-/

namespace BiddingAuction

open Foundation.Cbor

namespace SelectAd

/-! ## The two requests -/

/-- The bytes are a compressed form of the config: the codec undoes the compression. -/
def ConfigCodec.Undoes (codec : ConfigCodec) (compressed : Bytes) (config : AuctionConfig) :
    Prop :=
  ∃ serialized, codec.gzipDecompress compressed = some serialized ∧
    codec.parseFromString serialized = some config

namespace SelectAdRequest

variable (request : SelectAdRequest)

def withAuctionConfig (config : AuctionConfig) : SelectAdRequest :=
  { request with auctionConfig := some config, compressedAuctionConfig := none }

def withCompressedAuctionConfig (compressed : Bytes) : SelectAdRequest :=
  { request with auctionConfig := none, compressedAuctionConfig := some compressed }

end SelectAdRequest

theorem extractAuctionConfig_plain (codec : ConfigCodec) (allowed : Bool)
    (request : SelectAdRequest) (config : AuctionConfig) :
    extractAuctionConfig codec allowed (request.withAuctionConfig config) = .ok config := rfl

theorem extractAuctionConfig_compressed {codec : ConfigCodec} {compressed : Bytes}
    {config : AuctionConfig} (h : codec.Undoes compressed config) (request : SelectAdRequest) :
    extractAuctionConfig codec true (request.withCompressedAuctionConfig compressed) =
      .ok config := by
  obtain ⟨serialized, hserialized, hconfig⟩ := h
  simp only [extractAuctionConfig, SelectAdRequest.withCompressedAuctionConfig, hserialized,
    hconfig, Bool.not_true, Bool.false_eq_true, if_false]

theorem getAuctionScope_plain {request : SelectAdRequest} {config : AuctionConfig}
    (h : config.topLevelSeller = "") :
    getAuctionScope (request.withAuctionConfig config) =
      if 0 < request.componentAuctionResultsSize then .serverTopLevelSeller
      else .singleSeller := by
  unfold getAuctionScope
  rw [if_neg]
  · rfl
  · exact not_not.mpr h

theorem getAuctionScope_compressed (request : SelectAdRequest) (compressed : Bytes) :
    getAuctionScope (request.withCompressedAuctionConfig compressed) =
      if 0 < request.componentAuctionResultsSize then .serverTopLevelSeller
      else .singleSeller := rfl

theorem isComponentAuction_plain {request : SelectAdRequest} {config : AuctionConfig}
    (h : config.topLevelSeller ≠ "") :
    isComponentAuction (getAuctionScope (request.withAuctionConfig config)) = true := by
  unfold getAuctionScope
  rw [if_pos (show (request.withAuctionConfig config).auctionConfigOrDefault.topLevelSeller ≠ ""
    from h)]
  cases (request.withAuctionConfig config).auctionConfigOrDefault.topLevelCloudPlatform <;> rfl

/-! ## A reactor without the plain field -/

def Setup.forget (u : Setup) : Setup := { u with requestAuctionConfig := {} }

theorem Setup.contextualData?_forget (u : Setup) (buyer : String) :
    u.forget.contextualData? buyer = none := rfl

/-- The app signals of a buyer are forwarded, with the ads of the contextual path. -/
def Setup.ForwardsContextualData (u : Setup) (buyer : String) (b : BuyerInputForBidding) : Prop :=
  u.isPasEnabled = true ∧ Setup.hasAppInstallSignals b.protectedAppSignals = true ∧
    u.contextualData? buyer ≠ none

instance (u : Setup) (buyer : String) (b : BuyerInputForBidding) :
    Decidable (u.ForwardsContextualData buyer b) := inferInstanceAs (Decidable (_ ∧ _ ∧ _))

theorem Setup.mayPopulateProtectedAppSignalsBuyerInput_forget (u : Setup) (buyer : String)
    {request : GetBidsRawRequest} {signals : Option ProtectedAppSignals}
    (hsignals : (request.buyerInputForBidding.bind BuyerInputOf.protectedAppSignals) = signals)
    (h : u.isPasEnabled = true → Setup.hasAppInstallSignals signals = true →
      u.contextualData? buyer = none) :
    u.forget.mayPopulateProtectedAppSignalsBuyerInput buyer request =
      u.mayPopulateProtectedAppSignalsBuyerInput buyer request := by
  unfold Setup.mayPopulateProtectedAppSignalsBuyerInput
  dsimp only
  rw [hsignals, u.contextualData?_forget, show u.forget.isPasEnabled = u.isPasEnabled from rfl]
  cases hpas : u.isPasEnabled with
  | false => rfl
  | true =>
    cases hhas : Setup.hasAppInstallSignals signals with
    | false => rfl
    | true => rw [h hpas hhas]

theorem Setup.getBidsRequest_forget_iff (u : Setup) (clientType : ClientType) (buyer : String)
    (b : BuyerInputForBidding) :
    u.forget.getBidsRequest clientType buyer b = u.getBidsRequest clientType buyer b ↔
      ¬ (clientType = .android ∧ u.ForwardsContextualData buyer b) := by
  cases clientType with
  | unknown => exact iff_of_true rfl nofun
  | browser => exact iff_of_true rfl nofun
  | android =>
    have hsent := u.appRequest_createGetBidsRequestForApp buyer b
    have hforgotten := u.forget.appRequest_createGetBidsRequestForApp buyer b
    constructor
    · rintro hsame ⟨-, hpas, hhas, hcontextual⟩
      -- the ads of the contextual path are in one of them only
      have hinput := congrArg GetBidsRawRequest.protectedAppSignalsBuyerInput hsame
      have hleft : (u.forget.getBidsRequest .android buyer b).protectedAppSignalsBuyerInput =
          some ⟨b.protectedAppSignals, none⟩ := by
        refine hforgotten.protectedAppSignalsBuyerInput.trans ?_
        rw [show u.forget.isPasEnabled = true from hpas, hhas]
        rfl
      have hright : (u.getBidsRequest .android buyer b).protectedAppSignalsBuyerInput =
          some ⟨b.protectedAppSignals, u.contextualData? buyer⟩ := by
        refine hsent.protectedAppSignalsBuyerInput.trans ?_
        rw [hpas, hhas]
        rfl
      rw [hleft, hright] at hinput
      injection hinput with hinput
      injection hinput with _ hinput
      exact hcontextual hinput.symm
    · intro hnot
      refine u.mayPopulateProtectedAppSignalsBuyerInput_forget buyer
        (?_ : _ = b.protectedAppSignals) fun hpas hhas => ?_
      · show ((u.createGetBidsRequest .android buyer b).buyerInputForBidding.bind
          BuyerInputOf.protectedAppSignals) = _
        rw [u.buyerInputForBidding_createGetBidsRequest]
        exact u.protectedAppSignals_clearInterestGroups b
      · by_contra hcontextual
        exact hnot ⟨rfl, hpas, hhas, hcontextual⟩

namespace ConfiguredReactor

variable (r : ConfiguredReactor)

def forget : ConfiguredReactor := { r with requestAuctionConfig := {} }

def Accepted : Prop := r.adServerVisibleErrors = [] ∧ r.decrypted.clientVisibleErrors = []

instance : Decidable r.Accepted := inferInstanceAs (Decidable (_ ∧ _))

def inputOf (buyer : String) : BuyerInputForBidding :=
  (r.decrypted.buyerInputs.lookup buyer).getD {}

/-- A buyer that is asked for bids is to have ads of the contextual path. -/
def ForwardsContextualData : Prop :=
  r.clientType = .android ∧ ∃ asked ∈ r.buyersAsked, asked.isChaff = false ∧
    r.setup.ForwardsContextualData asked.buyerName (r.inputOf asked.buyerName)

instance : Decidable r.ForwardsContextualData := inferInstanceAs (Decidable (_ ∧ _))

theorem getBidsRequests_forget_iff :
    r.forget.getBidsRequests = r.getBidsRequests ↔ ¬ r.ForwardsContextualData := by
  have heach : ∀ asked, r.forget.getBidsRequest asked = r.getBidsRequest asked ↔
      ¬ (r.clientType = .android ∧ asked.isChaff = false ∧
        r.setup.ForwardsContextualData asked.buyerName (r.inputOf asked.buyerName)) := by
    intro asked
    unfold getBidsRequest
    cases hchaff : asked.isChaff with
    | true => exact iff_of_true rfl fun h => by cases h.2.1
    | false =>
      refine (r.setup.getBidsRequest_forget_iff r.clientType asked.buyerName
        (r.inputOf asked.buyerName)).trans (not_congr ?_)
      exact and_congr_right fun _ => (and_iff_right rfl).symm
  show r.buyersAsked.map _ = r.buyersAsked.map _ ↔ _
  rw [List.map_inj_left]
  constructor
  · rintro hsame ⟨hclient, asked, hasked, hchaff, hforwards⟩
    have hrequest := congrArg SentGetBids.request (hsame asked hasked)
    exact (heach asked).mp hrequest ⟨hclient, hchaff, hforwards⟩
  · intro hnone asked hasked
    have hrequest := (heach asked).mpr fun h => hnone ⟨h.1, asked, hasked, h.2⟩
    show SentGetBids.mk _ _ (r.forget.getBidsRequest asked) = _
    rw [hrequest]
    rfl

/-! ## The auction of a single seller -/

theorem adScoreToAuctionResult_singleSeller (highScore : Option (AdScore FloatVal))
    (error : Option AuctionResultError) (data data' : ComponentAuctionData)
    (kanonData : Option (KAnonAuctionResultData FloatVal)) :
    adScoreToAuctionResult highScore error .singleSeller data kanonData =
      adScoreToAuctionResult highScore error .singleSeller data' kanonData := by
  unfold adScoreToAuctionResult
  rw [show decide (AuctionScope.singleSeller = .serverComponentMultiSeller) = false from rfl,
    Bool.and_false]
  rfl

variable {r}

theorem auctionResult_forget (hscope : r.auctionScope = .singleSeller) (done : ScoreAdsDone ℚ)
    (updates : UpdateGroupMap) :
    r.forget.auctionResult done updates = r.auctionResult done updates := by
  have hforget : r.forget.auctionScope = .singleSeller := hscope
  unfold auctionResult
  rw [hscope, hforget]
  exact adScoreToAuctionResult_singleSeller ..

theorem respond_forget (hscope : r.auctionScope = .singleSeller) (done : ScoreAdsDone ℚ)
    (updates : UpdateGroupMap) (debugUrls : AdtechOriginDebugUrlsMap) :
    r.forget.respond done updates debugUrls = r.respond done updates debugUrls := by
  have hforget : r.forget.auctionScope = .singleSeller := hscope
  unfold respond getNonEncryptedResponse
  rw [auctionResult_forget hscope, hscope, hforget]
  rfl

theorem onScoreAdsDone_forget (hscope : r.auctionScope = .singleSeller)
    (bids : FlatHashMap String BuyerReply) (updates : UpdateGroupMap)
    (interestGroupIndexMap : FlatHashMap InterestGroupIdentity ℕ)
    (reply : Except GrpcStatus ScoreAdsReply) :
    r.forget.onScoreAdsDone bids updates interestGroupIndexMap reply =
      r.onScoreAdsDone bids updates interestGroupIndexMap reply := by
  unfold onScoreAdsDone
  cases reply with
  | error status =>
    dsimp only
    rw [respond_forget hscope]
    rfl
  | ok reply =>
    dsimp only
    rw [respond_forget hscope]
    rfl

theorem onAllBidsDone_forget (hscope : r.auctionScope = .singleSeller) (replies : Replies) :
    r.forget.onAllBidsDone replies = r.onAllBidsDone replies := by
  unfold onAllBidsDone scoreAds
  simp only [onScoreAdsDone_forget hscope]
  rfl

theorem execute_of_errors {vector : List (String × Json)}
    (hvector : r.prioritySignalsVector = .ok vector) (h : r.adServerVisibleErrors ≠ []) :
    r.execute =
      { auctionScope := r.auctionScope
        adServerVisibleErrors := r.adServerVisibleErrors
        answer := .finished
          ⟨kInvalidArgument, accumulatedErrorString r.adServerVisibleErrors⟩ } := by
  have hnonempty : (!r.adServerVisibleErrors.isEmpty) = true := by
    rw [Bool.not_eq_true', List.isEmpty_eq_false_iff]
    exact h
  unfold execute
  rw [hvector]
  dsimp only
  rw [if_pos hnonempty]

theorem execute_of_clientErrors {vector : List (String × Json)}
    (hvector : r.prioritySignalsVector = .ok vector) (h : r.adServerVisibleErrors = [])
    (hclient : r.decrypted.clientVisibleErrors ≠ []) :
    r.execute = { auctionScope := r.auctionScope, answer := r.onScoreAdsDone ∅ ∅ ∅ (.ok {}) } := by
  have hnonempty : (!r.decrypted.clientVisibleErrors.isEmpty) = true := by
    rw [Bool.not_eq_true', List.isEmpty_eq_false_iff]
    exact hclient
  unfold execute
  rw [hvector, h]
  dsimp only
  rw [if_neg (by decide), if_pos hnonempty]

theorem execute_forget_of_not_accepted (hscope : r.auctionScope = .singleSeller)
    (h : ¬ r.Accepted) : r.forget.execute = r.execute := by
  have hsameErrors : r.forget.adServerVisibleErrors = r.adServerVisibleErrors := rfl
  have hsameVector : r.forget.prioritySignalsVector = r.prioritySignalsVector := rfl
  cases hvector : r.prioritySignalsVector with
  | error _ =>
    unfold execute
    rw [hsameErrors, hsameVector, hvector]
    rfl
  | ok vector =>
    by_cases herrors : r.adServerVisibleErrors = []
    · have hclient : r.decrypted.clientVisibleErrors ≠ [] := fun hclient => h ⟨herrors, hclient⟩
      rw [execute_of_clientErrors hvector herrors hclient,
        execute_of_clientErrors (hsameVector.trans hvector) (hsameErrors.trans herrors) hclient,
        onScoreAdsDone_forget hscope]
      rfl
    · rw [execute_of_errors hvector herrors,
        execute_of_errors (hsameVector.trans hvector) (hsameErrors ▸ herrors), hsameErrors]
      rfl

theorem prioritySignalsVector_of_accepted (h : r.Accepted) :
    ∃ vector, r.prioritySignalsVector = .ok vector := by
  cases hvector : r.prioritySignalsVector with
  | ok vector => exact ⟨vector, rfl⟩
  | error message =>
    have herrors := h.1
    unfold adServerVisibleErrors at herrors
    rw [hvector] at herrors
    cases (List.append_eq_nil_iff.mp herrors).2

theorem execute_of_accepted (h : r.Accepted) :
    r.execute =
      { auctionScope := r.auctionScope
        getBidsRequests := r.getBidsRequests
        scoringSignalsRequest := (r.onAllBidsDone (r.replies r.getBidsRequests)).1
        scoreAdsRequest := (r.onAllBidsDone (r.replies r.getBidsRequests)).2.1
        answer := (r.onAllBidsDone (r.replies r.getBidsRequests)).2.2 } := by
  obtain ⟨vector, hvector⟩ := prioritySignalsVector_of_accepted h
  unfold execute
  rw [hvector, h.1, h.2]
  rfl

/-- The processing is the same, unless contextual ads are to be forwarded once the request is
accepted. -/
theorem execute_forget_iff (hscope : r.auctionScope = .singleSeller) :
    r.forget.execute = r.execute ↔ ¬ (r.Accepted ∧ r.ForwardsContextualData) := by
  by_cases haccepted : r.Accepted
  · have hforgotten : r.forget.Accepted := haccepted
    rw [execute_of_accepted haccepted, execute_of_accepted hforgotten]
    constructor
    · rintro hsame ⟨-, hforwards⟩
      exact r.getBidsRequests_forget_iff.mp (congrArg Processing.getBidsRequests hsame) hforwards
    · intro hnone
      have hcalls := r.getBidsRequests_forget_iff.mpr fun h => hnone ⟨haccepted, h⟩
      rw [hcalls, onAllBidsDone_forget hscope]
      rfl
  · exact iff_of_true (execute_forget_of_not_accepted hscope haccepted) fun h => haccepted h.1

end ConfiguredReactor

/-! ## The two requests, processed -/

section Process

variable {server : SellerFrontEnd} {services : Services} {request : SelectAdRequest}
  {config : AuctionConfig}

/-- The reactor of a single seller's request that carries the config in its plain field. -/
def plainReactor (server : SellerFrontEnd) (services : Services) (clientType : ClientType)
    (decrypted : DecryptedRequest) (config : AuctionConfig) : ConfiguredReactor where
  server := server
  services := services
  clientType := clientType
  decrypted := decrypted
  auctionScope := .singleSeller
  auctionConfig := config
  requestAuctionConfig := config

def SelectAdRequest.decrypted (request : SelectAdRequest) (services : Services) :
    Except String DecryptedRequest :=
  services.decryptRequest request.clientType request.protectedAuctionCiphertext
    request.protectedAudienceCiphertext

/-- The config names no top-level seller; and where the request is decrypted and accepted, no
buyer that is asked is to have ads of the contextual path. -/
structure ReadOnce (server : SellerFrontEnd) (services : Services) (request : SelectAdRequest)
    (config : AuctionConfig) : Prop where
  topLevelSeller : config.topLevelSeller = ""
  contextualData : ∀ decrypted, request.decrypted services = .ok decrypted →
    let r := plainReactor server services request.clientType decrypted config
    ¬ (r.Accepted ∧ r.ForwardsContextualData)

theorem auctionScope_execute (r : ConfiguredReactor) : r.execute.auctionScope = r.auctionScope := by
  unfold ConfiguredReactor.execute
  dsimp only
  split
  · rfl
  · split
    · rfl
    · split <;> rfl

theorem auctionScope_process (server : SellerFrontEnd) (services : Services)
    (request : SelectAdRequest) :
    (process server services request).auctionScope = getAuctionScope request := by
  unfold process
  dsimp only
  split
  · rfl
  split
  · rfl
  split
  · rfl
  split
  · rfl
  · exact auctionScope_execute _

theorem process_of_extracted {decrypted : DecryptedRequest}
    (hscope : getAuctionScope request = .singleSeller) (hclient : request.clientType ≠ .unknown)
    (hextract : extractAuctionConfig server.codec server.allowCompressedAuctionConfig request =
      .ok config) (hdecrypted : request.decrypted services = .ok decrypted) :
    process server services request =
      ({ server := server
         services := services
         clientType := request.clientType
         decrypted := decrypted
         auctionScope := .singleSeller
         auctionConfig := config
         requestAuctionConfig := request.auctionConfigOrDefault } : ConfiguredReactor).execute := by
  unfold SelectAdRequest.decrypted at hdecrypted
  unfold process
  dsimp only
  rw [hscope, if_neg (by decide), if_neg hclient, hextract, hdecrypted]

theorem process_of_unknown (hscope : getAuctionScope request = .singleSeller)
    (hclient : request.clientType = .unknown) :
    process server services request =
      { auctionScope := .singleSeller
        answer := .finished ⟨kInvalidArgument, kUnsupportedClientType⟩ } := by
  unfold process
  dsimp only
  rw [hscope, if_neg (by decide), if_pos hclient]

theorem process_of_not_decrypted {message : String}
    (hscope : getAuctionScope request = .singleSeller) (hclient : request.clientType ≠ .unknown)
    (hextract : extractAuctionConfig server.codec server.allowCompressedAuctionConfig request =
      .ok config) (hdecrypted : request.decrypted services = .error message) :
    process server services request =
      { auctionScope := .singleSeller, answer := .finished ⟨kInvalidArgument, message⟩ } := by
  unfold SelectAdRequest.decrypted at hdecrypted
  unfold process
  dsimp only
  rw [hscope, if_neg (by decide), if_neg hclient, hextract, hdecrypted]

end Process

/-- A request with a compressed config is processed like the one with the same config in its
plain field exactly when the config names no top-level seller and, should the request be
accepted, no buyer that is asked is to have ads of the contextual path. -/
theorem process_compressed_iff {server : SellerFrontEnd} (services : Services)
    (request : SelectAdRequest) {config : AuctionConfig} {compressed : Bytes}
    (hallowed : server.allowCompressedAuctionConfig = true)
    (hcodec : server.codec.Undoes compressed config)
    (hscope : getAuctionScope (request.withAuctionConfig config) ≠ .serverTopLevelSeller) :
    process server services (request.withCompressedAuctionConfig compressed) =
        process server services (request.withAuctionConfig config) ↔
      ReadOnce server services request config := by
  have hextract := extractAuctionConfig_compressed hcodec request
  rw [← hallowed] at hextract
  have hplain := extractAuctionConfig_plain server.codec server.allowCompressedAuctionConfig
    request config
  -- without a top-level seller both requests are of a single seller
  have hscopes : config.topLevelSeller = "" →
      getAuctionScope (request.withAuctionConfig config) = .singleSeller ∧
      getAuctionScope (request.withCompressedAuctionConfig compressed) = .singleSeller := by
    intro hseller
    rw [getAuctionScope_plain hseller] at hscope ⊢
    rw [getAuctionScope_compressed]
    by_cases hresults : 0 < request.componentAuctionResultsSize
    · exact absurd (if_pos hresults) hscope
    · exact ⟨if_neg hresults, if_neg hresults⟩
  have hdecided : config.topLevelSeller = "" → (∀ decrypted,
      request.decrypted services = .ok decrypted → request.clientType ≠ .unknown →
      (process server services (request.withCompressedAuctionConfig compressed) =
          process server services (request.withAuctionConfig config) ↔
        let r := plainReactor server services request.clientType decrypted config
        ¬ (r.Accepted ∧ r.ForwardsContextualData))) := by
    intro hseller decrypted hdecrypted hclient
    obtain ⟨hplainScope, hcompressedScope⟩ := hscopes hseller
    rw [process_of_extracted hplainScope hclient hplain hdecrypted,
      process_of_extracted hcompressedScope hclient hextract hdecrypted]
    exact ConfiguredReactor.execute_forget_iff
      (r := plainReactor server services request.clientType decrypted config) rfl
  constructor
  · intro hsame
    have hseller : config.topLevelSeller = "" := by
      by_contra hseller
      have hcomponent : isComponentAuction
          (getAuctionScope (request.withAuctionConfig config)) = true :=
        isComponentAuction_plain hseller
      have hscopeSame := congrArg Processing.auctionScope hsame
      rw [auctionScope_process, auctionScope_process, getAuctionScope_compressed] at hscopeSame
      rw [← hscopeSame] at hcomponent
      split at hcomponent <;> cases hcomponent
    refine ⟨hseller, fun decrypted hdecrypted hboth => ?_⟩
    by_cases hclient : request.clientType = .unknown
    · -- an unknown client is no app
      have hforwards := hboth.2.1
      rw [show (plainReactor server services request.clientType decrypted config).clientType =
        request.clientType from rfl, hclient] at hforwards
      cases hforwards
    · exact (hdecided hseller decrypted hdecrypted hclient).mp hsame hboth
  · rintro ⟨hseller, hcontextual⟩
    obtain ⟨hplainScope, hcompressedScope⟩ := hscopes hseller
    by_cases hclient : request.clientType = .unknown
    · rw [process_of_unknown hplainScope hclient, process_of_unknown hcompressedScope hclient]
    · cases hdecrypted : request.decrypted services with
      | error message =>
        rw [process_of_not_decrypted hplainScope hclient hplain hdecrypted,
          process_of_not_decrypted hcompressedScope hclient hextract hdecrypted]
      | ok decrypted =>
        exact (hdecided hseller decrypted hdecrypted hclient).mpr
          (hcontextual decrypted hdecrypted)

/-! ## An app and a browser -/

def codecOf (compressed serialized : Bytes) (config : AuctionConfig) : ConfigCodec where
  gzipDecompress bytes := if bytes = compressed then some serialized else none
  parseFromString bytes := if bytes = serialized then some config else none

theorem codecOf_undoes (compressed serialized : Bytes) (config : AuctionConfig) :
    (codecOf compressed serialized config).Undoes compressed config :=
  ⟨serialized, if_pos rfl, if_pos rfl⟩

def oneBuyerConfig : AuctionConfig where
  sellerSignals := "\x7b\x7d"
  auctionSignals := "\x7b\x7d"
  buyerList := ["https://buyer.example"]
  seller := "https://seller.example"
  perBuyerConfig := AList.insert "https://buyer.example" { buyerSignals := "\x7b\x7d" } ∅

def oneBuyerBytes : Bytes :=
  [10, 2, 123, 125, 18, 2, 123, 125, 26, 21, 104, 116, 116, 112, 115, 58, 47, 47, 98, 117, 121,
    101, 114, 46, 101, 120, 97, 109, 112, 108, 101, 34, 22, 104, 116, 116, 112, 115, 58, 47, 47,
    115, 101, 108, 108, 101, 114, 46, 101, 120, 97, 109, 112, 108, 101, 42, 29, 10, 21, 104,
    116, 116, 112, 115, 58, 47, 47, 98, 117, 121, 101, 114, 46, 101, 120, 97, 109, 112, 108,
    101, 18, 4, 10, 2, 123, 125]

def oneBuyerGzip : Bytes :=
  [31, 139, 8, 0, 0, 0, 0, 0, 2, 255, 227, 98, 170, 174, 21, 2, 98, 41, 209, 140, 146, 146, 130,
    98, 43, 125, 253, 164, 210, 202, 212, 34, 189, 212, 138, 196, 220, 130, 156, 84, 37, 49,
    152, 112, 113, 106, 78, 14, 66, 92, 75, 150, 11, 187, 6, 33, 22, 46, 160, 105, 0, 233, 21,
    234, 125, 86, 0, 0, 0]

/-- A config for the auction of another seller on the device. -/
def componentConfig : AuctionConfig where
  sellerSignals := "\x7b\x7d"
  auctionSignals := "\x7b\x7d"
  buyerList := ["https://buyer.example"]
  seller := "https://seller.example"
  topLevelSeller := "https://top.example"

def componentBytes : Bytes :=
  [10, 2, 123, 125, 18, 2, 123, 125, 26, 21, 104, 116, 116, 112, 115, 58, 47, 47, 98, 117, 121,
    101, 114, 46, 101, 120, 97, 109, 112, 108, 101, 34, 22, 104, 116, 116, 112, 115, 58, 47, 47,
    115, 101, 108, 108, 101, 114, 46, 101, 120, 97, 109, 112, 108, 101, 74, 19, 104, 116, 116,
    112, 115, 58, 47, 47, 116, 111, 112, 46, 101, 120, 97, 109, 112, 108, 101]

def componentGzip : Bytes :=
  [31, 139, 8, 0, 0, 0, 0, 0, 2, 255, 227, 98, 170, 174, 21, 2, 98, 41, 209, 140, 146, 146, 130,
    98, 43, 125, 253, 164, 210, 202, 212, 34, 189, 212, 138, 196, 220, 130, 156, 84, 37, 49,
    152, 112, 113, 106, 78, 14, 66, 220, 75, 24, 38, 94, 146, 95, 0, 19, 4, 0, 174, 181, 24,
    225, 76, 0, 0, 0]

/-- A server that accepts compressed configs, and app signals. -/
def compressedServer (codec : ConfigCodec) : SellerFrontEnd where
  lib := noDocuments
  keys := exampleKeyLibrary
  cbor := chaffLib
  ord := .stored
  strings := ⟨fun _ => "", fun text _ => text⟩
  ops := ⟨0, fun x => 0 < x, fun n => n.toInt, fun x => .ofInt x.floor,
    fun x y => .ofInt (x * y).floor, fun n x => .ofInt (n.toInt * x).floor, 0⟩
  codec := codec
  pastTheEnd _ := {}
  allowCompressedAuctionConfig := true
  sellerOriginDomain := "https://seller.example"
  enableProtectedAppSignals := true
  buyerFactory := .ofList ["https://buyer.example"]

def noBidServices : Services where
  decryptRequest _ _ _ := .ok {
    protectedAuctionInput := { generationId := "1", publisherName := "app" }
    buyerInputs := AList.insert "https://buyer.example"
      (toBuyerInputForBidding noDocuments appInput) ∅
    rng := FetchBids.leastRng }
  getBids _ _ := some {}
  areKAnonymous _ := .callFailed
  fetchScoringSignals _ := .failed
  scoreAds _ := .error ⟨kInternal, kInternalServerError⟩

/-- The processing of an app's request that carries the config with one buyer. -/
def processOneBuyer (carrying : SelectAdRequest → SelectAdRequest) : Processing :=
  process (compressedServer (codecOf oneBuyerGzip oneBuyerBytes oneBuyerConfig)) noBidServices
    (carrying { clientType := .android })

/-- The buyer of an app's request is asked, whichever way its config comes. -/
theorem process_compressed_oneBuyer :
    (processOneBuyer fun request => request.withAuctionConfig oneBuyerConfig).getBidsRequests.map
        SentGetBids.buyerName = ["https://buyer.example"] ∧
      (processOneBuyer fun request => request.withCompressedAuctionConfig oneBuyerGzip) =
        processOneBuyer fun request => request.withAuctionConfig oneBuyerConfig := by
  refine ⟨by decide +kernel, ?_⟩
  refine (process_compressed_iff noBidServices { clientType := .android } rfl
    (codecOf_undoes oneBuyerGzip oneBuyerBytes oneBuyerConfig) (by decide +kernel)).mpr ?_
  refine ⟨rfl, fun decrypted hdecrypted => ?_⟩
  cases hdecrypted
  decide +kernel

/-- The processing of a browser's request that carries the config for another seller. -/
def processComponent (carrying : SelectAdRequest → SelectAdRequest) : Processing :=
  process (compressedServer (codecOf componentGzip componentBytes componentConfig)) noBidServices
    (carrying { clientType := .browser })

/-- A component auction becomes one of a single seller where its config comes compressed. -/
theorem process_compressed_component :
    (codecOf componentGzip componentBytes componentConfig).Undoes componentGzip componentConfig ∧
      (processComponent fun request =>
        request.withAuctionConfig componentConfig).auctionScope = .deviceComponentMultiSeller ∧
      (processComponent fun request =>
        request.withCompressedAuctionConfig componentGzip).auctionScope = .singleSeller ∧
      (processComponent fun request => request.withCompressedAuctionConfig componentGzip) ≠
        processComponent fun request => request.withAuctionConfig componentConfig := by
  have hplain : (processComponent fun request =>
      request.withAuctionConfig componentConfig).auctionScope = .deviceComponentMultiSeller :=
    (auctionScope_process ..).trans (by decide +kernel)
  have hcompressed : (processComponent fun request =>
      request.withCompressedAuctionConfig componentGzip).auctionScope = .singleSeller :=
    (auctionScope_process ..).trans rfl
  refine ⟨codecOf_undoes .., hplain, hcompressed, fun hsame => ?_⟩
  have hscope := congrArg Processing.auctionScope hsame
  rw [hplain, hcompressed] at hscope
  cases hscope

end SelectAd

end BiddingAuction

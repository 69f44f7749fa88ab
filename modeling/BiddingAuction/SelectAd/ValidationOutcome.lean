import BiddingAuction.SelectAd.Validation

/-!
# Every request that is decrypted comes to one end

Which errors there are, said without the code; and that a request with an error that the ad server
may see ends with all of these, one with other errors is answered with all of these, and any other
asks the buyers. The exception are priority signals that are no JSON object.
-/

namespace BiddingAuction

open Foundation.Cbor

namespace SelectAd

/-! ## All errors in one text -/

def CarriesAll (P : String → Prop) (text : String) : Prop :=
  ∃ msgs : List String, msgs.SortedLT ∧ (∀ msg, msg ∈ msgs ↔ P msg) ∧
    text = kErrorDelimiter.intercalate msgs

theorem carriesAll_sort {P : String → Prop} {msgs : Finset String} (h : ∀ msg, msg ∈ msgs ↔ P msg) :
    CarriesAll P (kErrorDelimiter.intercalate msgs.sort) :=
  ⟨msgs.sort, Finset.sortedLT_sort msgs, fun msg => (Finset.mem_sort _).trans (h msg), rfl⟩

theorem CarriesAll.unique {P : String → Prop} {text text' : String} (h : CarriesAll P text)
    (h' : CarriesAll P text') : text = text' := by
  obtain ⟨msgs, hsorted, hmem, rfl⟩ := h
  obtain ⟨msgs', hsorted', hmem', rfl⟩ := h'
  have hperm : msgs.Perm msgs' := (List.perm_ext_iff_of_nodup hsorted.nodup hsorted'.nodup).mpr
    fun msg => (hmem msg).trans (hmem' msg).symm
  rw [hperm.eq_of_sortedLE hsorted.sortedLE hsorted'.sortedLE]

theorem nodup_eraseDups (msgs : List String) : msgs.eraseDups.Nodup := by
  match msgs with
  | [] => exact List.nodup_nil
  | msg :: msgs =>
    have hlength := List.length_filter_le (fun other => !other == msg) msgs
    rw [List.eraseDups_cons, List.nodup_cons]
    refine ⟨fun hmem => ?_, nodup_eraseDups _⟩
    have hself := (List.mem_filter.mp (List.mem_eraseDups.mp hmem)).2
    rw [beq_self_eq_true] at hself
    cases hself
termination_by msgs.length
decreasing_by
  rw [List.length_cons]
  omega

theorem carriesAll_accumulatedErrorString {P : String → Prop} {msgs : List String}
    (h : ∀ msg, msg ∈ msgs ↔ P msg) : CarriesAll P (accumulatedErrorString msgs) := by
  have hperm := List.mergeSort_perm msgs.eraseDups fun a b => !decide (b < a)
  refine ⟨_, ?_, fun msg => ?_, rfl⟩
  · have hle : (fun a b : String => !decide (b < a)) = fun a b => decide (a ≤ b) := by
      funext a b
      rw [← decide_not]
      exact decide_eq_decide.mpr not_lt
    refine List.SortedLE.sortedLT_of_nodup ?_ (hperm.nodup_iff.mpr (nodup_eraseDups msgs))
    rw [hle]
    exact List.sortedLE_mergeSort
  · rw [hperm.mem_iff, List.mem_eraseDups, h]

/-! ## What the ad server may see -/

inductive AdServerError (r : ConfiguredReactor) : String → Prop
  | sellerSignals (h : r.auctionConfig.sellerSignals = "") : AdServerError r kEmptySellerSignals
  | auctionSignals (h : r.auctionConfig.auctionSignals = "") : AdServerError r kEmptyAuctionSignals
  | buyerList (h : r.auctionConfig.buyerList = []) : AdServerError r kEmptyBuyerList
  | seller (h : r.auctionConfig.seller = "") : AdServerError r kEmptySeller
  | sellerCurrency (hset : r.auctionConfig.sellerCurrency ≠ "")
      (h : ConfiguredReactor.isValidCurrencyCode r.auctionConfig.sellerCurrency = false) :
      AdServerError r kInvalidSellerCurrency
  | sellerDomain (h : r.server.sellerOriginDomain ≠ r.auctionConfig.seller) :
      AdServerError r kWrongSellerDomain
  | buyerKey (h : "" ∈ r.auctionConfig.perBuyerConfig) :
      AdServerError r kEmptyBuyerInPerBuyerConfig
  | buyerSignals {buyer : String} {config : PerBuyerConfig}
      (hconfig : r.auctionConfig.perBuyerConfig.lookup buyer = some config)
      (h : config.buyerSignals = "") : AdServerError r (kEmptyBuyerSignals buyer)
  | buyerCurrency {buyer : String} {config : PerBuyerConfig}
      (hconfig : r.auctionConfig.perBuyerConfig.lookup buyer = some config)
      (hset : config.buyerCurrency ≠ "")
      (h : ConfiguredReactor.isValidCurrencyCode config.buyerCurrency = false) :
      AdServerError r kInvalidBuyerCurrency
  | deviceComponent (hclient : r.clientType = .android)
      (hscope : r.auctionScope = .deviceComponentMultiSeller) :
      AdServerError r kDeviceComponentAuctionWithAndroid
  | prioritySignals (hvector : r.server.enablePriorityVector = true)
      (hset : r.auctionConfig.prioritySignals ≠ "")
      (h : ∀ members, r.server.lib.parseJsonString r.auctionConfig.prioritySignals ≠
        some (.object members)) : AdServerError r kMalformedPrioritySignals

theorem mem_reportError {hasError : Bool} {errorMsg msg : String} :
    msg ∈ reportError hasError errorMsg ↔ hasError = true ∧ msg = errorMsg := by
  unfold reportError
  cases hasError <;> simp

/-- Priority signals are not used, or they are a JSON object. -/
def PrioritySignalsRead (r : ConfiguredReactor) : Prop :=
  r.server.enablePriorityVector = true → r.auctionConfig.prioritySignals ≠ "" →
    ∃ members, r.server.lib.parseJsonString r.auctionConfig.prioritySignals =
      some (.object members)

theorem isOk_prioritySignalsVector_iff {r : ConfiguredReactor} :
    r.prioritySignalsVector.isOk = true ↔ PrioritySignalsRead r := by
  unfold ConfiguredReactor.prioritySignalsVector PrioritySignalsRead
  by_cases hvector : r.server.enablePriorityVector = true
  · by_cases hset : r.auctionConfig.prioritySignals = ""
    · rw [hset]
      exact iff_of_true (by rw [hvector]; rfl) fun _ h => absurd rfl h
    · have hboth : (r.server.enablePriorityVector && !r.auctionConfig.prioritySignals.isEmpty) =
          true := by
        rw [hvector, String.isEmpty_eq_false_iff.mpr hset]
        rfl
      rw [if_pos hboth, parsePriorityVector]
      constructor
      · intro hok _ _
        cases hparse : r.server.lib.parseJsonString r.auctionConfig.prioritySignals with
        | none =>
          rw [hparse] at hok
          cases hok
        | some json =>
          rw [hparse] at hok
          cases json with
          | object members => exact ⟨members, rfl⟩
          | _ => cases hok
      · intro h
        obtain ⟨members, hmembers⟩ := h hvector hset
        rw [hmembers]
        rfl
  · have hneither : ¬(r.server.enablePriorityVector && !r.auctionConfig.prioritySignals.isEmpty) =
        true := fun h => hvector (Bool.and_eq_true_iff.mp h).1
    rw [if_neg hneither]
    exact iff_of_true rfl fun h => absurd h hvector

theorem mem_perBuyerConfigErrors_iff {buyer : String} {config : PerBuyerConfig} {msg : String} :
    msg ∈ ConfiguredReactor.perBuyerConfigErrors (buyer, config) ↔
      (buyer = "" ∧ msg = kEmptyBuyerInPerBuyerConfig) ∨
      (config.buyerSignals = "" ∧ msg = kEmptyBuyerSignals buyer) ∨
      ((config.buyerCurrency ≠ "" ∧
        ConfiguredReactor.isValidCurrencyCode config.buyerCurrency = false) ∧
          msg = kInvalidBuyerCurrency) := by
  unfold ConfiguredReactor.perBuyerConfigErrors
  simp only [List.mem_append, mem_reportError, String.isEmpty_iff, Bool.and_eq_true,
    Bool.not_eq_true', String.isEmpty_eq_false_iff, or_assoc]

theorem mem_adServerVisibleErrors_iff {r : ConfiguredReactor} {msg : String} :
    msg ∈ r.adServerVisibleErrors ↔ AdServerError r msg := by
  have hread := isOk_prioritySignalsVector_iff (r := r)
  unfold ConfiguredReactor.adServerVisibleErrors
  simp only [List.mem_append, mem_reportError, List.mem_flatMap, Prod.exists, String.isEmpty_iff,
    List.isEmpty_iff, decide_eq_true_eq, Bool.and_eq_true, Bool.not_eq_true',
    String.isEmpty_eq_false_iff, HashOrder.mem_entries, or_assoc]
  constructor
  · rintro (⟨h, rfl⟩ | ⟨h, rfl⟩ | ⟨h, rfl⟩ | ⟨h, rfl⟩ | ⟨⟨hset, h⟩, rfl⟩ | ⟨h, rfl⟩ |
      ⟨buyer, config, hconfig, h⟩ | ⟨⟨hclient, hscope⟩, rfl⟩ | ⟨h, rfl⟩)
    · exact .sellerSignals h
    · exact .auctionSignals h
    · exact .buyerList h
    · exact .seller h
    · exact .sellerCurrency hset h
    · exact .sellerDomain h
    · rcases mem_perBuyerConfigErrors_iff.mp h with
        ⟨hbuyer, rfl⟩ | ⟨hsignals, rfl⟩ | ⟨⟨hset, hcurrency⟩, rfl⟩
      · rw [hbuyer] at hconfig
        exact .buyerKey (AList.lookup_isSome.mp (by rw [hconfig]; rfl))
      · exact .buyerSignals hconfig hsignals
      · exact .buyerCurrency hconfig hset hcurrency
    · exact .deviceComponent hclient hscope
    · have hnot : ¬PrioritySignalsRead r := fun hok => by
        rw [hread.mpr hok] at h
        cases h
      unfold PrioritySignalsRead at hnot
      push Not at hnot
      exact .prioritySignals hnot.1 hnot.2.1 hnot.2.2
  · rintro (h | h | h | h | ⟨hset, h⟩ | h | h | ⟨hconfig, h⟩ | ⟨hconfig, hset, h⟩ |
      ⟨hclient, hscope⟩ | ⟨hvector, hset, h⟩)
    · exact .inl ⟨h, rfl⟩
    · exact .inr (.inl ⟨h, rfl⟩)
    · exact .inr (.inr (.inl ⟨h, rfl⟩))
    · exact .inr (.inr (.inr (.inl ⟨h, rfl⟩)))
    · exact .inr (.inr (.inr (.inr (.inl ⟨⟨hset, h⟩, rfl⟩))))
    · exact .inr (.inr (.inr (.inr (.inr (.inl ⟨h, rfl⟩)))))
    · obtain ⟨config, hconfig⟩ := Option.isSome_iff_exists.mp (AList.lookup_isSome.mpr h)
      exact .inr (.inr (.inr (.inr (.inr (.inr (.inl ⟨"", config, hconfig,
        mem_perBuyerConfigErrors_iff.mpr (.inl ⟨rfl, rfl⟩)⟩))))))
    · exact .inr (.inr (.inr (.inr (.inr (.inr (.inl ⟨_, _, hconfig,
        mem_perBuyerConfigErrors_iff.mpr (.inr (.inl ⟨h, rfl⟩))⟩))))))
    · exact .inr (.inr (.inr (.inr (.inr (.inr (.inl ⟨_, _, hconfig,
        mem_perBuyerConfigErrors_iff.mpr (.inr (.inr ⟨⟨hset, h⟩, rfl⟩))⟩))))))
    · exact .inr (.inr (.inr (.inr (.inr (.inr (.inr (.inl ⟨⟨hclient, hscope⟩, rfl⟩)))))))
    · refine .inr (.inr (.inr (.inr (.inr (.inr (.inr (.inr ⟨?_, rfl⟩)))))))
      rw [← Bool.not_eq_true, hread]
      intro hok
      obtain ⟨members, hmembers⟩ := hok hvector hset
      exact h members hmembers

/-! ## What the client may see -/

/-- What is wrong with the input of a buyer. -/
inductive ObservedError (buyer : String) (input : BuyerInputForBidding) : String → Prop
  | owner (h : buyer = "") : ObservedError buyer input kEmptyInterestGroupOwner
  | nothing (hgroups : input.interestGroups = []) (hsignals : input.protectedAppSignals = none) :
      ObservedError buyer input (kMissingInterestGroupsAndProtectedSignals buyer)

/-- What is wrong with a protected input: the errors of its decoding, or, where it is decoded,
what it is missing. -/
inductive ClientError (decodingErrors : List String) (input : ProtectedAuctionInput)
    (buyerInputs : FlatHashMap String BuyerInputForBidding) : String → Prop
  | decoding {msg : String} (h : msg ∈ decodingErrors) :
      ClientError decodingErrors input buyerInputs msg
  | generationId (hdecoded : decodingErrors = []) (h : input.generationId = "") :
      ClientError decodingErrors input buyerInputs kMissingGenerationId
  | publisherName (hdecoded : decodingErrors = []) (h : input.publisherName = "") :
      ClientError decodingErrors input buyerInputs kMissingPublisherName
  | buyerInputs (hdecoded : decodingErrors = []) (h : buyerInputs = ∅) :
      ClientError decodingErrors input buyerInputs kMissingBuyerInputs
  /-- There are inputs of buyers, and something is wrong with each. -/
  | malformed (hdecoded : decodingErrors = []) (hne : buyerInputs ≠ ∅)
      (h : ∀ buyer buyerInput, buyerInputs.lookup buyer = some buyerInput →
        ∃ msg, ObservedError buyer buyerInput msg)
      {errors : String}
      (herrors : CarriesAll (fun msg => ∃ buyer buyerInput,
        buyerInputs.lookup buyer = some buyerInput ∧ ObservedError buyer buyerInput msg) errors) :
      ClientError decodingErrors input buyerInputs (kNonEmptyBuyerInputMalformed errors)

theorem mem_observedErrors_iff {buyer : String} {input : BuyerInputForBidding} {msg : String} :
    msg ∈ observedErrors buyer input ↔ ObservedError buyer input msg := by
  unfold observedErrors
  simp only [List.mem_append, mem_reportError, String.isEmpty_iff, Bool.and_eq_true,
    List.isEmpty_iff, Bool.not_eq_true', Option.isSome_eq_false_iff, Option.isNone_iff_eq_none]
  constructor
  · rintro (⟨h, rfl⟩ | ⟨⟨hgroups, hsignals⟩, rfl⟩)
    · exact .owner h
    · exact .nothing hgroups hsignals
  · rintro (h | ⟨hgroups, hsignals⟩)
    · exact .inl ⟨h, rfl⟩
    · exact .inr ⟨⟨hgroups, hsignals⟩, rfl⟩

theorem mem_validateProtectedAuctionInput_iff {decodingErrors : List String}
    {input : ProtectedAuctionInput} {buyerInputs : FlatHashMap String BuyerInputForBidding}
    (hdecoded : decodingErrors = []) {msg : String} :
    msg ∈ validateProtectedAuctionInput input buyerInputs ↔
      ClientError decodingErrors input buyerInputs msg := by
  have hempty : buyerInputs.entries.isEmpty = true ↔ buyerInputs = ∅ := by
    rw [List.isEmpty_iff]
    exact ⟨fun h => AList.ext h, fun h => h ▸ rfl⟩
  have hobserved (msg : String) :
      msg ∈ (buyerInputs.entries.map fun buyer => observedErrors buyer.1 buyer.2).flatten.toFinset ↔
        ∃ buyer buyerInput, buyerInputs.lookup buyer = some buyerInput ∧
          ObservedError buyer buyerInput msg := by
    simp only [List.mem_toFinset, List.mem_flatten, List.mem_map]
    constructor
    · rintro ⟨_, ⟨buyer, hbuyer, rfl⟩, hmsg⟩
      exact ⟨buyer.1, buyer.2, AList.mem_lookup_iff.mpr hbuyer, mem_observedErrors_iff.mp hmsg⟩
    · rintro ⟨buyer, buyerInput, hlookup, hmsg⟩
      exact ⟨_, ⟨⟨buyer, buyerInput⟩, AList.mem_lookup_iff.mp hlookup, rfl⟩,
        mem_observedErrors_iff.mpr hmsg⟩
  have hvalid : ((buyerInputs.entries.map fun buyer => observedErrors buyer.1 buyer.2).any
        List.isEmpty) = false ↔
      ∀ buyer buyerInput, buyerInputs.lookup buyer = some buyerInput →
        ∃ msg, ObservedError buyer buyerInput msg := by
    rw [List.any_eq_false, List.forall_mem_map]
    constructor
    · intro h buyer buyerInput hlookup
      have hne := h ⟨buyer, buyerInput⟩ (AList.mem_lookup_iff.mp hlookup)
      rw [List.isEmpty_iff] at hne
      obtain ⟨msg, hmsg⟩ := List.exists_mem_of_ne_nil _ hne
      exact ⟨msg, mem_observedErrors_iff.mp hmsg⟩
    · intro h buyer hbuyer hnil
      obtain ⟨msg, hmsg⟩ := h buyer.1 buyer.2 (AList.mem_lookup_iff.mpr hbuyer)
      have hmem := mem_observedErrors_iff.mpr hmsg
      rw [List.isEmpty_iff.mp hnil] at hmem
      cases hmem
  unfold validateProtectedAuctionInput
  simp only [List.mem_append, mem_reportError, String.isEmpty_iff, or_assoc]
  constructor
  · rintro (⟨h, rfl⟩ | ⟨h, rfl⟩ | h)
    · exact .generationId hdecoded h
    · exact .publisherName hdecoded h
    · by_cases hinputs : buyerInputs = ∅
      · rw [if_pos (hempty.mpr hinputs), List.mem_singleton] at h
        rw [h]
        exact .buyerInputs hdecoded hinputs
      · rw [if_neg (mt hempty.mp hinputs), mem_reportError, Bool.not_eq_true', hvalid] at h
        rw [h.2]
        exact .malformed hdecoded hinputs h.1 (carriesAll_sort hobserved)
  · rintro (h | ⟨-, h⟩ | ⟨-, h⟩ | ⟨-, h⟩ | ⟨-, hne, h, herrors⟩)
    · rw [hdecoded] at h
      cases h
    · exact .inl ⟨h, rfl⟩
    · exact .inr (.inl ⟨h, rfl⟩)
    · refine .inr (.inr ?_)
      rw [if_pos (hempty.mpr h)]
      exact List.mem_singleton_self _
    · refine .inr (.inr ?_)
      rw [if_neg (mt hempty.mp hne), mem_reportError, Bool.not_eq_true', hvalid]
      exact ⟨h, congrArg _ (herrors.unique (carriesAll_sort hobserved))⟩

/-! ## The response with the errors -/

/-- What the web is sent: the error, and the nonce of the auction. -/
def errorItem (error : AuctionResultError) (nonce : String) : Item :=
  .record ((kError, .record (errorFields error)) :: ifNonempty kAdAuctionResultNonce nonce)

def IsErrorResponse (lib : LibCbor) (nonce : String) (error : AuctionResultError) :
    NonEncryptedResponse → Prop
  | .cbor encoded =>
    ∃ bytes, encoded = pure bytes ∧ lib.serialize (errorItem error nonce) = some bytes
  | .message auctionResult => auctionResult = { AuctionResult.unset with error := some error }

theorem IsErrorResponse.finishes {lib : LibCbor} {nonce : String} {error : AuctionResultError}
    {plaintext : NonEncryptedResponse} (h : IsErrorResponse lib nonce error plaintext)
    {packages : Option EncryptionCloudPlatform → NonEncryptedResponse → Bool}
    (hpackages : ∀ recipient plaintext, packages recipient plaintext = true)
    (recipient : Option EncryptionCloudPlatform) :
    finishes packages (.response recipient plaintext) = [.response recipient plaintext] := by
  cases plaintext with
  | cbor encoded =>
    obtain ⟨bytes, rfl, -⟩ := h
    exact congrArg (fun answer => [answer]) (if_pos (hpackages recipient (.cbor (pure bytes))))
  | message auctionResult =>
    exact congrArg (fun answer => [answer]) (if_pos (hpackages recipient (.message auctionResult)))

theorem getCborSerializedAuctionResult_eq {lib : LibCbor} {fs : Fields} {bytes : Bytes}
    (h : lib.serialize (.record fs) = some bytes) :
    getCborSerializedAuctionResult lib (.map fs.entries) = pure bytes := by
  have hmap : Item.map fs.entries = .record fs := rfl
  unfold getCborSerializedAuctionResult
  rw [hmap, h]

theorem encodedFields_error (lib : LibCbor) (winnerFields : AdScore FloatVal → Option Fields)
    (highScore : Option (AdScore FloatVal)) (error : AuctionResultError) (nonce : String)
    (kanonData : Option (KAnonAuctionResultData FloatVal)) :
    rootFields lib winnerFields highScore (some error) nonce kanonData =
      some ((kError, .record (errorFields error)) :: ifNonempty kAdAuctionResultNonce nonce) := by
  show some ([(kError, Item.record (errorFields error))] ++
    (ifNonempty kAdAuctionResultNonce nonce ++ [])) = _
  rw [List.append_nil]
  rfl

section

variable {lib : LibCbor} {error : AuctionResultError} {nonce : String} {bytes : Bytes}
  (h : lib.serialize (errorItem error nonce) = some bytes)

include h in
theorem encode_error (ord : HashOrder) (highScore : Option (AdScore FloatVal))
    (biddingGroupMap : BiddingGroupMap) (updateGroupMap : UpdateGroupMap)
    (debugUrls : AdtechOriginDebugUrlsMap) (limit : Int32)
    (kanonData : Option (KAnonAuctionResultData FloatVal)) :
    encode lib ord highScore biddingGroupMap updateGroupMap debugUrls (some error) limit nonce
      kanonData = pure bytes := by
  have hwrites := encodedRoot_writes lib ord highScore biddingGroupMap updateGroupMap debugUrls
    (some error) limit nonce kanonData
  rw [encodedFields, encodedFields_error] at hwrites
  unfold encode encodedRoot
  rw [hwrites.built (by decide), pure_bind]
  exact getCborSerializedAuctionResult_eq h

include h in
theorem encodeComponent_error (topLevelSeller : String) (highScore : Option (AdScore FloatVal))
    (biddingGroupMap : BiddingGroupMap) (updateGroupMap : UpdateGroupMap)
    (debugUrls : AdtechOriginDebugUrlsMap)
    (kanonData : Option (KAnonAuctionResultData FloatVal)) :
    encodeComponent lib topLevelSeller highScore biddingGroupMap updateGroupMap debugUrls
      (some error) nonce kanonData = pure bytes := by
  have hwrites := encodedComponentRoot_writes lib highScore biddingGroupMap updateGroupMap debugUrls
    (some error) topLevelSeller nonce kanonData
  rw [encodedComponentFields, encodedFields_error] at hwrites
  unfold encodeComponent encodedComponentRoot
  rw [hwrites.built (by decide), pure_bind]
  exact getCborSerializedAuctionResult_eq h

end

namespace ConfiguredReactor

variable {packages : Option EncryptionCloudPlatform → NonEncryptedResponse → Bool}
  {r : ConfiguredReactor} {error : AuctionResultError}

def recipient (r : ConfiguredReactor) : Option EncryptionCloudPlatform :=
  if r.auctionScope = .serverComponentMultiSeller then some r.auctionConfig.topLevelCloudPlatform
  else none

theorem getNonEncryptedResponse_error (herror : r.clientVisibleError = some error)
    (hserialize : (r.server.cbor.serialize
      (errorItem error r.auctionConfig.adAuctionResultNonce)).isSome = true)
    (done : ScoreAdsDone ℚ) (hscore : done.highScore = none) (updates : UpdateGroupMap)
    (debugUrls : AdtechOriginDebugUrlsMap) :
    IsErrorResponse r.server.cbor r.auctionConfig.adAuctionResultNonce error
      (r.getNonEncryptedResponse done updates debugUrls) := by
  obtain ⟨bytes, hbytes⟩ := Option.isSome_iff_exists.mp hserialize
  have hmessage : IsErrorResponse r.server.cbor r.auctionConfig.adAuctionResultNonce error
      (.message (r.auctionResult done updates)) := by
    unfold auctionResult
    rw [herror, hscore]
    rfl
  unfold getNonEncryptedResponse
  rw [herror]
  split
  · exact hmessage
  · split
    · exact ⟨bytes, encodeComponent_error hbytes .., hbytes⟩
    · exact hmessage
    · exact ⟨bytes, encode_error hbytes .., hbytes⟩
    · exact ⟨bytes, encode_error hbytes .., hbytes⟩

theorem onErrors_client {errorAccumulator : ErrorAccumulator}
    (hserver : errorAccumulator.haveErrors .adServerVisible = false)
    {msg : String} (hmsg : msg ∈ errorAccumulator.messages .clientVisible)
    (hserialize : ∀ error nonce, (r.server.cbor.serialize (errorItem error nonce)).isSome = true)
    (hpackages : ∀ recipient plaintext, packages recipient plaintext = true) :
    ∃ plaintext, IsErrorResponse r.server.cbor r.auctionConfig.adAuctionResultNonce
        ⟨kClientSide,
          accumulatedErrorString (errorAccumulator.messages .clientVisible).sort⟩ plaintext ∧
      r.onErrors packages errorAccumulator = [.ended (.response r.recipient plaintext)] := by
  have herror : (r.withErrors errorAccumulator).clientVisibleError = some ⟨kClientSide,
      accumulatedErrorString (errorAccumulator.messages .clientVisible).sort⟩ := by
    have hne : ((errorAccumulator.messages .clientVisible).sort).isEmpty = false :=
      List.isEmpty_eq_false_iff.mpr (List.ne_nil_of_mem ((Finset.mem_sort _).mpr hmsg))
    exact if_neg (by rw [withErrors, hne]; decide)
  have hresponse := (r.withErrors errorAccumulator).getNonEncryptedResponse_error herror
    (hserialize _ _)
    ((r.withErrors errorAccumulator).scoresDone ∅ ∅ {}) rfl ∅
    (((r.withErrors errorAccumulator).reactor ∅).performDebugReporting r.server.strings r.server.ord
      none none).1
  refine ⟨_, hresponse, ?_⟩
  unfold onErrors
  rw [if_neg (by rw [hserver]; decide)]
  exact congrArg (List.map Exit.ended) (hresponse.finishes hpackages r.recipient)

/-! ## The outcome -/

/-- The errors of the client's side, decoding and validation together. -/
def HasClientError (r : ConfiguredReactor) (decodingErrors : List String) (msg : String) : Prop :=
  ClientError decodingErrors r.decrypted.protectedAuctionInput r.decrypted.buyerInputs msg

/-- A request ends with all the errors of the kind that comes first, without a call of a buyer, or
asks the buyers; one of these happens, and once. -/
structure Decides (packages : Option EncryptionCloudPlatform → NonEncryptedResponse → Bool)
    (r : ConfiguredReactor) (decodingErrors : List String) : Prop where
  recorded : ∀ msg, msg ∈ (r.executeDecrypted packages decodingErrors).errorAccumulator.messages
    .adServerVisible ↔ AdServerError r msg
  adServer : (∃ msg, AdServerError r msg) → ∃ text, CarriesAll (AdServerError r) text ∧
    (r.executeDecrypted packages decodingErrors).exits =
      [.ended (.finished ⟨kInvalidArgument, text⟩)] ∧
    (r.executeDecrypted packages decodingErrors).getBidsRequests = []
  client : (∀ msg, ¬AdServerError r msg) →
    (∃ msg, r.HasClientError decodingErrors msg) →
    ∃ text plaintext, CarriesAll (r.HasClientError decodingErrors) text ∧
      IsErrorResponse r.server.cbor r.auctionConfig.adAuctionResultNonce ⟨kClientSide, text⟩
        plaintext ∧
      (r.executeDecrypted packages decodingErrors).exits =
        [.ended (.response r.recipient plaintext)] ∧
      (r.executeDecrypted packages decodingErrors).getBidsRequests = []
  fetchBids : (∀ msg, ¬AdServerError r msg) →
    (∀ msg, ¬r.HasClientError decodingErrors msg) →
    (r.executeDecrypted packages decodingErrors).exits = [.fetchBids] ∧
    (r.executeDecrypted packages decodingErrors).getBidsRequests = r.getBidsRequests

/-- The errors after `MayPopulateAdServerVisibleErrors`. -/
def populated (r : ConfiguredReactor) (decodingErrors : List String) : ErrorAccumulator :=
  (ErrorAccumulator.reportAll {} .clientVisible decodingErrors).reportAll .adServerVisible
    r.adServerVisibleErrors

theorem executeDecrypted_of_error {decodingErrors : List String}
    (h : r.prioritySignalsVector.toOption = none) :
    r.executeDecrypted packages decodingErrors =
      ⟨r.populated decodingErrors, [.ended .aborted], []⟩ := by
  unfold executeDecrypted mayPopulateAdServerVisibleErrors
  rw [h]
  rfl

theorem executeDecrypted_of_ok {decodingErrors : List String} {vector : List (String × Json)}
    (h : r.prioritySignalsVector.toOption = some vector) :
    r.executeDecrypted packages decodingErrors =
      r.executePopulated packages (r.populated decodingErrors) := by
  unfold executeDecrypted mayPopulateAdServerVisibleErrors
  rw [h]
  rfl

theorem mem_populated_adServer (decodingErrors : List String) (msg : String) :
    msg ∈ (r.populated decodingErrors).messages .adServerVisible ↔ AdServerError r msg := by
  unfold populated
  rw [ErrorAccumulator.messages_reportAll, if_pos rfl, ErrorAccumulator.messages_reportAll,
    if_neg (by decide), ErrorAccumulator.messages_empty, Finset.empty_union, List.mem_toFinset,
    mem_adServerVisibleErrors_iff]

theorem messages_validated (errorAccumulator : ErrorAccumulator) :
    (r.validated errorAccumulator).messages .adServerVisible =
      errorAccumulator.messages .adServerVisible := by
  unfold validated
  split
  · rfl
  · rw [ErrorAccumulator.messages_reportAll, if_neg (by decide)]

/-- What is recorded of the errors that the ad server may see: nothing is reported later but to
the client. -/
theorem mem_recorded_iff (decodingErrors : List String) (msg : String) :
    msg ∈ (r.executeDecrypted packages decodingErrors).errorAccumulator.messages .adServerVisible ↔
      AdServerError r msg := by
  rw [← mem_populated_adServer decodingErrors]
  cases hvector : r.prioritySignalsVector.toOption with
  | none => rw [executeDecrypted_of_error hvector]
  | some vector =>
    rw [executeDecrypted_of_ok hvector]
    unfold executePopulated
    split
    · rfl
    · split
      · rw [messages_validated]
      · rw [messages_validated]

theorem haveErrors_populated_adServer {decodingErrors : List String} :
    (r.populated decodingErrors).haveErrors .adServerVisible = true ↔
      ∃ msg, AdServerError r msg := by
  unfold populated
  rw [ErrorAccumulator.haveErrors_reportAll, ErrorAccumulator.haveErrors_reportAll,
    ErrorAccumulator.haveErrors_empty]
  simp only [← mem_adServerVisibleErrors_iff]
  cases r.adServerVisibleErrors with
  | nil => simp
  | cons msg msgs => exact iff_of_true rfl ⟨msg, List.mem_cons_self⟩

theorem haveErrors_populated_client {decodingErrors : List String} :
    (r.populated decodingErrors).haveErrors .clientVisible = !decodingErrors.isEmpty := by
  unfold populated
  rw [ErrorAccumulator.haveErrors_reportAll, ErrorAccumulator.haveErrors_reportAll,
    ErrorAccumulator.haveErrors_empty]
  simp

theorem mem_populated_client {decodingErrors : List String} {msg : String} :
    msg ∈ (r.populated decodingErrors).messages .clientVisible ↔ msg ∈ decodingErrors := by
  unfold populated
  rw [ErrorAccumulator.messages_reportAll, if_neg (by decide), ErrorAccumulator.messages_reportAll,
    if_pos rfl, ErrorAccumulator.messages_empty, Finset.empty_union, List.mem_toFinset]

/-- The errors for the client are those of the decoding, or, where there are none, those of the
mandatory fields. -/
theorem mem_validated_client {decodingErrors : List String} {msg : String} :
    msg ∈ (r.validated (r.populated decodingErrors)).messages .clientVisible ↔
      r.HasClientError decodingErrors msg := by
  unfold validated
  rw [haveErrors_populated_client]
  by_cases hdecoded : decodingErrors = []
  · rw [if_neg (by rw [hdecoded]; decide), ErrorAccumulator.messages_reportAll, if_pos rfl,
      Finset.mem_union, mem_populated_client, List.mem_toFinset,
      mem_validateProtectedAuctionInput_iff hdecoded, or_iff_right (by rw [hdecoded]; simp)]
    rfl
  · rw [if_pos (by simpa using hdecoded), mem_populated_client]
    constructor
    · exact .decoding
    · rintro (h | ⟨h, _⟩ | ⟨h, _⟩ | ⟨h, _⟩ | ⟨h, _⟩)
      · exact h
      all_goals exact absurd h hdecoded

theorem hasErrors_validated {decodingErrors : List String} (hserver : ∀ msg, ¬AdServerError r msg) :
    (r.validated (r.populated decodingErrors)).hasErrors = true ↔
      ∃ msg, r.HasClientError decodingErrors msg := by
  have hnone : r.adServerVisibleErrors = [] := List.eq_nil_iff_forall_not_mem.mpr fun msg hmsg =>
    hserver msg (mem_adServerVisibleErrors_iff.mp hmsg)
  have hpopulated : (r.populated decodingErrors).hasErrors = !decodingErrors.isEmpty := by
    unfold populated
    rw [ErrorAccumulator.hasErrors_reportAll, ErrorAccumulator.hasErrors_reportAll, hnone]
    exact Bool.or_false _
  unfold validated
  rw [haveErrors_populated_client]
  by_cases hdecoded : decodingErrors = []
  · rw [if_neg (by rw [hdecoded]; decide), ErrorAccumulator.hasErrors_reportAll, hpopulated]
    simp only [HasClientError, ← mem_validateProtectedAuctionInput_iff hdecoded]
    rw [hdecoded]
    cases validateProtectedAuctionInput r.decrypted.protectedAuctionInput
        r.decrypted.buyerInputs with
    | nil => simp
    | cons msg msgs => exact iff_of_true rfl ⟨msg, List.mem_cons_self⟩
  · have hnonempty : (!decodingErrors.isEmpty) = true := by simpa using hdecoded
    rw [if_pos hnonempty, hpopulated]
    obtain ⟨msg, hmsg⟩ := List.exists_mem_of_ne_nil _ hdecoded
    exact iff_of_true hnonempty ⟨msg, .decoding hmsg⟩

theorem haveErrors_validated_adServer (errorAccumulator : ErrorAccumulator) :
    (r.validated errorAccumulator).haveErrors .adServerVisible =
      errorAccumulator.haveErrors .adServerVisible := by
  unfold validated
  split
  · rfl
  · rw [ErrorAccumulator.haveErrors_reportAll]
    exact Bool.or_false _

theorem decides_of_read (decodingErrors : List String)
    (hserialize : ∀ error nonce, (r.server.cbor.serialize (errorItem error nonce)).isSome = true)
    (hpackages : ∀ recipient plaintext, packages recipient plaintext = true)
    (hread : PrioritySignalsRead r) : Decides packages r decodingErrors := by
  obtain ⟨vector, hvector⟩ : ∃ vector, r.prioritySignalsVector.toOption = some vector := by
    have hok := isOk_prioritySignalsVector_iff.mpr hread
    cases hvector : r.prioritySignalsVector with
    | error _ =>
      rw [hvector] at hok
      cases hok
    | ok vector => exact ⟨vector, rfl⟩
  refine ⟨mem_recorded_iff decodingErrors, fun hserver => ?_, fun hserver hclient => ?_,
    fun hserver hclient => ?_⟩
  · have hhave : (r.populated decodingErrors).haveErrors .adServerVisible = true :=
      haveErrors_populated_adServer.mpr hserver
    rw [executeDecrypted_of_ok hvector, executePopulated, if_pos hhave, onErrors, if_pos hhave,
      ErrorAccumulator.getAccumulatedErrorString_eq]
    exact ⟨_, carriesAll_sort (mem_populated_adServer decodingErrors), rfl, rfl⟩
  · have hhave : (r.populated decodingErrors).haveErrors .adServerVisible = false :=
      Bool.eq_false_iff.mpr fun hhave =>
        (haveErrors_populated_adServer.mp hhave).elim hserver
    obtain ⟨msg, hmsg⟩ := hclient
    have hvalidated : (r.validated (r.populated decodingErrors)).haveErrors .adServerVisible =
        false := by rw [haveErrors_validated_adServer, hhave]
    have hmessage : msg ∈ (r.validated (r.populated decodingErrors)).messages .clientVisible :=
      mem_validated_client.mpr hmsg
    obtain ⟨plaintext, hresponse, hexits⟩ :=
      onErrors_client hvalidated hmessage hserialize hpackages
    rw [executeDecrypted_of_ok hvector, executePopulated, if_neg (Bool.eq_false_iff.mp hhave),
      if_pos ((hasErrors_validated hserver).mpr ⟨msg, hmsg⟩)]
    refine ⟨_, plaintext, carriesAll_accumulatedErrorString fun msg => ?_, hresponse, ?_, rfl⟩
    · rw [Finset.mem_sort, mem_validated_client]
    · rw [hexits]
  · have hhave : ¬(r.populated decodingErrors).haveErrors .adServerVisible = true := fun hhave =>
      (haveErrors_populated_adServer.mp hhave).elim hserver
    have hnone : ¬(r.validated (r.populated decodingErrors)).hasErrors = true := fun hhas =>
      ((hasErrors_validated hserver).mp hhas).elim hclient
    rw [executeDecrypted_of_ok hvector, executePopulated, if_neg hhave, if_neg hnone]
    exact ⟨rfl, rfl⟩

theorem read_of_decides (decodingErrors : List String) (h : Decides packages r decodingErrors) :
    PrioritySignalsRead r := by
  by_contra hnot
  have hvector : r.prioritySignalsVector.toOption = none := by
    have hok := mt isOk_prioritySignalsVector_iff.mp hnot
    cases hvector : r.prioritySignalsVector with
    | error _ => rfl
    | ok _ =>
      rw [hvector] at hok
      exact absurd rfl hok
  have herror : AdServerError r kMalformedPrioritySignals := by
    unfold PrioritySignalsRead at hnot
    push Not at hnot
    exact .prioritySignals hnot.1 hnot.2.1 hnot.2.2
  obtain ⟨text, -, hexits, -⟩ := h.adServer ⟨_, herror⟩
  rw [executeDecrypted_of_error hvector] at hexits
  cases hexits

/-- Every request that is decrypted comes to the one end that its errors call for, exactly if its
priority signals, where they are used, are a JSON object. -/
theorem decides_iff (packages : Option EncryptionCloudPlatform → NonEncryptedResponse → Bool)
    (r : ConfiguredReactor) (decodingErrors : List String)
    (hserialize : ∀ error nonce, (r.server.cbor.serialize (errorItem error nonce)).isSome = true)
    (hpackages : ∀ recipient plaintext, packages recipient plaintext = true) :
    Decides packages r decodingErrors ↔ PrioritySignalsRead r :=
  ⟨read_of_decides decodingErrors, decides_of_read decodingErrors hserialize hpackages⟩

end ConfiguredReactor

/-! ## A browser with an empty input -/

/-- The message for a browser whose input has nothing but a generation id, and its bytes. -/
def emptyInputMessage := "Request is missing buyer inputs; Request is missing publisher name"

def emptyInputBytes : Bytes :=
  [161, 101] ++ bytesOf "error" ++ [162, 100] ++ bytesOf "code" ++ [25, 1, 144, 103] ++
    bytesOf "message" ++ [120, 66] ++ bytesOf emptyInputMessage

def emptyInputLib : LibCbor where
  half v := v
  lowWord v := v
  serialize item :=
    some (if item = errorItem ⟨kClientSide, emptyInputMessage⟩ "" then emptyInputBytes else [])
  load _ := none

def emptyObjectDocuments : Library :=
  { noDocuments with
    parseJsonString := fun text => if text = "\x7b\x7d" then some (.object []) else none }

/-- A server that uses priority signals, and a browser's request with such signals. -/
def emptyInputReactor (prioritySignals : String) : ConfiguredReactor where
  server := { compressedServer ⟨fun _ => none, fun _ => none⟩ with
    lib := emptyObjectDocuments
    cbor := emptyInputLib
    enablePriorityVector := true }
  services := noBidServices
  clientType := .browser
  decrypted := {
    protectedAuctionInput := { generationId := "1" }
    rng := FetchBids.leastRng }
  auctionScope := .singleSeller
  auctionConfig := { oneBuyerConfig with prioritySignals := prioritySignals }
  requestAuctionConfig := { oneBuyerConfig with prioritySignals := prioritySignals }

/-- With signals that are an object, the browser is told what its input is missing. -/
theorem emptyInput_decides :
    ConfiguredReactor.Decides (fun _ _ => true) (emptyInputReactor "\x7b\x7d") [] :=
  (ConfiguredReactor.decides_iff _ _ _ (fun _ _ => rfl) fun _ _ => rfl).mpr
    fun _ _ => ⟨[], rfl⟩

/-- With signals that are no JSON, the process is at its end. -/
theorem malformedPrioritySignals_abort :
    ((emptyInputReactor "[").executeDecrypted (fun _ _ => true) []).exits = [.ended .aborted] ∧
      ¬ConfiguredReactor.Decides (fun _ _ => true) (emptyInputReactor "[") [] := by
  refine ⟨rfl, fun h => ?_⟩
  obtain ⟨members, hmembers⟩ := ConfiguredReactor.read_of_decides [] h rfl (by decide)
  cases hmembers

end SelectAd

end BiddingAuction

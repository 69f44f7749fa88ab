import BiddingAuction.Web.Messages

/-!
# Component auction results

What a top-level auction is given: each result is decrypted and decoded, and
validated unless it is chaff or an error. A result that fails is left out. Two
results with one component seller end the auction, whatever kind they are of.
-/

namespace BiddingAuction

variable {F : Type}

/-! ## Validation -/

def kErrorInAuctionResult (error : String) : String :=
  "Error while validating component auction_result: " ++ error ++ "."
def kErrorDecryptingAuctionResultError (error : String) : String :=
  "Error while decrypting auction_result_ciphertext: " ++ error ++ "."
def kMismatchedGenerationIdInAuctionResultError := "Mismatched generationId."
def kEmptyComponentSellerInAuctionResultError :=
  "Component Seller Auction Result must contain component seller domain"
def kMismatchedTopLevelSellerInAuctionResultError := "Mismatched top level seller."
def kUnsupportedAdTypeInAuctionResultError := "Unsupported ad type."
def kTopLevelWinReportingUrlsInAuctionResultError :=
  "Top Level Win Reporting URLs should not be present."
def kMultipleComponentAuctionResultsError :=
  "Top Level Auction contains multiple auction results for the same seller: "
def kMismatchedCurrencyInAuctionResultError :=
  "Component seller auction result bid currency does not match top-level " ++
  "seller's expected currency for this component seller."
def kBadBinaryProto := "Unable to decode binary proto"

structure PerComponentSellerConfig where
  expectedCurrency : String := ""
deriving DecidableEq, Repr

def isAuctionResultBidCurrencyAsExpected (expectedComponentSellerCurrency : String)
    (auctionResult : AuctionResult F) : Bool :=
  expectedComponentSellerCurrency.isEmpty || auctionResult.bidCurrency.isEmpty ||
    expectedComponentSellerCurrency = auctionResult.bidCurrency

/-- `report_error_lambda`: what it reports. -/
def reportError (hasError : Bool) (errorMsg : String) : List String :=
  if hasError then [errorMsg] else []

/-- The errors `ValidateComponentAuctionResult` reports. -/
def componentAuctionResultErrors (auctionResult : AuctionResult F)
    (requestGenerationId sellerDomain : String)
    (perComponentSellerConfigs : FlatHashMap String PerComponentSellerConfig) : List String :=
  let componentSeller := auctionResult.auctionParams.componentSeller
  let expectedComponentSellerCurrency :=
    ((perComponentSellerConfigs.lookup componentSeller).map fun config =>
      config.expectedCurrency).getD ""
  let topLevelReportingUrl :=
    (auctionResult.winReportingUrls.topLevelSellerReportingUrls.map fun urls =>
      urls.reportingUrl).getD ""
  -- chaff and errors are passed on as they are
  if auctionResult.isChaff || !((auctionResult.error.map fun e => e.message).getD "").isEmpty then
    []
  else
    reportError (auctionResult.auctionParams.ciphertextGenerationId ≠ requestGenerationId)
      (kErrorInAuctionResult kMismatchedGenerationIdInAuctionResultError) ++
    reportError (auctionResult.topLevelSeller ≠ sellerDomain)
      (kErrorInAuctionResult kMismatchedTopLevelSellerInAuctionResultError) ++
    reportError componentSeller.isEmpty
      (kErrorInAuctionResult kEmptyComponentSellerInAuctionResultError) ++
    reportError (auctionResult.adType ≠ .protectedAudienceAd &&
        auctionResult.adType ≠ .protectedAppSignalsAd)
      (kErrorInAuctionResult kUnsupportedAdTypeInAuctionResultError) ++
    reportError (!topLevelReportingUrl.isEmpty)
      (kErrorInAuctionResult kTopLevelWinReportingUrlsInAuctionResultError) ++
    reportError (!isAuctionResultBidCurrencyAsExpected expectedComponentSellerCurrency
        auctionResult)
      (kErrorInAuctionResult kMismatchedCurrencyInAuctionResultError)

structure ComponentValidation where
  requestGenerationId : String
  sellerDomain : String
  perComponentSellerConfigs : FlatHashMap String PerComponentSellerConfig := ∅

def validateComponentAuctionResult (v : ComponentValidation) (auctionResult : AuctionResult F) :
    Bool :=
  (componentAuctionResultErrors auctionResult v.requestGenerationId v.sellerDomain
    v.perComponentSellerConfigs).isEmpty

/-! ## Decryption -/

structure ComponentAuctionResult where
  auctionResultCiphertext : Bytes
  keyId : String

/-- The steps from a ciphertext to a message, with the text of their errors. -/
structure ComponentResultLibrary (F : Type) where
  hpkeDecrypt : Bytes → String → Except String Bytes
  decodeRequestPayload : Bytes → Except String Bytes
  gzipDecompress : Bytes → Except String Bytes
  parseFromArray : Bytes → Option (AuctionResult F)

def unpackageServerAuctionComponentResult (lib : ComponentResultLibrary F)
    (componentAuctionResult : ComponentAuctionResult) : Except String (AuctionResult F) := do
  let encoded ← lib.hpkeDecrypt componentAuctionResult.auctionResultCiphertext
    componentAuctionResult.keyId
  let compressedData ← lib.decodeRequestPayload encoded
  let payload ← lib.gzipDecompress compressedData
  match lib.parseFromArray payload with
  | some proto => return proto
  | none => throw kBadBinaryProto

/-! ## The loop -/

/-- The results so far, the sellers encountered and the errors reported. -/
structure CollectedResults (F : Type) where
  componentAuctionResults : List (AuctionResult F) := []
  componentSellers : List String := []
  errors : List String := []

/-- One turn of the loop; it ends with the errors on a duplicate seller. -/
def collectComponentResult (lib : ComponentResultLibrary F) (v : ComponentValidation)
    (c : CollectedResults F) (encAuctionResult : ComponentAuctionResult) :
    Except (List String) (CollectedResults F) :=
  match unpackageServerAuctionComponentResult lib encAuctionResult with
  | .error message =>
    .ok { c with errors := c.errors ++ [kErrorDecryptingAuctionResultError message] }
  | .ok auctionResult =>
    let seller := auctionResult.auctionParams.componentSeller
    if validateComponentAuctionResult v auctionResult then
      if seller ∈ c.componentSellers then
        .error (c.errors ++ [kMultipleComponentAuctionResultsError ++ seller ++ "."])
      else
        .ok { c with
          componentAuctionResults := c.componentAuctionResults ++ [auctionResult]
          componentSellers := c.componentSellers ++ [seller] }
    else
      .ok { c with
        errors := c.errors ++ componentAuctionResultErrors auctionResult v.requestGenerationId
          v.sellerDomain v.perComponentSellerConfigs }

def decryptAndValidateComponentAuctionResults (lib : ComponentResultLibrary F)
    (v : ComponentValidation) (requests : List ComponentAuctionResult) :
    List (AuctionResult F) × List String :=
  match requests.foldlM (collectComponentResult lib v) {} with
  | .ok c => (c.componentAuctionResults, c.errors)
  | .error errors => ([], errors)

/-! ## What is accepted -/

def decodedResults (lib : ComponentResultLibrary F) (requests : List ComponentAuctionResult) :
    List (AuctionResult F) :=
  requests.filterMap fun enc => (unpackageServerAuctionComponentResult lib enc).toOption

def acceptedResults (lib : ComponentResultLibrary F) (v : ComponentValidation)
    (requests : List ComponentAuctionResult) : List (AuctionResult F) :=
  (decodedResults lib requests).filter (validateComponentAuctionResult v)

def componentSellerOf (auctionResult : AuctionResult F) : String :=
  auctionResult.auctionParams.componentSeller

theorem acceptedResults_of_error {lib : ComponentResultLibrary F} (v : ComponentValidation)
    {enc : ComponentAuctionResult} {message : String} (requests : List ComponentAuctionResult)
    (h : unpackageServerAuctionComponentResult lib enc = .error message) :
    acceptedResults lib v (enc :: requests) = acceptedResults lib v requests := by
  unfold acceptedResults decodedResults
  rw [List.filterMap_cons_none (by rw [h]; rfl)]

theorem acceptedResults_of_ok {lib : ComponentResultLibrary F} (v : ComponentValidation)
    {enc : ComponentAuctionResult} {auctionResult : AuctionResult F}
    (requests : List ComponentAuctionResult)
    (h : unpackageServerAuctionComponentResult lib enc = .ok auctionResult) :
    acceptedResults lib v (enc :: requests) =
      if validateComponentAuctionResult v auctionResult then
        auctionResult :: acceptedResults lib v requests
      else acceptedResults lib v requests := by
  unfold acceptedResults decodedResults
  rw [List.filterMap_cons_some (b := auctionResult) (by rw [h]; rfl), List.filter_cons]

theorem foldlM_collectComponentResult (lib : ComponentResultLibrary F) (v : ComponentValidation)
    (requests : List ComponentAuctionResult) (c : CollectedResults F)
    (hsellers : c.componentSellers.Nodup) :
    if (c.componentSellers ++ (acceptedResults lib v requests).map componentSellerOf).Nodup then
      ∃ c', requests.foldlM (collectComponentResult lib v) c = .ok c' ∧
        c'.componentAuctionResults = c.componentAuctionResults ++ acceptedResults lib v requests
    else ∃ errors, requests.foldlM (collectComponentResult lib v) c = .error errors := by
  induction requests generalizing c with
  | nil =>
    have hnil : acceptedResults lib v [] = [] := rfl
    rw [hnil, List.map_nil, List.append_nil, if_pos hsellers]
    exact ⟨c, rfl, (List.append_nil _).symm⟩
  | cons enc requests ih =>
    rw [List.foldlM_cons]
    cases hdecoded : unpackageServerAuctionComponentResult lib enc with
    | error message =>
      rw [acceptedResults_of_error v requests hdecoded]
      unfold collectComponentResult
      rw [hdecoded]
      exact ih { c with errors := c.errors ++ [kErrorDecryptingAuctionResultError message] }
        hsellers
    | ok auctionResult =>
      rw [acceptedResults_of_ok v requests hdecoded]
      unfold collectComponentResult
      rw [hdecoded]
      by_cases hvalid : validateComponentAuctionResult v auctionResult = true
      · simp only [hvalid, if_true]
        by_cases hdup : auctionResult.auctionParams.componentSeller ∈ c.componentSellers
        · -- the seller was encountered before
          rw [if_pos hdup, if_neg]
          · exact ⟨_, rfl⟩
          · intro hnodup
            rw [List.nodup_append] at hnodup
            exact hnodup.2.2 _ hdup _ (List.mem_cons_self ..) rfl
        · rw [if_neg hdup]
          have hsellers' : (c.componentSellers ++
              [auctionResult.auctionParams.componentSeller]).Nodup := by
            rw [List.nodup_append]
            refine ⟨hsellers, List.nodup_singleton _, ?_⟩
            rintro seller hseller _ hself rfl
            exact hdup (List.mem_singleton.mp hself ▸ hseller)
          have hrest := ih { c with
            componentAuctionResults := c.componentAuctionResults ++ [auctionResult]
            componentSellers := c.componentSellers ++
              [auctionResult.auctionParams.componentSeller] } hsellers'
          simp only [List.append_assoc, List.singleton_append] at hrest
          exact hrest
      · simp only [hvalid]
        exact ih { c with
          errors := c.errors ++ componentAuctionResultErrors auctionResult v.requestGenerationId
            v.sellerDomain v.perComponentSellerConfigs } hsellers

/-- The accepted results are returned if no two of them hold the same seller;
otherwise nothing is. -/
theorem decryptAndValidateComponentAuctionResults_eq (lib : ComponentResultLibrary F)
    (v : ComponentValidation) (requests : List ComponentAuctionResult) :
    (decryptAndValidateComponentAuctionResults lib v requests).1 =
      if ((acceptedResults lib v requests).map componentSellerOf).Nodup then
        acceptedResults lib v requests
      else [] := by
  have hloop := foldlM_collectComponentResult lib v requests {} List.nodup_nil
  unfold decryptAndValidateComponentAuctionResults
  simp only [List.nil_append] at hloop
  split at hloop
  · rename_i hnodup
    obtain ⟨c', hrun, hresults⟩ := hloop
    rw [hrun, if_pos hnodup]
    exact hresults
  · rename_i hdup
    obtain ⟨errors, hrun⟩ := hloop
    rw [hrun, if_neg hdup]

/-! ## Duplicate sellers -/

/-- Two results that are not chaff name the same component seller. -/
def NameSameSeller (a b : AuctionResult F) : Prop :=
  a.isChaff = false ∧ b.isChaff = false ∧ componentSellerOf a ≠ "" ∧
    componentSellerOf a = componentSellerOf b

/-- Some two of the results, at different places, name the same seller. -/
def RepeatsSeller (results : List (AuctionResult F)) : Prop :=
  ¬ results.Pairwise fun a b => ¬ NameSameSeller a b

/-- The accepted results are returned in order, and nothing only when two that are
not chaff name one seller. -/
def AcceptedFaithfully (lib : ComponentResultLibrary F) (v : ComponentValidation)
    (requests : List ComponentAuctionResult) : Prop :=
  (RepeatsSeller (acceptedResults lib v requests) →
    (decryptAndValidateComponentAuctionResults lib v requests).1 = []) ∧
  (¬ RepeatsSeller (acceptedResults lib v requests) →
    (decryptAndValidateComponentAuctionResults lib v requests).1 =
      acceptedResults lib v requests)

/-- Results are accepted faithfully unless two of them hold the same component
seller, chaff and errors included, without two others that name one. -/
theorem acceptedFaithfully_iff (lib : ComponentResultLibrary F) (v : ComponentValidation)
    (requests : List ComponentAuctionResult) :
    AcceptedFaithfully lib v requests ↔
      (((acceptedResults lib v requests).map componentSellerOf).Nodup ∨
        RepeatsSeller (acceptedResults lib v requests)) := by
  unfold AcceptedFaithfully
  rw [decryptAndValidateComponentAuctionResults_eq]
  by_cases hnodup : ((acceptedResults lib v requests).map componentSellerOf).Nodup
  · have hnot : ¬ RepeatsSeller (acceptedResults lib v requests) := by
      intro hrepeats
      apply hrepeats
      rw [List.Nodup, List.pairwise_map] at hnodup
      exact hnodup.imp fun hne hsame => hne hsame.2.2.2
    rw [if_pos hnodup]
    exact iff_of_true ⟨fun h => absurd h hnot, fun _ => rfl⟩ (Or.inl hnodup)
  · have hne : ([] : List (AuctionResult F)) ≠ acceptedResults lib v requests := by
      intro hnil
      apply hnodup
      rw [← hnil]
      exact List.nodup_nil
    rw [if_neg hnodup, or_iff_right hnodup]
    constructor
    · rintro ⟨-, h⟩
      by_contra hnot
      exact hne (h hnot)
    · intro hrepeats
      exact ⟨fun _ => rfl, fun hnot => absurd hrepeats hnot⟩

/-- A library that reads every ciphertext as the chaff result a component auction
without a winner sends. -/
def exampleChaffLibrary : ComponentResultLibrary ℚ where
  hpkeDecrypt ciphertext _ := .ok ciphertext
  decodeRequestPayload payload := .ok payload
  gzipDecompress data := .ok data
  parseFromArray _ := some { score := 0, bid := 0, isChaff := true }

/-- The chaff of two component sellers ends the auction. -/
theorem acceptedFaithfully_fails_on_two_chaffs :
    ¬ ∀ (lib : ComponentResultLibrary ℚ) (v : ComponentValidation)
      (requests : List ComponentAuctionResult), AcceptedFaithfully lib v requests := by
  intro h
  have hchaff := h exampleChaffLibrary ⟨"generation", "https://seller.example", ∅⟩
    [⟨[1], "key"⟩, ⟨[2], "key"⟩]
  have hnot : ¬ RepeatsSeller (acceptedResults exampleChaffLibrary
      ⟨"generation", "https://seller.example", ∅⟩ [⟨[1], "key"⟩, ⟨[2], "key"⟩]) := by
    intro hrepeats
    apply hrepeats
    have heq : acceptedResults exampleChaffLibrary
        ⟨"generation", "https://seller.example", ∅⟩ [⟨[1], "key"⟩, ⟨[2], "key"⟩] =
        [{ score := 0, bid := 0, isChaff := true },
          { score := 0, bid := 0, isChaff := true }] := rfl
    rw [heq, List.pairwise_pair]
    rintro ⟨hfalse, -⟩
    cases hfalse
  have hlength := congrArg List.length (hchaff.2 hnot)
  revert hlength
  decide

end BiddingAuction

/-!
# Groups of component auctions, merged

Update groups are put into one map result by result; the first result that lists an
owner decides what the owner is mapped to. Bidding groups are merged: the indices
of a buyer that comes back are gathered in a set.
-/

namespace BiddingAuction

variable {F : Type}

/-! ## Update groups -/

/-- One turn of the loop over the results: `emplace` of each of its update groups. -/
def keepUpdateGroups (groups : UpdateGroupMap) (car : AuctionResult F) : UpdateGroupMap :=
  car.updateGroups.entries.foldl (fun groups group => FlatHashMap.emplace groups group.1 group.2)
    groups

def componentAuctionUpdateGroups (results : List (AuctionResult F)) : UpdateGroupMap :=
  results.foldl keepUpdateGroups ∅

def firstListing (owner : String) (results : List (AuctionResult F)) :
    Option UpdateInterestGroupList :=
  results.findSome? fun car => car.updateGroups.lookup owner

theorem lookup_keepUpdateGroups (results : List (AuctionResult F)) (groups : UpdateGroupMap)
    (owner : String) :
    (results.foldl keepUpdateGroups groups).lookup owner =
      (groups.lookup owner).or (firstListing owner results) := by
  induction results generalizing groups with
  | nil => simp [firstListing]
  | cons car results ih =>
    have hcar : (keepUpdateGroups groups car).lookup owner =
        (groups.lookup owner).or (car.updateGroups.lookup owner) :=
      FlatHashMap.lookup_foldl_emplace car.updateGroups.nodupKeys groups owner
    rw [List.foldl_cons, ih, hcar]
    unfold firstListing
    rw [List.findSome?_cons, Option.or_assoc]
    cases car.updateGroups.lookup owner <;> rfl

theorem lookup_componentAuctionUpdateGroups (results : List (AuctionResult F)) (owner : String) :
    (componentAuctionUpdateGroups results).lookup owner = firstListing owner results := by
  unfold componentAuctionUpdateGroups
  rw [lookup_keepUpdateGroups]
  rfl

/-! ## Bidding groups -/

/-- The groups merged so far, and the indices of the buyers that came back. -/
structure MergedBiddingGroups where
  buyerToIgIdxMap : BiddingGroupMap := ∅
  collidingBuyerSets : FlatHashMap String (FlatHashSet Int32) := ∅

def mergeBiddingGroup (m : MergedBiddingGroups)
    (group : Sigma fun _ : String => InterestGroupIndex) : MergedBiddingGroups :=
  match m.buyerToIgIdxMap.lookup group.1 with
  | none => { m with buyerToIgIdxMap := m.buyerToIgIdxMap.insert group.1 group.2 }
  | some igIdx =>
    let igSet := (m.collidingBuyerSets.lookup group.1).getD (.ofList igIdx.index)
    { m with
      collidingBuyerSets :=
        m.collidingBuyerSets.insert group.1 (.ofList (igSet.elems ++ group.2.index)) }

def getBuyerIgsWithBidsMap (componentAuctionBiddingGroups : List BiddingGroupMap) :
    BiddingGroupMap :=
  let m := componentAuctionBiddingGroups.foldl
    (fun m groups => groups.entries.foldl mergeBiddingGroup m) {}
  m.collidingBuyerSets.entries.foldl
    (fun groups colliding => groups.insert colliding.1 ⟨colliding.2.elems⟩) m.buyerToIgIdxMap

def MergedBiddingGroups.indices (m : MergedBiddingGroups) (buyer : String) :
    Option InterestGroupIndex :=
  ((m.collidingBuyerSets.lookup buyer).map fun igSet => ⟨igSet.elems⟩).or
    (m.buyerToIgIdxMap.lookup buyer)

def MergedBiddingGroups.Holds (m : MergedBiddingGroups) (buyer : String) (i : Int32) : Prop :=
  ∃ igIdx, m.indices buyer = some igIdx ∧ i ∈ igIdx.index

/-- The merge is of these groups: it knows their buyers, and holds their indices. -/
structure MergesGroups (groups : List (Sigma fun _ : String => InterestGroupIndex))
    (m : MergedBiddingGroups) : Prop where
  buyers : ∀ buyer, buyer ∈ m.buyerToIgIdxMap ↔ ∃ group ∈ groups, group.1 = buyer
  colliding : ∀ buyer ∈ m.collidingBuyerSets, buyer ∈ m.buyerToIgIdxMap
  holds : ∀ buyer i, m.Holds buyer i ↔ ∃ group ∈ groups, group.1 = buyer ∧ i ∈ group.2.index

theorem indices_of_new {m : MergedBiddingGroups} {buyer b : String} {listed : InterestGroupIndex}
    (hnew : m.collidingBuyerSets.lookup buyer = none) :
    MergedBiddingGroups.indices
        { m with buyerToIgIdxMap := m.buyerToIgIdxMap.insert buyer listed } b =
      if b = buyer then some listed else m.indices b := by
  unfold MergedBiddingGroups.indices
  by_cases hb : b = buyer
  · subst hb
    rw [if_pos rfl, hnew, AList.lookup_insert]
    rfl
  · rw [if_neg hb, AList.lookup_insert_ne hb]

theorem indices_of_colliding {m : MergedBiddingGroups} {buyer b : String}
    {igSet : FlatHashSet Int32} :
    MergedBiddingGroups.indices
        { m with collidingBuyerSets := m.collidingBuyerSets.insert buyer igSet } b =
      if b = buyer then some ⟨igSet.elems⟩ else m.indices b := by
  unfold MergedBiddingGroups.indices
  by_cases hb : b = buyer
  · subst hb
    rw [if_pos rfl, AList.lookup_insert]
    rfl
  · rw [if_neg hb, AList.lookup_insert_ne hb]

theorem mem_collidingSet {m : MergedBiddingGroups} {buyer : String} {igIdx : InterestGroupIndex}
    (hlookup : m.buyerToIgIdxMap.lookup buyer = some igIdx) (i : Int32) :
    i ∈ (m.collidingBuyerSets.lookup buyer).getD (.ofList igIdx.index) ↔ m.Holds buyer i := by
  unfold MergedBiddingGroups.Holds MergedBiddingGroups.indices
  cases hset : m.collidingBuyerSets.lookup buyer with
  | none =>
    rw [Option.getD_none, FlatHashSet.mem_ofList, Option.map_none, Option.none_or, hlookup]
    constructor
    · intro hi
      exact ⟨igIdx, rfl, hi⟩
    · rintro ⟨held, hheld, hi⟩
      rw [Option.some.inj hheld]
      exact hi
  | some igSet =>
    rw [Option.getD_some, Option.map_some, Option.some_or]
    constructor
    · intro hi
      exact ⟨⟨igSet.elems⟩, rfl, hi⟩
    · rintro ⟨held, hheld, hi⟩
      rw [← Option.some.inj hheld] at hi
      exact hi

theorem mergeBiddingGroup_spec {m : MergedBiddingGroups}
    (hcolliding : ∀ buyer ∈ m.collidingBuyerSets, buyer ∈ m.buyerToIgIdxMap)
    (group : Sigma fun _ : String => InterestGroupIndex) :
    (∀ b, b ∈ (mergeBiddingGroup m group).buyerToIgIdxMap ↔
      b ∈ m.buyerToIgIdxMap ∨ group.1 = b) ∧
    (∀ b ∈ (mergeBiddingGroup m group).collidingBuyerSets,
      b ∈ (mergeBiddingGroup m group).buyerToIgIdxMap) ∧
    ∀ b i, (mergeBiddingGroup m group).Holds b i ↔
      m.Holds b i ∨ group.1 = b ∧ i ∈ group.2.index := by
  obtain ⟨buyer, listed⟩ := group
  unfold mergeBiddingGroup
  cases hlookup : m.buyerToIgIdxMap.lookup buyer with
  | none =>
    -- a new buyer: the whole entry is inserted
    have hnotIn : buyer ∉ m.buyerToIgIdxMap := AList.lookup_eq_none.mp hlookup
    have hnew : m.collidingBuyerSets.lookup buyer = none :=
      AList.lookup_eq_none.mpr fun hmem => hnotIn (hcolliding buyer hmem)
    refine ⟨fun b => ?_, fun b hb => ?_, fun b i => ?_⟩
    · rw [AList.mem_insert]
      tauto
    · exact AList.mem_insert _ |>.mpr (Or.inr (hcolliding b hb))
    · unfold MergedBiddingGroups.Holds
      rw [indices_of_new hnew]
      by_cases hb : b = buyer
      · subst hb
        have hnone : m.indices b = none := by
          unfold MergedBiddingGroups.indices
          rw [hnew, hlookup]
          rfl
        simp [hnone]
      · simp [hb, Ne.symm hb]
  | some igIdx =>
    -- a buyer that came back: its set takes the indices in
    have hin : buyer ∈ m.buyerToIgIdxMap :=
      AList.lookup_isSome.mp (by rw [hlookup]; rfl)
    refine ⟨fun b => ?_, fun b hb => ?_, fun b i => ?_⟩
    · constructor
      · exact Or.inl
      · rintro (hb | rfl)
        · exact hb
        · exact hin
    · rcases (AList.mem_insert _).mp hb with rfl | hb
      · exact hin
      · exact hcolliding b hb
    · show MergedBiddingGroups.Holds { m with collidingBuyerSets := _ } b i ↔ _
      have hset := mem_collidingSet hlookup i
      by_cases hb : b = buyer
      · subst hb
        rw [← hset]
        unfold MergedBiddingGroups.Holds
        rw [indices_of_colliding, if_pos rfl]
        simp only [Option.some.injEq, exists_eq_left', true_and]
        show i ∈ FlatHashSet.ofList _ ↔ _
        rw [FlatHashSet.mem_ofList, List.mem_append]
        rfl
      · unfold MergedBiddingGroups.Holds
        rw [indices_of_colliding, if_neg hb]
        simp [Ne.symm hb]

theorem mergesGroups_foldl (groups : List (Sigma fun _ : String => InterestGroupIndex)) :
    MergesGroups groups (groups.foldl mergeBiddingGroup {}) := by
  induction groups using List.reverseRecOn with
  | nil =>
    refine ⟨fun buyer => ?_, fun buyer hbuyer => ?_, fun buyer i => ?_⟩
    · simp [AList.notMem_empty]
    · exact absurd hbuyer (AList.notMem_empty buyer)
    · simp [MergedBiddingGroups.Holds, MergedBiddingGroups.indices]
  | append_singleton groups group ih =>
    -- what is known of the groups before says what the last one adds
    rw [List.foldl_append]
    obtain ⟨hbuyers, hcolliding, hholds⟩ := mergeBiddingGroup_spec ih.colliding group
    refine ⟨fun buyer => ?_, hcolliding, fun buyer i => ?_⟩
    · show buyer ∈ (mergeBiddingGroup _ group).buyerToIgIdxMap ↔ _
      rw [hbuyers, ih.buyers]
      constructor
      · rintro (⟨other, hother, hbuyer⟩ | hbuyer)
        · exact ⟨other, List.mem_append_left _ hother, hbuyer⟩
        · exact ⟨group, by simp, hbuyer⟩
      · rintro ⟨other, hother, hbuyer⟩
        rcases List.mem_append.mp hother with hother | hself
        · exact Or.inl ⟨other, hother, hbuyer⟩
        · rw [List.mem_singleton.mp hself] at hbuyer
          exact Or.inr hbuyer
    · show (mergeBiddingGroup _ group).Holds buyer i ↔ _
      rw [hholds, ih.holds]
      constructor
      · rintro (⟨other, hother, hi⟩ | hi)
        · exact ⟨other, List.mem_append_left _ hother, hi⟩
        · exact ⟨group, by simp, hi⟩
      · rintro ⟨other, hother, hi⟩
        rcases List.mem_append.mp hother with hother | hself
        · exact Or.inl ⟨other, hother, hi⟩
        · rw [List.mem_singleton.mp hself] at hi
          exact Or.inr hi

theorem lookup_getBuyerIgsWithBidsMap (maps : List BiddingGroupMap) (buyer : String) :
    (getBuyerIgsWithBidsMap maps).lookup buyer =
      ((maps.flatMap fun groups => groups.entries).foldl mergeBiddingGroup {}).indices buyer := by
  unfold getBuyerIgsWithBidsMap MergedBiddingGroups.indices
  rw [List.foldl_flatMap]
  exact FlatHashMap.lookup_foldl_insert (fun _ (igSet : FlatHashSet Int32) =>
    InterestGroupIndex.mk igSet.elems) (AList.nodupKeys _) _ buyer

/-! ## What the merges keep -/

/-- A merged map lists for each owner all that any of the maps lists for it, and has
no other owners. -/
def MergesAll {K V E : Type} [DecidableEq K] (listed : V → List E) (maps : List (FlatHashMap K V))
    (merged : FlatHashMap K V) : Prop :=
  (∀ owner, owner ∈ merged ↔ ∃ m ∈ maps, owner ∈ m) ∧
  ∀ owner held, merged.lookup owner = some held → ∀ e, e ∈ listed held ↔
    ∃ m ∈ maps, ∃ group, m.lookup owner = some group ∧ e ∈ listed group

theorem mem_flatMap_entries {V : Type} {maps : List (FlatHashMap String V)} {owner : String}
    {group : V} : (⟨owner, group⟩ : (_ : String) × V) ∈ (maps.flatMap fun m => m.entries) ↔
      ∃ m ∈ maps, m.lookup owner = some group := by
  simp only [List.mem_flatMap, ← AList.mem_lookup_iff, Option.mem_def]

theorem biddingGroups_mergesAll (maps : List BiddingGroupMap) :
    MergesAll InterestGroupIndex.index maps (getBuyerIgsWithBidsMap maps) := by
  have inv := mergesGroups_foldl (maps.flatMap fun groups => groups.entries)
  have hlookup := lookup_getBuyerIgsWithBidsMap maps
  refine ⟨fun owner => ?_, fun owner held hheld e => ?_⟩
  · have hindices : owner ∈ getBuyerIgsWithBidsMap maps ↔
        owner ∈ ((maps.flatMap fun groups => groups.entries).foldl
          mergeBiddingGroup {}).buyerToIgIdxMap := by
      rw [← AList.lookup_isSome, hlookup, ← AList.lookup_isSome, MergedBiddingGroups.indices]
      constructor
      · -- an owner with an index set has collided, so the first map has its entry too
        intro h
        rw [Option.isSome_or, Option.isSome_map, Bool.or_eq_true] at h
        rcases h with h | h
        · exact AList.lookup_isSome.mpr (inv.colliding owner (AList.lookup_isSome.mp h))
        · exact h
      · intro h
        rw [Option.isSome_or, h, Bool.or_true]
    rw [hindices, inv.buyers]
    constructor
    · rintro ⟨⟨owner, group⟩, hgroup, rfl⟩
      obtain ⟨m, hm, hlookup⟩ := mem_flatMap_entries.mp hgroup
      exact ⟨m, hm, AList.lookup_isSome.mp (by rw [hlookup]; rfl)⟩
    · rintro ⟨m, hm, howner⟩
      obtain ⟨group, hgroup⟩ := Option.isSome_iff_exists.mp (AList.lookup_isSome.mpr howner)
      exact ⟨⟨owner, group⟩, mem_flatMap_entries.mpr ⟨m, hm, hgroup⟩, rfl⟩
  · have hholds := inv.holds owner e
    rw [hlookup] at hheld
    have hmem : ((maps.flatMap fun groups => groups.entries).foldl
        mergeBiddingGroup {}).Holds owner e ↔ e ∈ held.index := by
      unfold MergedBiddingGroups.Holds
      rw [hheld]
      simp
    rw [← hmem, hholds]
    constructor
    · rintro ⟨⟨owner, group⟩, hgroup, rfl, he⟩
      obtain ⟨m, hm, hlookup⟩ := mem_flatMap_entries.mp hgroup
      exact ⟨m, hm, group, hlookup, he⟩
    · rintro ⟨m, hm, group, hgroup, he⟩
      exact ⟨⟨owner, group⟩, mem_flatMap_entries.mpr ⟨m, hm, hgroup⟩, rfl, he⟩

def NoGroupLost (results : List (AuctionResult F)) : Prop :=
  MergesAll UpdateInterestGroupList.interestGroups (results.map fun car => car.updateGroups)
    (componentAuctionUpdateGroups results) ∧
  MergesAll InterestGroupIndex.index (results.map fun car => car.biddingGroups)
    (getBuyerIgsWithBidsMap (results.map fun car => car.biddingGroups))

theorem mem_componentAuctionUpdateGroups (results : List (AuctionResult F)) (owner : String) :
    owner ∈ componentAuctionUpdateGroups results ↔ ∃ car ∈ results, owner ∈ car.updateGroups := by
  rw [← AList.lookup_isSome, lookup_componentAuctionUpdateGroups, firstListing,
    List.findSome?_isSome_iff]
  simp only [AList.lookup_isSome]

/-- Nothing is lost just when whoever lists an owner first lists all of its updates:
what a later result lists for the owner is dropped. Bidding groups are never lost. -/
theorem noGroupLost_iff (results : List (AuctionResult F)) :
    NoGroupLost results ↔ ∀ owner first, firstListing owner results = some first →
      ∀ car ∈ results, ∀ group, car.updateGroups.lookup owner = some group →
        group.interestGroups ⊆ first.interestGroups := by
  unfold NoGroupLost
  rw [and_iff_left (biddingGroups_mergesAll _)]
  constructor
  · rintro ⟨-, hall⟩ owner first hfirst car hcar group hgroup e he
    rw [← lookup_componentAuctionUpdateGroups] at hfirst
    exact (hall owner first hfirst e).mpr
      ⟨_, List.mem_map_of_mem hcar, group, hgroup, he⟩
  · intro hfirst
    refine ⟨fun owner => ?_, fun owner held hheld e => ?_⟩
    · rw [mem_componentAuctionUpdateGroups]
      simp
    · rw [lookup_componentAuctionUpdateGroups] at hheld
      constructor
      · -- what is held is the list of the first result that has one
        intro he
        obtain ⟨car, hcar, hlisted⟩ := List.exists_of_findSome?_eq_some hheld
        exact ⟨_, List.mem_map_of_mem hcar, held, hlisted, he⟩
      · rintro ⟨m, hm, group, hgroup, he⟩
        obtain ⟨car, hcar, rfl⟩ := List.mem_map.mp hm
        exact hfirst owner held hheld car hcar group hgroup he

def exampleUpdateResult (index : Int32) : AuctionResult ℚ where
  score := 1
  bid := 1
  updateGroups := AList.singleton "https://buyer.example" ⟨[⟨index, 1000⟩]⟩

/-- Of two results that list different updates for a buyer, the second one's is lost. -/
theorem noGroupLost_fails_on_shared_buyer :
    ¬ ∀ results : List (AuctionResult ℚ), NoGroupLost results := by
  intro h
  obtain ⟨⟨-, hall⟩, -⟩ := h [exampleUpdateResult 0, exampleUpdateResult 1]
  have hlost := (hall "https://buyer.example" ⟨[⟨0, 1000⟩]⟩ rfl ⟨1, 1000⟩).mpr
    ⟨_, List.mem_cons_of_mem _ (List.mem_cons_self ..), ⟨[⟨1, 1000⟩]⟩, rfl, by decide⟩
  revert hlost
  decide

end BiddingAuction

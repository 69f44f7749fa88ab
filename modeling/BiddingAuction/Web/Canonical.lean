import BiddingAuction.Web.Encode

/-!
# Canonical order

Every map the two encoders build has its keys in strictly increasing canonical
order, and no container is given more than it has room for. One pair of keys is the
exception: the contributions of a winner are written before its debug reports.
-/

namespace BiddingAuction

open Foundation.Cbor

variable {F : Type}

/-! ## Values -/

theorem cborBuildUint_canonical (v : UInt32) : (cborBuildUint v).Canonical := .uint _

theorem cborBuildInt_canonical (v : Int32) : (cborBuildInt v).Canonical := by
  unfold cborBuildInt
  split
  · exact .negint _
  · exact .uint _

theorem texts_canonical (texts : List String) : (Item.array (texts.map Item.text)).Canonical :=
  .arrayMap fun s _ => .text s

theorem floatField_under (lib : LibCbor) (key : String) (value : FloatVal) :
    PieceUnder [key] (floatField lib key value) := by
  intro fs hfs
  unfold floatField at hfs
  obtain ⟨item, hitem, rfl⟩ := Option.map_eq_some_iff.mp hfs
  cases hbuilt : cborBuildFloat lib value with
  | error status =>
    rw [hbuilt] at hitem
    cases hitem
  | ok built =>
    rw [hbuilt] at hitem
    cases hitem
    obtain ⟨precision, v, rfl⟩ := cborBuildFloat_float hbuilt
    exact .field (.float precision v)

theorem ifSet_under (key : String) (value : Option String) :
    FieldsUnder [key] (ifSet key value) := by
  cases value with
  | none => exact .nothing [key]
  | some value => exact .field (.text value)

theorem ifNonempty_under (key value : String) : FieldsUnder [key] (ifNonempty key value) :=
  .when (.field (.text value))

theorem orderedEntries_sorted {V : Type} (m : FlatHashMap String V) :
    ((orderedEntries m).map Prod.fst).Pairwise KeyLt := by
  rw [orderedEntries_keys]
  exact sortKeys_strict m.nodupKeys

/-! ## Contributions -/

theorem contributionsItem_canonical (contributions : List (PrivateAggregateContribution F)) :
    (contributionsItem contributions).Canonical := by
  refine .arrayMap ?_
  intro fs hfs
  obtain ⟨contribution, _, hfields⟩ := List.mem_filterMap.mp hfs
  unfold contributionFields at hfields
  split at hfields
  · rw [← Option.some.inj hfields]
    exact FieldsUnder.record [kValue, kBucket]
      (.cons (cborBuildInt_canonical _) (.field (.bytes _))) (by decide)
  · cases hfields

theorem eventContributionsItem_canonical (ord : HashOrder)
    (contributions : List (PrivateAggregateContribution F)) :
    (eventContributionsItem ord contributions).Canonical := by
  refine .arrayMap ?_
  intro group _
  have hevent : FieldsUnder [kEvent]
      (if isReserved group.1 then [] else [(kEvent, .text group.1)]) := by
    split
    · exact .nothing _
    · exact .field (.text group.1)
  exact (hevent.append (.field (contributionsItem_canonical group.2))).record _ (by decide)

theorem igContributionsItem_canonical (ord : HashOrder)
    (contributions : List (PrivateAggregateContribution F)) :
    (igContributionsItem ord contributions).Canonical := by
  refine .array ?_
  intro item hitem
  rcases List.mem_append.mp hitem with hgroup | hrest
  · obtain ⟨group, _, rfl⟩ := List.mem_map.mp hgroup
    exact FieldsUnder.record [kIgIndex, kEventContributions]
      (.cons (cborBuildInt_canonical _) (.field (eventContributionsItem_canonical ord _)))
      (by decide)
  · unfold noIgItems at hrest
    split at hrest
    · cases hrest
    · rw [List.mem_singleton.mp hrest]
      exact FieldsUnder.record [kEventContributions]
        (.field (eventContributionsItem_canonical ord _)) (by decide)

theorem paggResponseItem_canonical (ord : HashOrder)
    (responses : List (PrivateAggregateReportingResponse F)) (limit : Int32) :
    (paggResponseItem ord responses limit).Canonical := by
  refine .arrayMap ?_
  intro group _
  exact FieldsUnder.record [kIgContributions, kReportingOrigin]
    (.cons (igContributionsItem_canonical ord _) (.field (.text _))) (by decide)

/-! ## Ghost winners -/

theorem joinCandidate_canonical (candidate : KAnonJoinCandidate) :
    (Item.record (joinCandidateFields candidate)).Canonical :=
  FieldsUnder.record
    [kAdRenderUrlHash, kReportingIdHash, kAdComponentRenderUrlsHash]
    (.cons (.bytes _) <| .cons (.bytes _) <| .field (.arrayMap fun hash _ => .bytes hash))
    (by decide)

theorem topLevelGhostItem_canonical {lib : LibCbor}
    {ghostWinner : GhostWinnerForTopLevelAuction FloatVal} {item : Item}
    (h : topLevelGhostItem lib ghostWinner = some item) : item.Canonical := by
  have hpieces : List.Forall₂ PieceUnder [[kAdMetadata], [kAdRenderUrl], [kBidCurrency],
      [kModifiedBid], [kBuyerReportingId], [kAdComponentRenderUrls], [kBuyerAndSellerReportingId],
      [kSelectedBuyerAndSellerReportingId]] (topLevelGhostPieces lib ghostWinner) :=
    .cons (.some (ifNonempty_under _ _)) <| .cons (.some (.field (.text _))) <|
      .cons (.some (ifNonempty_under _ _)) <| .cons (floatField_under lib _ _) <|
      .cons (.some (ifSet_under _ _)) <| .cons (.some (.field (texts_canonical _))) <|
      .cons (.some (ifSet_under _ _)) <| .cons (.some (ifSet_under _ _)) .nil
  unfold topLevelGhostItem at h
  split at h
  · cases h
  · obtain ⟨fs, hfs, rfl⟩ := Option.map_eq_some_iff.mp h
    exact canonical_join _ hpieces (by decide) hfs

theorem signalsItem_canonical (signals : List GhostWinnerPrivateAggregationSignals) :
    (signalsItem signals).Canonical := by
  refine .arrayMap ?_
  intro signal _
  exact FieldsUnder.record [kValue, kBucket]
    (.cons (cborBuildInt_canonical _) (.field (.bytes _))) (by decide)

theorem ghostItem_canonical {lib : LibCbor} {ghost : KAnonGhostWinner FloatVal} {item : Item}
    (h : ghostItem lib ghost = some item) : item.Canonical := by
  have htopLevel : PieceUnder [kGhostWinnerForTopLevelAuction]
      (ghost.ghostWinnerForTopLevelAuction.elim (some []) fun ghostWinner =>
        (topLevelGhostItem lib ghostWinner).map fun item =>
          [(kGhostWinnerForTopLevelAuction, item)]) := by
    cases ghost.ghostWinnerForTopLevelAuction with
    | none => exact .some (.nothing _)
    | some ghostWinner =>
      intro fs hfs
      obtain ⟨item, hitem, rfl⟩ := Option.map_eq_some_iff.mp hfs
      exact .field (topLevelGhostItem_canonical hitem)
  have hpieces : List.Forall₂ PieceUnder [[kOwner], [kInterestGroupName], [kInterestGroupIndex],
      [kKAnonJoinCandidates], [kGhostWinnerForTopLevelAuction],
      [kGhostWinnerPrivateAggregationSignals]] (ghostPieces lib ghost) :=
    .cons (.some (.field (.text _))) <| .cons (.some (.field (.text _))) <|
      .cons (.some (.field (cborBuildInt_canonical _))) <|
      .cons (.some (.field (joinCandidate_canonical _))) <| .cons htopLevel <|
      .cons (.some (.when (.field (signalsItem_canonical _)))) .nil
  unfold ghostItem at h
  obtain ⟨fs, hfs, rfl⟩ := Option.map_eq_some_iff.mp h
  exact canonical_join _ hpieces (by decide) hfs

theorem ghostsField_under (lib : LibCbor) (ghosts : List (KAnonGhostWinner FloatVal)) :
    PieceUnder [kKAnonGhostWinners] (ghostsField lib ghosts) := by
  intro fs hfs
  obtain ⟨items, hitems, rfl⟩ := Option.map_eq_some_iff.mp hfs
  refine .field (.array ?_)
  intro item hitem
  obtain ⟨ghost, _, hghost⟩ := mem_of_mapM hitems hitem
  exact ghostItem_canonical hghost

/-! ## Reports, groups and URLs -/

theorem debugReportsItem_canonical (debugReports : AdtechOriginDebugUrlsMap) :
    (debugReportsItem debugReports).Canonical := by
  refine .arrayMap ?_
  intro entry _
  have hreport : ∀ report : DebugReport, (Item.record (debugReportFields report)).Canonical :=
    fun report => FieldsUnder.record [kUrl, kIsWinReport, kComponentWin, kIsSellerReport]
      (.cons (.text _) <| .cons (.bool _) <| .cons (.bool _) <| .field (.bool _)) (by decide)
  exact FieldsUnder.record [kReports, kAdTechOrigin]
    (.cons (.arrayMap fun report _ => hreport report) (.field (.text _))) (by decide)

theorem updateGroupsItem_canonical (updateGroups : UpdateGroupMap) :
    (updateGroupsItem updateGroups).Canonical := by
  refine .sorted (orderedEntries_sorted updateGroups) ?_
  intro entry _
  refine .arrayMap ?_
  intro update _
  exact FieldsUnder.record [kIndex, kUpdateIfOlderThanMs]
    (.cons (cborBuildInt_canonical _) (.field (cborBuildInt_canonical _))) (by decide)

theorem biddingGroupsItem_canonical (biddingGroups : BiddingGroupMap) :
    (biddingGroupsItem biddingGroups).Canonical := by
  refine .sorted (orderedEntries_sorted biddingGroups) ?_
  intro entry _
  exact .arrayMap fun index _ => cborBuildUint_canonical index.toUInt32

theorem interactionUrlsItem_canonical (interactionUrlMap : FlatHashMap String String) :
    (interactionUrlsItem interactionUrlMap).Canonical :=
  .sorted (orderedEntries_sorted interactionUrlMap) fun entry _ => .text entry.2

theorem reportingUrlsField_under (key : String) (reportingUrls : Option ReportingUrls) :
    FieldsUnder [key] (reportingUrlsField key reportingUrls) := by
  cases reportingUrls with
  | none => exact .nothing _
  | some urls =>
    have hfields : FieldsUnder ([kReportingUrl] ++ [kInteractionReportingUrls])
        (reportingUrlsFields urls) :=
      (ifNonempty_under _ _).append (.when (.field (interactionUrlsItem_canonical _)))
    exact .when (.field (hfields.record _ (by decide)))

theorem winReportingUrlsField_under (winReportingUrls : WinReportingUrls) :
    FieldsUnder [kWinReportingUrls] (winReportingUrlsField winReportingUrls) := by
  have hfields : FieldsUnder ([kBuyerReportingUrls] ++ ([kTopLevelSellerReportingUrls] ++
      [kComponentSellerReportingUrls])) (winReportingUrlsFields winReportingUrls) :=
    (reportingUrlsField_under _ _).append <|
      (reportingUrlsField_under _ _).append (reportingUrlsField_under _ _)
  exact .when (.field (hfields.record _ (by decide)))

/-! ## The root -/

def winnerTailKeys : List (List String) :=
  [[kWinReportingUrls], [kInterestGroupName], [kKAnonGhostWinners], [kInterestGroupOwner],
    [kKAnonWinnerJoinCandidates, kKAnonWinnerPositionalIndex]]

/-- The keys of a winner, given those of its contributions and debug reports. -/
def scoreAdKeys (contributionKeys debugKeys : List String) : List (List String) :=
  [[kBid], [kAdAuctionResultNonce], [kScore], [kChaff], [kAdComponents], [kAdRenderUrl],
    contributionKeys, debugKeys, [kUpdateGroups], [kBiddingGroups], [kBuyerReportingId]] ++
  winnerTailKeys

def componentScoreAdKeys : List (List String) :=
  [[kBid], [kAdAuctionResultNonce], [kScore], [kChaff], [kAdMetadata], [kAdComponents],
    [kAdRenderUrl], [kBidCurrency], [kDebugReports], [kUpdateGroups], [kBiddingGroups],
    [kTopLevelSeller]] ++
  winnerTailKeys

theorem winnerTailPieces_under (lib : LibCbor) (adScore : AdScore FloatVal)
    (kanonData : Option (KAnonAuctionResultData FloatVal)) :
    List.Forall₂ PieceUnder winnerTailKeys (winnerTailPieces lib adScore kanonData) := by
  have hghosts : PieceUnder [kKAnonGhostWinners]
      ((ghostWinnersOf kanonData).elim (some []) (ghostsField lib)) := by
    cases ghostWinnersOf kanonData with
    | none => exact .some (.nothing _)
    | some ghosts => exact ghostsField_under lib ghosts
  have hjoin : FieldsUnder [kKAnonWinnerJoinCandidates, kKAnonWinnerPositionalIndex]
      (winnerJoinFields (winnerJoinCandidateOf kanonData)) := by
    cases winnerJoinCandidateOf kanonData with
    | none => exact .nothing _
    | some candidate =>
      exact .cons (joinCandidate_canonical _) (.field (cborBuildInt_canonical _))
  exact .cons (.some (winReportingUrlsField_under _)) <| .cons (.some (.field (.text _))) <|
    .cons hghosts <| .cons (.some (.field (.text _))) <| .cons (.some hjoin) .nil

theorem debugReportsField_under (debugReports : AdtechOriginDebugUrlsMap) :
    FieldsUnder [kDebugReports] (debugReportsField debugReports) :=
  .when (.field (debugReportsItem_canonical debugReports))

theorem contributionsField_under (ord : HashOrder)
    (responses : List (PrivateAggregateReportingResponse FloatVal)) (limit : Int32) :
    FieldsUnder [kPAggResponse] (contributionsField ord responses limit) :=
  .when (.field (paggResponseItem_canonical ord responses limit))

section

variable (lib : LibCbor) (ord : HashOrder) (adScore : AdScore FloatVal)
  (biddingGroupMap : BiddingGroupMap) (updateGroupMap : UpdateGroupMap)
  (adtechOriginDebugUrlsMap : AdtechOriginDebugUrlsMap) (limit : Int32)
  (topLevelSeller nonce : String) (kanonData : Option (KAnonAuctionResultData FloatVal))

theorem scoreAdPieces_under {contributionKeys debugKeys : List String}
    (hcontributions : FieldsUnder contributionKeys
      (contributionsField ord adScore.topLevelContributions limit))
    (hdebug : FieldsUnder debugKeys (debugReportsField adtechOriginDebugUrlsMap)) :
    List.Forall₂ PieceUnder (scoreAdKeys contributionKeys debugKeys)
      (scoreAdPieces lib ord adScore biddingGroupMap updateGroupMap adtechOriginDebugUrlsMap limit
        nonce kanonData) := by
  refine List.rel_append ?_ (winnerTailPieces_under lib adScore kanonData)
  exact .cons (floatField_under lib _ _) <| .cons (.some (ifNonempty_under _ _)) <|
    .cons (floatField_under lib _ _) <| .cons (.some (.field (.bool _))) <|
    .cons (.some (.field (texts_canonical _))) <| .cons (.some (.field (.text _))) <|
    .cons (.some hcontributions) <| .cons (.some hdebug) <|
    .cons (.some (.field (updateGroupsItem_canonical _))) <|
    .cons (.some (.field (biddingGroupsItem_canonical _))) <|
    .cons (.some (ifNonempty_under _ _)) .nil

theorem componentScoreAdPieces_under :
    List.Forall₂ PieceUnder componentScoreAdKeys
      (componentScoreAdPieces lib topLevelSeller adScore biddingGroupMap updateGroupMap
        adtechOriginDebugUrlsMap nonce kanonData) := by
  refine List.rel_append ?_ (winnerTailPieces_under lib adScore kanonData)
  exact .cons (floatField_under lib _ _) <| .cons (.some (ifNonempty_under _ _)) <|
    .cons (floatField_under lib _ _) <| .cons (.some (.field (.bool _))) <|
    .cons (.some (ifNonempty_under _ _)) <|
    .cons (.some (.field (texts_canonical _))) <| .cons (.some (.field (.text _))) <|
    .cons (.some (ifNonempty_under _ _)) <|
    .cons (.some (debugReportsField_under _)) <|
    .cons (.some (.field (updateGroupsItem_canonical _))) <|
    .cons (.some (.field (biddingGroupsItem_canonical _))) <|
    .cons (.some (.field (.text _))) .nil

end

theorem errorFields_canonical (error : AuctionResultError) :
    (Item.record (errorFields error)).Canonical :=
  FieldsUnder.record [kCode, kMessage]
    (.cons (cborBuildUint_canonical _) (.field (.text _))) (by decide)

theorem rootFields_canonical {lib : LibCbor} {winnerFields : AdScore FloatVal → Option Fields}
    {highScore : Option (AdScore FloatVal)} {error : Option AuctionResultError} {nonce : String}
    {kanonData : Option (KAnonAuctionResultData FloatVal)}
    (hwinner : ∀ adScore, error = none → highScore = some adScore →
      ∀ fs, winnerFields adScore = some fs → (Item.record fs).Canonical) {fs : Fields}
    (hfs : rootFields lib winnerFields highScore error nonce kanonData = some fs) :
    (Item.record fs).Canonical := by
  have hnonce := ifNonempty_under kAdAuctionResultNonce nonce
  unfold rootFields at hfs
  cases error with
  | some error =>
    refine canonical_join [[kError], [kAdAuctionResultNonce]] ?_ (by decide) hfs
    exact .cons (.some (.field (errorFields_canonical error))) (.cons (.some hnonce) .nil)
  | none =>
    cases highScore with
    | some adScore => exact hwinner adScore rfl rfl fs hfs
    | none =>
      cases hghosts : ghostWinnersOf kanonData with
      | some ghosts =>
        rw [hghosts] at hfs
        refine canonical_join [[kAdAuctionResultNonce], [kKAnonGhostWinners]] ?_
          (by decide) hfs
        exact .cons (.some hnonce) (.cons (ghostsField_under lib ghosts) .nil)
      | none =>
        rw [hghosts] at hfs
        refine canonical_join [[kAdAuctionResultNonce], [kChaff]] ?_ (by decide) hfs
        exact .cons (.some hnonce) (.cons (.some (.field (.bool true))) .nil)

/-! ## What is written at all -/

theorem floatField_isSome {lib : LibCbor} (hlib : lib.EncodesFloats) (key : String)
    (value : FloatVal) : (floatField lib key value).isSome := by
  obtain ⟨item, hitem⟩ := cborBuildFloat_isOk hlib value
  unfold floatField
  rw [hitem]
  rfl

/-- No ghost winner has a bid for the top-level auction that is refused. -/
def GhostBidsPositive (kanonData : Option (KAnonAuctionResultData FloatVal)) : Prop :=
  ∀ ghosts, ghostWinnersOf kanonData = some ghosts → ∀ ghost ∈ ghosts, ∀ topLevel,
    ghost.ghostWinnerForTopLevelAuction = some topLevel →
      isNonPositive topLevel.modifiedBid = false

theorem topLevelGhostItem_isSome {lib : LibCbor} (hlib : lib.EncodesFloats)
    (ghostWinner : GhostWinnerForTopLevelAuction FloatVal) :
    (topLevelGhostItem lib ghostWinner).isSome ↔ isNonPositive ghostWinner.modifiedBid = false := by
  unfold topLevelGhostItem
  cases isNonPositive ghostWinner.modifiedBid with
  | true => simp
  | false =>
    refine iff_of_true ?_ rfl
    rw [if_neg Bool.false_ne_true, Option.isSome_map, Fields.join_isSome]
    have hfloat := floatField_isSome hlib kModifiedBid ghostWinner.modifiedBid
    simp [topLevelGhostPieces, hfloat]

theorem ghostItem_isSome {lib : LibCbor} (hlib : lib.EncodesFloats)
    (ghost : KAnonGhostWinner FloatVal) :
    (ghostItem lib ghost).isSome ↔ ∀ topLevel, ghost.ghostWinnerForTopLevelAuction = some topLevel →
      isNonPositive topLevel.modifiedBid = false := by
  unfold ghostItem
  rw [Option.isSome_map, Fields.join_isSome]
  unfold ghostPieces
  cases ghost.ghostWinnerForTopLevelAuction with
  | none => simp
  | some topLevel =>
    have hitem := topLevelGhostItem_isSome hlib topLevel
    simp [hitem]

theorem ghostsPiece_isSome {lib : LibCbor} (hlib : lib.EncodesFloats)
    (kanonData : Option (KAnonAuctionResultData FloatVal)) :
    ((ghostWinnersOf kanonData).elim (some []) (ghostsField lib)).isSome ↔
      GhostBidsPositive kanonData := by
  unfold GhostBidsPositive
  cases ghostWinnersOf kanonData with
  | none => simp
  | some ghosts =>
    show (ghostsField lib ghosts).isSome ↔ _
    unfold ghostsField
    rw [Option.isSome_map, mapM_isSome]
    simp only [ghostItem_isSome hlib, Option.some.injEq, forall_eq']

theorem scoreAdPieces_isSome {lib : LibCbor} (hlib : lib.EncodesFloats) (ord : HashOrder)
    (adScore : AdScore FloatVal) (biddingGroupMap : BiddingGroupMap)
    (updateGroupMap : UpdateGroupMap) (adtechOriginDebugUrlsMap : AdtechOriginDebugUrlsMap)
    (limit : Int32) (nonce : String) (kanonData : Option (KAnonAuctionResultData FloatVal)) :
    (Fields.join (scoreAdPieces lib ord adScore biddingGroupMap updateGroupMap
      adtechOriginDebugUrlsMap limit nonce kanonData)).isSome ↔ GhostBidsPositive kanonData := by
  rw [Fields.join_isSome, ← ghostsPiece_isSome hlib]
  have hbid := floatField_isSome hlib kBid adScore.buyerBid
  have hscore := floatField_isSome hlib kScore adScore.desirability
  simp [scoreAdPieces, winnerTailPieces, hbid, hscore]

/-! ## The encoders -/

/-- A winner with contributions, and debug reports to be written after them. -/
structure ReportsAfterContributions (highScore : Option (AdScore FloatVal))
    (adtechOriginDebugUrlsMap : AdtechOriginDebugUrlsMap) (error : Option AuctionResultError)
    (kanonData : Option (KAnonAuctionResultData FloatVal)) : Prop where
  noError : error = none
  contributions : ∃ adScore, highScore = some adScore ∧ adScore.topLevelContributions ≠ []
  reports : adtechOriginDebugUrlsMap.entries ≠ []
  /-- Otherwise nothing is written. -/
  ghostBids : GhostBidsPositive kanonData

section

variable {lib : LibCbor} (ord : HashOrder) (highScore : Option (AdScore FloatVal))
  (biddingGroupMap : BiddingGroupMap) (updateGroupMap : UpdateGroupMap)
  (adtechOriginDebugUrlsMap : AdtechOriginDebugUrlsMap) (error : Option AuctionResultError)
  (limit : Int32) (topLevelSeller nonce : String)
  (kanonData : Option (KAnonAuctionResultData FloatVal))

theorem encodedFields_canonical
    (hreports : ∀ adScore, error = none → highScore = some adScore →
      adScore.topLevelContributions = [] ∨ adtechOriginDebugUrlsMap.entries = []) {fs : Fields}
    (hfs : encodedFields lib ord highScore biddingGroupMap updateGroupMap
      adtechOriginDebugUrlsMap error limit nonce kanonData = some fs) :
    (Item.record fs).Canonical := by
  refine rootFields_canonical ?_ hfs
  intro adScore herror hscore fs hfs
  rcases hreports adScore herror hscore with hnone | hnone
  · -- no contributions
    have hempty : FieldsUnder [] (contributionsField ord adScore.topLevelContributions limit) := by
      unfold contributionsField
      rw [if_neg (not_not_intro hnone)]
      exact .nothing []
    exact canonical_join _ (scoreAdPieces_under lib ord adScore biddingGroupMap updateGroupMap
      adtechOriginDebugUrlsMap limit nonce kanonData hempty (debugReportsField_under _))
      (by decide) hfs
  · -- no debug reports
    have hempty : FieldsUnder [] (debugReportsField adtechOriginDebugUrlsMap) := by
      unfold debugReportsField
      rw [if_neg (not_not_intro hnone)]
      exact .nothing []
    exact canonical_join _ (scoreAdPieces_under lib ord adScore biddingGroupMap updateGroupMap
      adtechOriginDebugUrlsMap limit nonce kanonData (contributionsField_under ord _ limit) hempty)
      (by decide) hfs

theorem encodedRoot_buildsCanonical :
    BuildsCanonical (encodedRoot lib ord highScore biddingGroupMap updateGroupMap
        adtechOriginDebugUrlsMap error limit nonce kanonData) ↔
      ∀ fs, encodedFields lib ord highScore biddingGroupMap updateGroupMap
        adtechOriginDebugUrlsMap error limit nonce kanonData = some fs →
          (Item.record fs).Canonical :=
  (encodedRoot_writes lib ord highScore biddingGroupMap updateGroupMap adtechOriginDebugUrlsMap
    error limit nonce kanonData).buildsCanonical_iff (by decide)

theorem encodedRoot_not_buildsCanonical (hlib : lib.EncodesFloats)
    (h : ReportsAfterContributions highScore adtechOriginDebugUrlsMap error kanonData) :
    ¬ BuildsCanonical (encodedRoot lib ord highScore biddingGroupMap updateGroupMap
      adtechOriginDebugUrlsMap error limit nonce kanonData) := by
  rw [encodedRoot_buildsCanonical]
  obtain ⟨rfl, ⟨adScore, rfl, hcontributions⟩, hreports, hbids⟩ := h
  obtain ⟨fs, hfs⟩ := Option.isSome_iff_exists.mp <| (scoreAdPieces_isSome hlib ord adScore
    biddingGroupMap updateGroupMap adtechOriginDebugUrlsMap limit nonce kanonData).mpr hbids
  intro hall
  have hcanonical := hall fs hfs
  have hpagg : (kPAggResponse, paggResponseItem ord adScore.topLevelContributions limit) ∈
      contributionsField ord adScore.topLevelContributions limit := by
    unfold contributionsField
    rw [if_pos hcontributions]
    exact List.mem_singleton_self _
  have hdebug : (kDebugReports, debugReportsItem adtechOriginDebugUrlsMap) ∈
      debugReportsField adtechOriginDebugUrlsMap := by
    unfold debugReportsField
    rw [if_pos hreports]
    exact List.mem_singleton_self _
  have hlt : KeyLt kPAggResponse kDebugReports :=
    keyLt_of_canonical ((scoreAdPieces lib ord adScore biddingGroupMap updateGroupMap
      adtechOriginDebugUrlsMap limit nonce kanonData).take 6) hfs hcanonical hpagg hdebug
  exact absurd hlt (by decide)

theorem encodedComponentRoot_buildsCanonical :
    BuildsCanonical (encodedComponentRoot lib topLevelSeller highScore biddingGroupMap
      updateGroupMap adtechOriginDebugUrlsMap error nonce kanonData) := by
  refine ((encodedComponentRoot_writes lib highScore biddingGroupMap updateGroupMap
    adtechOriginDebugUrlsMap error topLevelSeller nonce kanonData).buildsCanonical_iff
    (by decide)).mpr ?_
  intro fs hfs
  refine rootFields_canonical ?_ hfs
  intro adScore _ _ fs hfs
  unfold componentScoreAdFields at hfs
  split at hfs
  · cases hfs
  · exact canonical_join _ (componentScoreAdPieces_under lib adScore biddingGroupMap updateGroupMap
      adtechOriginDebugUrlsMap topLevelSeller nonce kanonData) (by decide) hfs

/-- Both encoders build canonical maps in containers of the right size, unless
`Encode` writes debug reports after contributions. -/
theorem encoders_buildCanonical_iff (hlib : lib.EncodesFloats) :
    (BuildsCanonical (encodedRoot lib ord highScore biddingGroupMap updateGroupMap
        adtechOriginDebugUrlsMap error limit nonce kanonData) ∧
      BuildsCanonical (encodedComponentRoot lib topLevelSeller highScore biddingGroupMap
        updateGroupMap adtechOriginDebugUrlsMap error nonce kanonData)) ↔
      ¬ ReportsAfterContributions highScore adtechOriginDebugUrlsMap error kanonData := by
  rw [and_iff_left (encodedComponentRoot_buildsCanonical highScore biddingGroupMap
    updateGroupMap adtechOriginDebugUrlsMap error topLevelSeller nonce kanonData)]
  constructor
  · intro hcanonical hreports
    exact encodedRoot_not_buildsCanonical ord highScore biddingGroupMap updateGroupMap
      adtechOriginDebugUrlsMap error limit nonce kanonData hlib hreports hcanonical
  · intro hnot
    rw [encodedRoot_buildsCanonical]
    intro fs hfs
    refine encodedFields_canonical ord highScore biddingGroupMap updateGroupMap
      adtechOriginDebugUrlsMap error limit nonce kanonData ?_ hfs
    intro adScore herror hscore
    subst herror hscore
    have hbids := (scoreAdPieces_isSome hlib ord adScore biddingGroupMap updateGroupMap
      adtechOriginDebugUrlsMap limit nonce kanonData).mp (Option.isSome_of_eq_some hfs)
    by_contra hboth
    rw [not_or] at hboth
    exact hnot ⟨rfl, ⟨adScore, rfl, hboth.1⟩, hboth.2, hbids⟩

end

/-! ### A winner -/

def oneBytes : Precision → Bytes
  | .half => [0xF9, 0x3C, 0x00]
  | .single => [0xFA, 0x3F, 0x80, 0x00, 0x00]
  | .double => [0xFB, 0x3F, 0xF0, 0x00, 0x00, 0x00, 0x00, 0x00, 0x00]

def oneLib : LibCbor where
  half _ := .fin 1
  lowWord _ := .fin 0
  serialize
    | .float precision _ => some (oneBytes precision)
    | _ => none
  load bytes :=
    if bytes = oneBytes .half then some (.float .half (.fin 1))
    else if bytes = oneBytes .single then some (.float .single (.fin 1))
    else if bytes = oneBytes .double then some (.float .double (.fin 1))
    else none

theorem oneLib_encodesFloats : oneLib.EncodesFloats := by
  intro precision value
  cases precision <;> exact ⟨_, rfl, rfl⟩

def contributingWinner : AdScore FloatVal :=
  { AdScore.unset with
    buyerBid := .fin 1
    bid := .fin 1
    desirability := .fin 1
    render := "https://ad.com"
    interestGroupOwner := "https://buyer.com"
    topLevelContributions := [{
      adtechOrigin := "https://buyer.com"
      contributions := [{
        bucket := some (.bucket128Bit [1, 0])
        value := some (.intValue 1)
        event := { eventType := .win } }] }] }

def oneDebugReport : AdtechOriginDebugUrlsMap :=
  AList.insert "https://buyer.com" ⟨[{ url := "https://buyer.com/win", isWinReport := true }]⟩ ∅

/-- Without debug reports the winner is in order. -/
theorem contributingWinner_buildsCanonical :
    BuildsCanonical (encodedRoot oneLib .stored (some contributingWinner) ∅ ∅ ∅ none 20 "" none) ∧
      BuildsCanonical (encodedComponentRoot oneLib "https://seller.com" (some contributingWinner)
        ∅ ∅ ∅ none "" none) :=
  (encoders_buildCanonical_iff .stored (some contributingWinner) ∅ ∅ ∅ none 20
    "https://seller.com" "" none oneLib_encodesFloats).mpr fun h => h.reports rfl

theorem contributingWinner_with_report_out_of_order :
    ¬ BuildsCanonical (encodedRoot oneLib .stored (some contributingWinner) ∅ ∅ oneDebugReport
      none 20 "" none) := by
  refine encodedRoot_not_buildsCanonical .stored _ ∅ ∅ oneDebugReport none 20 "" none
    oneLib_encodesFloats ⟨rfl, ⟨_, rfl, ?_⟩, ?_, ?_⟩
  · exact List.cons_ne_nil _ _
  · exact List.cons_ne_nil _ _
  · intro ghosts hghosts
    cases hghosts

end BiddingAuction

import BiddingAuction.KAnon.AuctionResultData

/-!
# Encoding an auction result for the web

`web_utils`: the serializers of an auction result, and `Encode` and `EncodeComponent`,
which write one into a map of fixed capacity. Beside each serializer stands what it
writes, and the lemma that it does.
-/

namespace BiddingAuction

open Foundation.Cbor

/-! ## Containers of items -/

def cborSerializeItems (pushMessage message key : String) (items : List Item)
    (root : DefiniteMap) : Emit Status DefiniteMap := do
  let serializedItems ← items.foldlM
    (fun array item => Definite.addOr pushMessage (internalError "") item array)
    (.new items.length)
  cborMapAddOr message key (.array serializedItems.entries) root

theorem cborSerializeItems_writes (pushMessage message key : String) (items : List Item) :
    Writes 1 (cborSerializeItems pushMessage message key items) (some [(key, .array items)]) := by
  have hloop := Appends.eachOne (l := items) (g := id) fun item _ =>
    Appends.addOr pushMessage (internalError "") item
  rw [List.map_id] at hloop
  exact Writes.array hloop le_rfl fun l => cborMapAddOr_writes message key (.array l)

/-- `ordered_origins` with the values they have in the map. -/
def orderedEntries {V : Type} (m : FlatHashMap String V) : List (String × V) :=
  (sortKeys (m.entries.map Sigma.fst)).filterMap fun key =>
    (m.lookup key).map fun value => (key, value)

theorem orderedEntries_keys {V : Type} (m : FlatHashMap String V) :
    (orderedEntries m).map Prod.fst = sortKeys (m.entries.map Sigma.fst) := by
  unfold orderedEntries
  rw [List.map_filterMap]
  refine Eq.trans (List.filterMap_congr fun key hkey => ?_) (List.filterMap_some ..)
  obtain ⟨entry, hentry, rfl⟩ := List.mem_map.mp ((sortKeys_perm _).mem_iff.mp hkey)
  rw [AList.mem_lookup_iff.mpr hentry]
  rfl

theorem orderedEntries_length {V : Type} (m : FlatHashMap String V) :
    (orderedEntries m).length = m.entries.length := by
  have hlength := congrArg List.length (orderedEntries_keys m)
  rw [List.length_map, (sortKeys_perm _).length_eq, List.length_map] at hlength
  exact hlength

/-! ## Components and join candidates -/

def cborSerializeAdComponentUrls (key : String) (componentRenders : List String) :
    DefiniteMap → Emit Status DefiniteMap :=
  cborSerializeItems (failedToSerialize key) (failedToSerialize key) key
    (componentRenders.map Item.text)

def writeKAnonJoinCandidate (kanonJoinCandidate : KAnonJoinCandidate) (root : DefiniteMap) :
    Emit Status DefiniteMap := do
  let root ← cborSerializeByteString kAdRenderUrlHash kanonJoinCandidate.adRenderUrlHash root
  let root ← cborSerializeByteString kReportingIdHash kanonJoinCandidate.reportingIdHash root
  cborSerializeItems "Failed to serialize ad component render URL hash to CBOR"
    "Failed to serialize kAdComponentRenderUrlsHash to CBOR" kAdComponentRenderUrlsHash
    (kanonJoinCandidate.adComponentRenderUrlsHash.map Item.bytes) root

def cborSerializekAnonJoinCandidates (key : String) (kanonJoinCandidate : KAnonJoinCandidate)
    (root : DefiniteMap) : Emit Status DefiniteMap := do
  let serializedKanonJoinCandidates ←
    writeKAnonJoinCandidate kanonJoinCandidate (.new kNumKAnonJoinCandidateKeys)
  cborMapAddOr "Failed to serialize kAnonJoinCandidate to CBOR" key
    (.map serializedKanonJoinCandidates.entries) root

def joinCandidateFields (candidate : KAnonJoinCandidate) : Fields :=
  [(kAdRenderUrlHash, .bytes candidate.adRenderUrlHash),
    (kReportingIdHash, .bytes candidate.reportingIdHash),
    (kAdComponentRenderUrlsHash, .array (candidate.adComponentRenderUrlsHash.map Item.bytes))]

theorem cborSerializekAnonJoinCandidates_writes (key : String) (candidate : KAnonJoinCandidate) :
    Writes 1 (cborSerializekAnonJoinCandidates key candidate)
      (some [(key, .record (joinCandidateFields candidate))]) := by
  have hfields : Writes 3 (writeKAnonJoinCandidate candidate)
      (some (joinCandidateFields candidate)) :=
    (cborMapAddOr_writes _ _ _).seq
      ((cborMapAddOr_writes _ _ _).seq (cborSerializeItems_writes _ _ _ _))
  exact Writes.record hfields le_rfl fun l => cborMapAddOr_writes _ key (.map l)

/-! ## Ghost winners -/

/-- `v <= 0.0f`. -/
def isNonPositive : FloatVal → Bool
  | .fin q => q ≤ 0
  | .inf negative => negative
  | .nan => false

def writeIfSet (key : String) (value : Option String) (root : DefiniteMap) :
    Emit Status DefiniteMap :=
  value.elim (pure root) fun value => cborSerializeString key value root

def writeIfNonempty (key value : String) (root : DefiniteMap) : Emit Status DefiniteMap :=
  if value ≠ "" then cborSerializeString key value root else pure root

def ifSet (key : String) (value : Option String) : Fields :=
  value.elim [] fun value => [(key, .text value)]

def ifNonempty (key value : String) : Fields :=
  if value ≠ "" then [(key, .text value)] else []

theorem writeIfSet_writes (key : String) (value : Option String) :
    Writes 1 (writeIfSet key value) (some (ifSet key value)) := by
  cases value with
  | none => exact Appends.nothing.mono (Nat.zero_le 1)
  | some value => exact cborMapAddOr_writes _ key (.text value)

theorem writeIfNonempty_writes (key value : String) :
    Writes 1 (writeIfNonempty key value) (some (ifNonempty key value)) :=
  Writes.when (cborMapAddOr_writes _ key (.text value))

def floatField (lib : LibCbor) (key : String) (value : FloatVal) : Option Fields :=
  (cborBuildFloat lib value).toOption.map fun item => [(key, item)]

def writeGhostWinnerForTopLevelAuction (lib : LibCbor)
    (ghostWinner : GhostWinnerForTopLevelAuction FloatVal) (root : DefiniteMap) :
    Emit Status DefiniteMap := do
  let root ← writeIfNonempty kAdMetadata ghostWinner.adMetadata root
  let root ← cborSerializeString kAdRenderUrl ghostWinner.adRenderUrl root
  let root ← writeIfNonempty kBidCurrency ghostWinner.bidCurrency root
  let root ← cborSerializeFloat lib kModifiedBid ghostWinner.modifiedBid root
  let root ← writeIfSet kBuyerReportingId ghostWinner.buyerReportingId root
  let root ← cborSerializeItems
    "Failed to serialize a ad component render url for ghost winner to CBOR"
    "Failed to serialize adComponentRenderUrls to CBOR" kAdComponentRenderUrls
    (ghostWinner.adComponentRenderUrls.map Item.text) root
  let root ← writeIfSet kBuyerAndSellerReportingId ghostWinner.buyerAndSellerReportingId root
  writeIfSet kSelectedBuyerAndSellerReportingId ghostWinner.selectedBuyerAndSellerReportingId root

def cborSerializekAnonGhostWinnerForTopLevelAuction (lib : LibCbor) (key : String)
    (ghostWinner : GhostWinnerForTopLevelAuction FloatVal) (root : DefiniteMap) :
    Emit Status DefiniteMap :=
  if isNonPositive ghostWinner.modifiedBid then
    throw (internalError "Logic Error: Modified bid should be positive for ghost winners")
  else do
    let serializedGhostWinner ← writeGhostWinnerForTopLevelAuction lib ghostWinner
      (.new kNumGhostWinnerForTopLevelAuctionKeys)
    cborMapAddOr "Failed to serialize kAnonJoinCandidate to CBOR" key
      (.map serializedGhostWinner.entries) root

def topLevelGhostPieces (lib : LibCbor) (ghostWinner : GhostWinnerForTopLevelAuction FloatVal) :
    List (Option Fields) :=
  [some (ifNonempty kAdMetadata ghostWinner.adMetadata),
    some [(kAdRenderUrl, .text ghostWinner.adRenderUrl)],
    some (ifNonempty kBidCurrency ghostWinner.bidCurrency),
    floatField lib kModifiedBid ghostWinner.modifiedBid,
    some (ifSet kBuyerReportingId ghostWinner.buyerReportingId),
    some [(kAdComponentRenderUrls, .array (ghostWinner.adComponentRenderUrls.map Item.text))],
    some (ifSet kBuyerAndSellerReportingId ghostWinner.buyerAndSellerReportingId),
    some (ifSet kSelectedBuyerAndSellerReportingId ghostWinner.selectedBuyerAndSellerReportingId)]

/-- The item of a ghost winner for the top-level auction, unless its bid is refused. -/
def topLevelGhostItem (lib : LibCbor) (ghostWinner : GhostWinnerForTopLevelAuction FloatVal) :
    Option Item :=
  if isNonPositive ghostWinner.modifiedBid then none
  else (Fields.join (topLevelGhostPieces lib ghostWinner)).map Item.record

theorem writeGhostWinnerForTopLevelAuction_writes (lib : LibCbor)
    (ghostWinner : GhostWinnerForTopLevelAuction FloatVal) :
    Writes 8 (writeGhostWinnerForTopLevelAuction lib ghostWinner)
      (Fields.join (topLevelGhostPieces lib ghostWinner)) :=
  (writeIfNonempty_writes _ _).cons <| (cborMapAddOr_writes _ _ _).cons <|
    (writeIfNonempty_writes _ _).cons <| (cborSerializeFloat_writes lib _ _).cons <|
    (writeIfSet_writes _ _).cons <| (cborSerializeItems_writes _ _ _ _).cons <|
    (writeIfSet_writes _ _).cons (writeIfSet_writes _ _).last

theorem cborSerializekAnonGhostWinnerForTopLevelAuction_writes (lib : LibCbor) (key : String)
    (ghostWinner : GhostWinnerForTopLevelAuction FloatVal) :
    Writes 1 (cborSerializekAnonGhostWinnerForTopLevelAuction lib key ghostWinner)
      ((topLevelGhostItem lib ghostWinner).map fun item => [(key, item)]) := by
  unfold cborSerializekAnonGhostWinnerForTopLevelAuction topLevelGhostItem
  cases isNonPositive ghostWinner.modifiedBid with
  | true => exact Appends.throws _
  | false =>
    have hrecord := Writes.record (writeGhostWinnerForTopLevelAuction_writes lib ghostWinner)
      (show 8 ≤ kNumGhostWinnerForTopLevelAuctionKeys from le_rfl)
      fun l => cborMapAddOr_writes "Failed to serialize kAnonJoinCandidate to CBOR" key (.map l)
    simp only [Bool.false_eq_true, if_false, Option.map_map]
    exact hrecord

def writeGhostWinnerPrivateAggSignal (signal : GhostWinnerPrivateAggregationSignals)
    (root : DefiniteMap) : Emit Status DefiniteMap := do
  let root ← cborSerializeInt kValue signal.value root
  cborSerializeByteString kBucket signal.bucket root

def cborSerializekAnonGhostWinnerPrivateAggSignal (signal : GhostWinnerPrivateAggregationSignals)
    (root : DefiniteArray) : Emit Status DefiniteArray := do
  let serializedPrivateAggSignal ← writeGhostWinnerPrivateAggSignal signal
    (.new kNumGhostWinnerPrivateAggregationSignalsKeys)
  Definite.addOr "Failed to serialize a GhostWinnerPrivateAggregationSignals object to CBOR"
    (internalError "") (.map serializedPrivateAggSignal.entries) root

def signalFields (signal : GhostWinnerPrivateAggregationSignals) : Fields :=
  [(kValue, cborBuildInt signal.value), (kBucket, .bytes signal.bucket)]

theorem cborSerializekAnonGhostWinnerPrivateAggSignal_appends
    (signal : GhostWinnerPrivateAggregationSignals) :
    Appends 1 (cborSerializekAnonGhostWinnerPrivateAggSignal signal)
      (some [.record (signalFields signal)]) := by
  have hfields : Writes 2 (writeGhostWinnerPrivateAggSignal signal)
      (some (signalFields signal)) :=
    (cborMapAddOr_writes _ _ _).seq (cborMapAddOr_writes _ _ _)
  exact hfields.pushed le_rfl fun l => Appends.addOr _ _ (Item.map l)

def cborSerializekAnonGhostWinnerPrivateAggSignals
    (privateAggSignals : List GhostWinnerPrivateAggregationSignals) (root : DefiniteMap) :
    Emit Status DefiniteMap := do
  let message :=
    "Failed to serialize an array of GhostWinnerPrivateAggregationSignals to CBOR"
  let serializedPrivateAggSignals ← privateAggSignals.foldlM
    (fun array signal => tryCatch (cborSerializekAnonGhostWinnerPrivateAggSignal signal array)
      fun _ => do Emit.report message; throw (internalError ""))
    (.new privateAggSignals.length)
  cborMapAddOr message kGhostWinnerPrivateAggregationSignals
    (.array serializedPrivateAggSignals.entries) root

def signalsItem (privateAggSignals : List GhostWinnerPrivateAggregationSignals) : Item :=
  .array (privateAggSignals.map fun signal => .record (signalFields signal))

theorem cborSerializekAnonGhostWinnerPrivateAggSignals_writes
    (privateAggSignals : List GhostWinnerPrivateAggregationSignals) :
    Writes 1 (cborSerializekAnonGhostWinnerPrivateAggSignals privateAggSignals)
      (some [(kGhostWinnerPrivateAggregationSignals, signalsItem privateAggSignals)]) := by
  have hloop := Appends.eachOne (l := privateAggSignals) fun signal _ =>
    (cborSerializekAnonGhostWinnerPrivateAggSignal_appends signal).orReport
      "Failed to serialize an array of GhostWinnerPrivateAggregationSignals to CBOR"
      (internalError "")
  exact Writes.array hloop le_rfl fun l => cborMapAddOr_writes _ _ (.array l)

def writeKAnonGhostWinner (lib : LibCbor) (kanonGhostWinner : KAnonGhostWinner FloatVal)
    (root : DefiniteMap) : Emit Status DefiniteMap := do
  let root ← cborSerializeString kOwner kanonGhostWinner.owner root
  let root ← cborSerializeString kInterestGroupName kanonGhostWinner.igName root
  let root ← cborSerializeInt kInterestGroupIndex kanonGhostWinner.interestGroupIndex root
  let root ← cborSerializekAnonJoinCandidates kKAnonJoinCandidates
    kanonGhostWinner.kAnonJoinCandidates root
  let root ← kanonGhostWinner.ghostWinnerForTopLevelAuction.elim (pure root) fun ghostWinner =>
    cborSerializekAnonGhostWinnerForTopLevelAuction lib kGhostWinnerForTopLevelAuction ghostWinner
      root
  if kanonGhostWinner.ghostWinnerPrivateAggregationSignals ≠ [] then
    cborSerializekAnonGhostWinnerPrivateAggSignals
      kanonGhostWinner.ghostWinnerPrivateAggregationSignals root
  else pure root

def cborSerializeKAnonGhostWinner (lib : LibCbor) (kanonGhostWinner : KAnonGhostWinner FloatVal)
    (root : DefiniteArray) : Emit Status DefiniteArray := do
  let serializedKanonGhostWinner ←
    writeKAnonGhostWinner lib kanonGhostWinner (.new kNumKAnonGhostWinnerKeys)
  Definite.addOr "Failed to serialize ad component render URL hash to CBOR" (internalError "")
    (.map serializedKanonGhostWinner.entries) root

def ghostPieces (lib : LibCbor) (ghost : KAnonGhostWinner FloatVal) : List (Option Fields) :=
  [some [(kOwner, .text ghost.owner)],
    some [(kInterestGroupName, .text ghost.igName)],
    some [(kInterestGroupIndex, cborBuildInt ghost.interestGroupIndex)],
    some [(kKAnonJoinCandidates, .record (joinCandidateFields ghost.kAnonJoinCandidates))],
    ghost.ghostWinnerForTopLevelAuction.elim (some []) fun ghostWinner =>
      (topLevelGhostItem lib ghostWinner).map fun item => [(kGhostWinnerForTopLevelAuction, item)],
    some (if ghost.ghostWinnerPrivateAggregationSignals ≠ [] then
      [(kGhostWinnerPrivateAggregationSignals,
        signalsItem ghost.ghostWinnerPrivateAggregationSignals)] else [])]

def ghostItem (lib : LibCbor) (ghost : KAnonGhostWinner FloatVal) : Option Item :=
  (Fields.join (ghostPieces lib ghost)).map Item.record

theorem cborSerializeKAnonGhostWinner_appends (lib : LibCbor)
    (ghost : KAnonGhostWinner FloatVal) :
    Appends 1 (cborSerializeKAnonGhostWinner lib ghost)
      ((ghostItem lib ghost).map fun item => [item]) := by
  have hfields : Writes 6 (writeKAnonGhostWinner lib ghost)
      (Fields.join (ghostPieces lib ghost)) :=
    (cborMapAddOr_writes _ _ _).cons <| (cborMapAddOr_writes _ _ _).cons <|
      (cborMapAddOr_writes _ _ _).cons <|
      (cborSerializekAnonJoinCandidates_writes _ _).cons <|
      (Writes.optional fun ghostWinner =>
        cborSerializekAnonGhostWinnerForTopLevelAuction_writes lib _ ghostWinner).cons
      (Writes.when (cborSerializekAnonGhostWinnerPrivateAggSignals_writes _)).last
  have hpushed := hfields.pushed (show 6 ≤ kNumKAnonGhostWinnerKeys from le_rfl)
    fun l => Appends.addOr "Failed to serialize ad component render URL hash to CBOR"
      (internalError "") (Item.map l)
  unfold ghostItem
  rw [Option.map_map]
  exact hpushed

def cborSerializeKAnonGhostWinners (lib : LibCbor)
    (kanonGhostWinners : List (KAnonGhostWinner FloatVal)) (root : DefiniteMap) :
    Emit Status DefiniteMap := do
  let serializedKanonGhostWinners ← kanonGhostWinners.foldlM
    (fun array kanonGhostWinner =>
      tryCatch (cborSerializeKAnonGhostWinner lib kanonGhostWinner array) fun _ => do
        Emit.report "Failed to serialize a kAnonGhostWinner to CBOR"
        throw (internalError ""))
    (.new kanonGhostWinners.length)
  cborMapAddOr "Failed to serialize kAnonGhostWinners to CBOR" kKAnonGhostWinners
    (.array serializedKanonGhostWinners.entries) root

def ghostsField (lib : LibCbor) (ghosts : List (KAnonGhostWinner FloatVal)) : Option Fields :=
  (ghosts.mapM (ghostItem lib)).map fun items => [(kKAnonGhostWinners, .array items)]

theorem cborSerializeKAnonGhostWinners_writes (lib : LibCbor)
    (ghosts : List (KAnonGhostWinner FloatVal)) :
    Writes 1 (cborSerializeKAnonGhostWinners lib ghosts) (ghostsField lib ghosts) := by
  have hloop := Appends.each (l := ghosts) fun ghost _ =>
    (cborSerializeKAnonGhostWinner_appends lib ghost).orReport
      "Failed to serialize a kAnonGhostWinner to CBOR" (internalError "")
  exact Writes.array hloop le_rfl fun l => cborMapAddOr_writes _ _ (.array l)

/-! ## Debug reports -/

def writeDebugReport (report : DebugReport) (root : DefiniteMap) : Emit Status DefiniteMap := do
  let root ← cborSerializeString kUrl report.url root
  let root ← cborSerializeBool kIsWinReport report.isWinReport root
  let root ← cborSerializeBool kComponentWin report.isComponentWin root
  cborSerializeBool kIsSellerReport report.isSellerReport root

def pushDebugReport (origin : String) (report : DebugReport) (reportsArray : DefiniteArray) :
    Emit Status DefiniteArray := do
  let reportMap ← writeDebugReport report (.new kNumDebugReportKeys)
  Definite.addOr ("Failed to add debug report entry to array for origin: " ++ origin)
    (internalError "") (.map reportMap.entries) reportsArray

def writeReports (origin : String) (debugReports : DebugReports) (root : DefiniteMap) :
    Emit Status DefiniteMap := do
  let reportsArray ← debugReports.reports.foldlM
    (fun array report => pushDebugReport origin report array)
    (.new debugReports.reports.length)
  cborMapAddOr "Failed to add reports to map" kReports (.array reportsArray.entries) root

def writeDebugReportsPerOrigin (entry : String × DebugReports) (root : DefiniteMap) :
    Emit Status DefiniteMap := do
  let root ← writeReports entry.1 entry.2 root
  cborSerializeString kAdTechOrigin entry.1 root

def pushDebugReportsPerOrigin (entry : String × DebugReports)
    (serializedDebugReports : DefiniteArray) : Emit Status DefiniteArray := do
  let debugReportsPerOrigin ← writeDebugReportsPerOrigin entry (.new kNumDebugReportsKeys)
  Definite.addOr "Failed to add debug reports per origin to array" (internalError "")
    (.map debugReportsPerOrigin.entries) serializedDebugReports

def writeDebugReports (adtechOriginDebugUrlsMap : AdtechOriginDebugUrlsMap)
    (root : DefiniteMap) : Emit Status DefiniteMap := do
  let serializedDebugReports ← (orderedEntries adtechOriginDebugUrlsMap).foldlM
    (fun array entry => pushDebugReportsPerOrigin entry array)
    (.new adtechOriginDebugUrlsMap.entries.length)
  cborMapAddOr "Failed to add debugReports to map" kDebugReports
    (.array serializedDebugReports.entries) root

def cborSerializeDebugReports (adtechOriginDebugUrlsMap : AdtechOriginDebugUrlsMap)
    (root : DefiniteMap) : Emit Status DefiniteMap :=
  if adtechOriginDebugUrlsMap.entries ≠ [] then writeDebugReports adtechOriginDebugUrlsMap root
  else pure root

def debugReportFields (report : DebugReport) : Fields :=
  [(kUrl, .text report.url), (kIsWinReport, .bool report.isWinReport),
    (kComponentWin, .bool report.isComponentWin), (kIsSellerReport, .bool report.isSellerReport)]

def debugReportsFields (entry : String × DebugReports) : Fields :=
  [(kReports, .array (entry.2.reports.map fun report => .record (debugReportFields report))),
    (kAdTechOrigin, .text entry.1)]

def debugReportsItem (adtechOriginDebugUrlsMap : AdtechOriginDebugUrlsMap) : Item :=
  .array ((orderedEntries adtechOriginDebugUrlsMap).map fun entry =>
    .record (debugReportsFields entry))

def debugReportsField (adtechOriginDebugUrlsMap : AdtechOriginDebugUrlsMap) : Fields :=
  if adtechOriginDebugUrlsMap.entries ≠ [] then
    [(kDebugReports, debugReportsItem adtechOriginDebugUrlsMap)]
  else []

theorem pushDebugReport_appends (origin : String) (report : DebugReport) :
    Appends 1 (pushDebugReport origin report) (some [.record (debugReportFields report)]) := by
  have hfields : Writes 4 (writeDebugReport report) (some (debugReportFields report)) :=
    (cborMapAddOr_writes _ _ _).seq <| (cborMapAddOr_writes _ _ _).seq <|
      (cborMapAddOr_writes _ _ _).seq (cborMapAddOr_writes _ _ _)
  exact hfields.pushed le_rfl fun l => Appends.addOr _ _ (Item.map l)

theorem pushDebugReportsPerOrigin_appends (entry : String × DebugReports) :
    Appends 1 (pushDebugReportsPerOrigin entry) (some [.record (debugReportsFields entry)]) := by
  have hreports : Writes 1 (writeReports entry.1 entry.2) (some [(kReports,
      .array (entry.2.reports.map fun report => .record (debugReportFields report)))]) :=
    Writes.array (Appends.eachOne fun report _ => pushDebugReport_appends entry.1 report) le_rfl
      fun l => cborMapAddOr_writes _ _ (.array l)
  have hfields : Writes 2 (writeDebugReportsPerOrigin entry) (some (debugReportsFields entry)) :=
    hreports.seq (cborMapAddOr_writes _ _ _)
  exact hfields.pushed le_rfl fun l => Appends.addOr _ _ (Item.map l)

theorem cborSerializeDebugReports_writes (adtechOriginDebugUrlsMap : AdtechOriginDebugUrlsMap) :
    Writes 1 (cborSerializeDebugReports adtechOriginDebugUrlsMap)
      (some (debugReportsField adtechOriginDebugUrlsMap)) := by
  have hloop := Appends.eachOne (l := orderedEntries adtechOriginDebugUrlsMap)
    fun entry _ => pushDebugReportsPerOrigin_appends entry
  rw [orderedEntries_length] at hloop
  exact Writes.when (Writes.array hloop le_rfl fun l => cborMapAddOr_writes _ _ (.array l))

/-! ## Update and bidding groups -/

def writeUpdate (update : UpdateInterestGroup) (root : DefiniteMap) :
    Emit Status DefiniteMap := do
  let root ← cborSerializeInt kIndex update.index root
  cborSerializeInt kUpdateIfOlderThanMs update.updateIfOlderThanMs root

def pushUpdate (origin : String) (update : UpdateInterestGroup)
    (updateGroupArray : DefiniteArray) : Emit Status DefiniteArray := do
  let serializedUpdateMap ← writeUpdate update (.new 2)
  Definite.addOr ("Failed to add interest group update entry to array for owner: " ++ origin)
    (internalError "") (.map serializedUpdateMap.entries) updateGroupArray

def addUpdates (entry : String × UpdateInterestGroupList) (serializedGroupMap : DefiniteMap) :
    Emit Status DefiniteMap := do
  let updateGroupArray ← entry.2.interestGroups.foldlM
    (fun array update => pushUpdate entry.1 update array) (.new entry.2.interestGroups.length)
  cborMapAddOr "Failed to serialize an <origin, update group array> pair to CBOR" entry.1
    (.array updateGroupArray.entries) serializedGroupMap

def cborSerializeUpdateGroups (updateGroups : UpdateGroupMap) (root : DefiniteMap) :
    Emit Status DefiniteMap := do
  let serializedGroupMap ← (orderedEntries updateGroups).foldlM
    (fun map entry => addUpdates entry map) (.new updateGroups.entries.length)
  cborMapAddOr (failedToSerialize kUpdateGroups) kUpdateGroups
    (.map serializedGroupMap.entries) root

def updateFields (update : UpdateInterestGroup) : Fields :=
  [(kIndex, cborBuildInt update.index),
    (kUpdateIfOlderThanMs, cborBuildInt update.updateIfOlderThanMs)]

def updatesItem (updates : UpdateInterestGroupList) : Item :=
  .array (updates.interestGroups.map fun update => .record (updateFields update))

def updateGroupsItem (updateGroups : UpdateGroupMap) : Item :=
  .record ((orderedEntries updateGroups).map fun entry => (entry.1, updatesItem entry.2))

theorem pushUpdate_appends (origin : String) (update : UpdateInterestGroup) :
    Appends 1 (pushUpdate origin update) (some [.record (updateFields update)]) := by
  have hfields : Writes 2 (writeUpdate update) (some (updateFields update)) :=
    (cborMapAddOr_writes _ _ _).seq (cborMapAddOr_writes _ _ _)
  exact hfields.pushed le_rfl fun l => Appends.addOr _ _ (Item.map l)

theorem cborSerializeUpdateGroups_writes (updateGroups : UpdateGroupMap) :
    Writes 1 (cborSerializeUpdateGroups updateGroups)
      (some [(kUpdateGroups, updateGroupsItem updateGroups)]) := by
  have howner : ∀ entry : String × UpdateInterestGroupList,
      Writes 1 (addUpdates entry) (some [(entry.1, updatesItem entry.2)]) := fun entry =>
    Writes.array (Appends.eachOne fun update _ => pushUpdate_appends entry.1 update) le_rfl
      fun l => cborMapAddOr_writes _ _ (.array l)
  have hloop := Writes.eachOne (l := orderedEntries updateGroups) fun entry _ => howner entry
  rw [orderedEntries_length] at hloop
  exact Writes.record hloop le_rfl fun l => cborMapAddOr_writes _ _ (.map l)

def addBiddingGroup (entry : String × InterestGroupIndex) :
    DefiniteMap → Emit Status DefiniteMap :=
  cborSerializeItems "Failed to serialize a bidding group index to CBOR"
    "Failed to serialize an <origin, bidding group array> pair to CBOR" entry.1
    (entry.2.index.map fun index => cborBuildUint index.toUInt32)

def cborSerializeBiddingGroups (biddingGroups : BiddingGroupMap) (root : DefiniteMap) :
    Emit Status DefiniteMap := do
  let serializedGroupMap ← (orderedEntries biddingGroups).foldlM
    (fun map entry => addBiddingGroup entry map) (.new biddingGroups.entries.length)
  cborMapAddOr (failedToSerialize kBiddingGroups) kBiddingGroups
    (.map serializedGroupMap.entries) root

def biddingGroupItem (group : InterestGroupIndex) : Item :=
  .array (group.index.map fun index => cborBuildUint index.toUInt32)

def biddingGroupsItem (biddingGroups : BiddingGroupMap) : Item :=
  .record ((orderedEntries biddingGroups).map fun entry => (entry.1, biddingGroupItem entry.2))

theorem cborSerializeBiddingGroups_writes (biddingGroups : BiddingGroupMap) :
    Writes 1 (cborSerializeBiddingGroups biddingGroups)
      (some [(kBiddingGroups, biddingGroupsItem biddingGroups)]) := by
  have howner : ∀ entry : String × InterestGroupIndex,
      Writes 1 (addBiddingGroup entry) (some [(entry.1, biddingGroupItem entry.2)]) := fun entry =>
    cborSerializeItems_writes _ _ _ _
  have hloop := Writes.eachOne (l := orderedEntries biddingGroups) fun entry _ => howner entry
  rw [orderedEntries_length] at hloop
  exact Writes.record hloop le_rfl fun l => cborMapAddOr_writes _ _ (.map l)

/-! ## Reporting URLs -/

def addKVToMap (key value : String) : DefiniteMap → Emit Status DefiniteMap :=
  cborMapAddOr (failedToSerialize key) key (.text value)

def cborSerializeInteractionReportingUrls (interactionUrlMap : FlatHashMap String String)
    (root : DefiniteMap) : Emit Status DefiniteMap := do
  let serializedInteractionUrlMap ← (orderedEntries interactionUrlMap).foldlM
    (fun map entry => addKVToMap entry.1 entry.2 map) (.new interactionUrlMap.entries.length)
  cborMapAddOr (failedToSerialize kInteractionReportingUrls) kInteractionReportingUrls
    (.map serializedInteractionUrlMap.entries) root

def interactionUrlsItem (interactionUrlMap : FlatHashMap String String) : Item :=
  .record ((orderedEntries interactionUrlMap).map fun entry => (entry.1, .text entry.2))

theorem cborSerializeInteractionReportingUrls_writes
    (interactionUrlMap : FlatHashMap String String) :
    Writes 1 (cborSerializeInteractionReportingUrls interactionUrlMap)
      (some [(kInteractionReportingUrls, interactionUrlsItem interactionUrlMap)]) := by
  have hevent : ∀ entry : String × String,
      Writes 1 (addKVToMap entry.1 entry.2) (some [(entry.1, .text entry.2)]) := fun entry =>
    cborMapAddOr_writes _ _ _
  have hloop := Writes.eachOne (l := orderedEntries interactionUrlMap) fun entry _ => hevent entry
  rw [orderedEntries_length] at hloop
  exact Writes.record hloop le_rfl fun l => cborMapAddOr_writes _ _ (.map l)

def writeReportingUrls (reportingUrls : ReportingUrls) (root : DefiniteMap) :
    Emit Status DefiniteMap := do
  let root ← writeIfNonempty kReportingUrl reportingUrls.reportingUrl root
  if reportingUrls.interactionReportingUrls.entries ≠ [] then
    cborSerializeInteractionReportingUrls reportingUrls.interactionReportingUrls root
  else pure root

def addReportingUrls (key : String) (reportingUrls : ReportingUrls) (root : DefiniteMap) :
    Emit Status DefiniteMap := do
  let serializedReportingUrls ← writeReportingUrls reportingUrls (.new kNumReportingUrlsKeys)
  cborMapAddOr (failedToSerialize key) key (.map serializedReportingUrls.entries) root

def cborSerializeReportingUrls (key : String) (reportingUrls : ReportingUrls)
    (root : DefiniteMap) : Emit Status DefiniteMap :=
  if reportingUrls.reportingUrl ≠ "" ∨ reportingUrls.interactionReportingUrls.entries ≠ [] then
    addReportingUrls key reportingUrls root
  else pure root

def writeWinReportingUrls (winReportingUrls : WinReportingUrls) (root : DefiniteMap) :
    Emit Status DefiniteMap := do
  let root ← winReportingUrls.buyerReportingUrls.elim (pure root) fun urls =>
    cborSerializeReportingUrls kBuyerReportingUrls urls root
  let root ← winReportingUrls.topLevelSellerReportingUrls.elim (pure root) fun urls =>
    cborSerializeReportingUrls kTopLevelSellerReportingUrls urls root
  winReportingUrls.componentSellerReportingUrls.elim (pure root) fun urls =>
    cborSerializeReportingUrls kComponentSellerReportingUrls urls root

def addWinReportingUrls (winReportingUrls : WinReportingUrls) (root : DefiniteMap) :
    Emit Status DefiniteMap := do
  let serializedWinReportingUrls ←
    writeWinReportingUrls winReportingUrls (.new kNumWinReportingUrlsKeys)
  cborMapAddOr (failedToSerialize kWinReportingUrls) kWinReportingUrls
    (.map serializedWinReportingUrls.entries) root

def cborSerializeWinReportingUrls (winReportingUrls : WinReportingUrls) (root : DefiniteMap) :
    Emit Status DefiniteMap :=
  if winReportingUrls.buyerReportingUrls.isSome ∨
      winReportingUrls.topLevelSellerReportingUrls.isSome then
    addWinReportingUrls winReportingUrls root
  else pure root

def reportingUrlsFields (reportingUrls : ReportingUrls) : Fields :=
  ifNonempty kReportingUrl reportingUrls.reportingUrl ++
  if reportingUrls.interactionReportingUrls.entries ≠ [] then
    [(kInteractionReportingUrls, interactionUrlsItem reportingUrls.interactionReportingUrls)]
  else []

def reportingUrlsField (key : String) (reportingUrls : Option ReportingUrls) : Fields :=
  reportingUrls.elim [] fun reportingUrls =>
    if reportingUrls.reportingUrl ≠ "" ∨ reportingUrls.interactionReportingUrls.entries ≠ [] then
      [(key, .record (reportingUrlsFields reportingUrls))]
    else []

def winReportingUrlsFields (winReportingUrls : WinReportingUrls) : Fields :=
  reportingUrlsField kBuyerReportingUrls winReportingUrls.buyerReportingUrls ++
    (reportingUrlsField kTopLevelSellerReportingUrls
        winReportingUrls.topLevelSellerReportingUrls ++
      reportingUrlsField kComponentSellerReportingUrls
        winReportingUrls.componentSellerReportingUrls)

/-- The field of the reporting URLs: none for a component seller alone. -/
def winReportingUrlsField (winReportingUrls : WinReportingUrls) : Fields :=
  if winReportingUrls.buyerReportingUrls.isSome ∨
      winReportingUrls.topLevelSellerReportingUrls.isSome then
    [(kWinReportingUrls, .record (winReportingUrlsFields winReportingUrls))]
  else []

theorem cborSerializeReportingUrls_writes (key : String) (reportingUrls : Option ReportingUrls) :
    Writes 1 (fun root => reportingUrls.elim (pure root) fun urls =>
        cborSerializeReportingUrls key urls root)
      (some (reportingUrlsField key reportingUrls)) := by
  cases reportingUrls with
  | none => exact Appends.nothing.mono (Nat.zero_le 1)
  | some urls =>
    have hfields : Writes 2 (writeReportingUrls urls) (some (reportingUrlsFields urls)) :=
      (writeIfNonempty_writes _ _).seq
        (Writes.when (cborSerializeInteractionReportingUrls_writes _))
    exact Writes.when (Writes.record hfields le_rfl fun l => cborMapAddOr_writes _ key (.map l))

theorem cborSerializeWinReportingUrls_writes (winReportingUrls : WinReportingUrls) :
    Writes 1 (cborSerializeWinReportingUrls winReportingUrls)
      (some (winReportingUrlsField winReportingUrls)) := by
  have hfields : Writes 3 (writeWinReportingUrls winReportingUrls)
      (some (winReportingUrlsFields winReportingUrls)) :=
    (cborSerializeReportingUrls_writes _ _).seq <|
      (cborSerializeReportingUrls_writes _ _).seq (cborSerializeReportingUrls_writes _ _)
  exact Writes.when (Writes.record hfields le_rfl fun l => cborMapAddOr_writes _ _ (.map l))

/-! ## The winner -/

def ghostWinnersOf (kanonData : Option (KAnonAuctionResultData FloatVal)) :
    Option (List (KAnonGhostWinner FloatVal)) :=
  kanonData.bind fun data => data.kanonGhostWinners

/-- The winner's join candidate and position, if the data holds them. -/
def winnerJoinCandidateOf (kanonData : Option (KAnonAuctionResultData FloatVal)) :
    Option (KAnonJoinCandidate × Int32) :=
  kanonData.bind fun data => data.kanonWinnerJoinCandidates.map fun candidate =>
    (candidate, data.kanonWinnerPositionalIndex)

def writeGhostWinners (lib : LibCbor) (kanonData : Option (KAnonAuctionResultData FloatVal))
    (root : DefiniteMap) : Emit Status DefiniteMap :=
  (ghostWinnersOf kanonData).elim (pure root) fun ghosts =>
    cborSerializeKAnonGhostWinners lib ghosts root

def writeWinnerJoinCandidates (kanonData : Option (KAnonAuctionResultData FloatVal))
    (root : DefiniteMap) : Emit Status DefiniteMap :=
  (winnerJoinCandidateOf kanonData).elim (pure root) fun candidate => do
    let root ← cborSerializekAnonJoinCandidates kKAnonWinnerJoinCandidates candidate.1 root
    cborSerializeInt kKAnonWinnerPositionalIndex candidate.2 root

def writeContributions (ord : HashOrder)
    (responses : List (PrivateAggregateReportingResponse FloatVal)) (limit : Int32)
    (root : DefiniteMap) : Emit Status DefiniteMap :=
  if responses ≠ [] then cborSerializePAggResponse ord responses limit root else pure root

def cborSerializeScoreAdResponse (lib : LibCbor) (ord : HashOrder) (adScore : AdScore FloatVal)
    (biddingGroupMap : BiddingGroupMap) (updateGroupMap : UpdateGroupMap)
    (adtechOriginDebugUrlsMap : AdtechOriginDebugUrlsMap)
    (perAdtechPaapiContributionsLimit : Int32) (adAuctionResultNonce : String)
    (kanonAuctionResultData : Option (KAnonAuctionResultData FloatVal)) (root : DefiniteMap) :
    Emit Status DefiniteMap := do
  let root ← cborSerializeFloat lib kBid adScore.buyerBid root
  let root ← writeIfNonempty kAdAuctionResultNonce adAuctionResultNonce root
  let root ← cborSerializeFloat lib kScore adScore.desirability root
  let root ← cborSerializeBool kChaff false root
  let root ← cborSerializeAdComponentUrls kAdComponents adScore.componentRenders root
  let root ← cborSerializeString kAdRenderUrl adScore.render root
  let root ← writeContributions ord adScore.topLevelContributions perAdtechPaapiContributionsLimit
    root
  let root ← cborSerializeDebugReports adtechOriginDebugUrlsMap root
  let root ← cborSerializeUpdateGroups updateGroupMap root
  let root ← cborSerializeBiddingGroups biddingGroupMap root
  let root ← writeIfNonempty kBuyerReportingId (adScore.buyerReportingId.getD "") root
  let root ← cborSerializeWinReportingUrls adScore.winReportingUrls root
  let root ← cborSerializeString kInterestGroupName adScore.interestGroupName root
  let root ← writeGhostWinners lib kanonAuctionResultData root
  let root ← cborSerializeString kInterestGroupOwner adScore.interestGroupOwner root
  writeWinnerJoinCandidates kanonAuctionResultData root

def writeComponentScoreAd (lib : LibCbor) (topLevelSeller : String) (adScore : AdScore FloatVal)
    (biddingGroupMap : BiddingGroupMap) (updateGroupMap : UpdateGroupMap)
    (adtechOriginDebugUrlsMap : AdtechOriginDebugUrlsMap) (adAuctionResultNonce : String)
    (kanonAuctionResultData : Option (KAnonAuctionResultData FloatVal)) (root : DefiniteMap) :
    Emit Status DefiniteMap := do
  let root ← cborSerializeFloat lib kBid adScore.bid root
  let root ← writeIfNonempty kAdAuctionResultNonce adAuctionResultNonce root
  let root ← cborSerializeFloat lib kScore adScore.desirability root
  let root ← cborSerializeBool kChaff false root
  let root ← writeIfNonempty kAdMetadata adScore.adMetadata root
  let root ← cborSerializeAdComponentUrls kAdComponents adScore.componentRenders root
  let root ← cborSerializeString kAdRenderUrl adScore.render root
  let root ← writeIfNonempty kBidCurrency adScore.bidCurrency root
  let root ← cborSerializeDebugReports adtechOriginDebugUrlsMap root
  let root ← cborSerializeUpdateGroups updateGroupMap root
  let root ← cborSerializeBiddingGroups biddingGroupMap root
  let root ← cborSerializeString kTopLevelSeller topLevelSeller root
  let root ← cborSerializeWinReportingUrls adScore.winReportingUrls root
  let root ← cborSerializeString kInterestGroupName adScore.interestGroupName root
  let root ← writeGhostWinners lib kanonAuctionResultData root
  let root ← cborSerializeString kInterestGroupOwner adScore.interestGroupOwner root
  writeWinnerJoinCandidates kanonAuctionResultData root

def cborSerializeComponentScoreAdResponse (lib : LibCbor) (topLevelSeller : String)
    (adScore : AdScore FloatVal) (biddingGroupMap : BiddingGroupMap)
    (updateGroupMap : UpdateGroupMap) (adtechOriginDebugUrlsMap : AdtechOriginDebugUrlsMap)
    (adAuctionResultNonce : String)
    (kanonAuctionResultData : Option (KAnonAuctionResultData FloatVal)) (root : DefiniteMap) :
    Emit Status DefiniteMap :=
  if isNonPositive adScore.bid then
    throw (internalError "Modified bid should never be zero, logic error")
  else
    writeComponentScoreAd lib topLevelSeller adScore biddingGroupMap updateGroupMap
      adtechOriginDebugUrlsMap adAuctionResultNonce kanonAuctionResultData root

def winnerJoinFields (candidate : Option (KAnonJoinCandidate × Int32)) : Fields :=
  candidate.elim [] fun candidate =>
    [(kKAnonWinnerJoinCandidates, .record (joinCandidateFields candidate.1)),
      (kKAnonWinnerPositionalIndex, cborBuildInt candidate.2)]

def contributionsField (ord : HashOrder)
    (responses : List (PrivateAggregateReportingResponse FloatVal)) (limit : Int32) : Fields :=
  if responses ≠ [] then [(kPAggResponse, paggResponseItem ord responses limit)] else []

def winnerTailPieces (lib : LibCbor) (adScore : AdScore FloatVal)
    (kanonData : Option (KAnonAuctionResultData FloatVal)) : List (Option Fields) :=
  [some (winReportingUrlsField adScore.winReportingUrls),
    some [(kInterestGroupName, .text adScore.interestGroupName)],
    (ghostWinnersOf kanonData).elim (some []) (ghostsField lib),
    some [(kInterestGroupOwner, .text adScore.interestGroupOwner)],
    some (winnerJoinFields (winnerJoinCandidateOf kanonData))]

def scoreAdPieces (lib : LibCbor) (ord : HashOrder) (adScore : AdScore FloatVal)
    (biddingGroupMap : BiddingGroupMap) (updateGroupMap : UpdateGroupMap)
    (adtechOriginDebugUrlsMap : AdtechOriginDebugUrlsMap) (limit : Int32) (nonce : String)
    (kanonData : Option (KAnonAuctionResultData FloatVal)) : List (Option Fields) :=
  [floatField lib kBid adScore.buyerBid,
    some (ifNonempty kAdAuctionResultNonce nonce),
    floatField lib kScore adScore.desirability,
    some [(kChaff, .bool false)],
    some [(kAdComponents, .array (adScore.componentRenders.map Item.text))],
    some [(kAdRenderUrl, .text adScore.render)],
    some (contributionsField ord adScore.topLevelContributions limit),
    some (debugReportsField adtechOriginDebugUrlsMap),
    some [(kUpdateGroups, updateGroupsItem updateGroupMap)],
    some [(kBiddingGroups, biddingGroupsItem biddingGroupMap)],
    some (ifNonempty kBuyerReportingId (adScore.buyerReportingId.getD ""))] ++
  winnerTailPieces lib adScore kanonData

def componentScoreAdPieces (lib : LibCbor) (topLevelSeller : String) (adScore : AdScore FloatVal)
    (biddingGroupMap : BiddingGroupMap) (updateGroupMap : UpdateGroupMap)
    (adtechOriginDebugUrlsMap : AdtechOriginDebugUrlsMap) (nonce : String)
    (kanonData : Option (KAnonAuctionResultData FloatVal)) : List (Option Fields) :=
  [floatField lib kBid adScore.bid,
    some (ifNonempty kAdAuctionResultNonce nonce),
    floatField lib kScore adScore.desirability,
    some [(kChaff, .bool false)],
    some (ifNonempty kAdMetadata adScore.adMetadata),
    some [(kAdComponents, .array (adScore.componentRenders.map Item.text))],
    some [(kAdRenderUrl, .text adScore.render)],
    some (ifNonempty kBidCurrency adScore.bidCurrency),
    some (debugReportsField adtechOriginDebugUrlsMap),
    some [(kUpdateGroups, updateGroupsItem updateGroupMap)],
    some [(kBiddingGroups, biddingGroupsItem biddingGroupMap)],
    some [(kTopLevelSeller, .text topLevelSeller)]] ++
  winnerTailPieces lib adScore kanonData

theorem writeWinnerJoinCandidates_writes
    (kanonData : Option (KAnonAuctionResultData FloatVal)) :
    Writes 2 (writeWinnerJoinCandidates kanonData)
      (some (winnerJoinFields (winnerJoinCandidateOf kanonData))) := by
  unfold writeWinnerJoinCandidates winnerJoinFields
  cases winnerJoinCandidateOf kanonData with
  | none => exact Appends.nothing.mono (Nat.zero_le 2)
  | some candidate =>
    exact (cborSerializekAnonJoinCandidates_writes _ _).seq (cborMapAddOr_writes _ _ _)

theorem writeContributions_writes (ord : HashOrder)
    (responses : List (PrivateAggregateReportingResponse FloatVal)) (limit : Int32) :
    Writes 1 (writeContributions ord responses limit)
      (some (contributionsField ord responses limit)) := by
  unfold writeContributions contributionsField
  by_cases hne : responses = []
  · simp only [hne, ne_eq, not_true_eq_false, if_false]
    exact Appends.nothing.mono (Nat.zero_le 1)
  · simp only [hne, ne_eq, not_false_eq_true, if_true]
    exact cborSerializePAggResponse_writes ord limit hne

theorem writeWinnerTail_writes (lib : LibCbor) (adScore : AdScore FloatVal)
    (kanonData : Option (KAnonAuctionResultData FloatVal)) :
    Writes 6 (fun root =>
        cborSerializeWinReportingUrls adScore.winReportingUrls root >>= fun root =>
        cborSerializeString kInterestGroupName adScore.interestGroupName root >>= fun root =>
        writeGhostWinners lib kanonData root >>= fun root =>
        cborSerializeString kInterestGroupOwner adScore.interestGroupOwner root >>= fun root =>
        writeWinnerJoinCandidates kanonData root)
      (Fields.join (winnerTailPieces lib adScore kanonData)) :=
  (cborSerializeWinReportingUrls_writes _).cons <| (cborMapAddOr_writes _ _ _).cons <|
    (Writes.optional (cborSerializeKAnonGhostWinners_writes lib)).cons <|
    (cborMapAddOr_writes _ _ _).cons (writeWinnerJoinCandidates_writes kanonData).last

section Winner

variable (lib : LibCbor) (ord : HashOrder) (adScore : AdScore FloatVal)
  (biddingGroupMap : BiddingGroupMap) (updateGroupMap : UpdateGroupMap)
  (adtechOriginDebugUrlsMap : AdtechOriginDebugUrlsMap) (limit : Int32)
  (topLevelSeller nonce : String) (kanonData : Option (KAnonAuctionResultData FloatVal))

theorem cborSerializeScoreAdResponse_writes :
    Writes 17 (cborSerializeScoreAdResponse lib ord adScore biddingGroupMap updateGroupMap
        adtechOriginDebugUrlsMap limit nonce kanonData)
      (Fields.join (scoreAdPieces lib ord adScore biddingGroupMap updateGroupMap
        adtechOriginDebugUrlsMap limit nonce kanonData)) :=
  (cborSerializeFloat_writes lib _ _).cons <| (writeIfNonempty_writes _ _).cons <|
    (cborSerializeFloat_writes lib _ _).cons <| (cborMapAddOr_writes _ _ _).cons <|
    (cborSerializeItems_writes _ _ _ _).cons <| (cborMapAddOr_writes _ _ _).cons <|
    (writeContributions_writes ord _ limit).cons <| (cborSerializeDebugReports_writes _).cons <|
    (cborSerializeUpdateGroups_writes _).cons <| (cborSerializeBiddingGroups_writes _).cons <|
    (writeIfNonempty_writes _ _).cons (writeWinnerTail_writes lib adScore kanonData)

/-- The pieces of a component winner, unless its bid is refused. -/
def componentScoreAdFields : Option Fields :=
  if isNonPositive adScore.bid then none
  else Fields.join (componentScoreAdPieces lib topLevelSeller adScore biddingGroupMap
    updateGroupMap adtechOriginDebugUrlsMap nonce kanonData)

theorem cborSerializeComponentScoreAdResponse_writes :
    Writes 18 (cborSerializeComponentScoreAdResponse lib topLevelSeller adScore biddingGroupMap
        updateGroupMap adtechOriginDebugUrlsMap nonce kanonData)
      (componentScoreAdFields lib adScore biddingGroupMap updateGroupMap
        adtechOriginDebugUrlsMap topLevelSeller nonce kanonData) := by
  have hfields : Writes 18 (writeComponentScoreAd lib topLevelSeller adScore biddingGroupMap
        updateGroupMap adtechOriginDebugUrlsMap nonce kanonData)
      (Fields.join (componentScoreAdPieces lib topLevelSeller adScore biddingGroupMap
        updateGroupMap adtechOriginDebugUrlsMap nonce kanonData)) :=
    (cborSerializeFloat_writes lib _ _).cons <| (writeIfNonempty_writes _ _).cons <|
      (cborSerializeFloat_writes lib _ _).cons <| (cborMapAddOr_writes _ _ _).cons <|
      (writeIfNonempty_writes _ _).cons <| (cborSerializeItems_writes _ _ _ _).cons <|
      (cborMapAddOr_writes _ _ _).cons <| (writeIfNonempty_writes _ _).cons <|
      (cborSerializeDebugReports_writes _).cons <| (cborSerializeUpdateGroups_writes _).cons <|
      (cborSerializeBiddingGroups_writes _).cons <| (cborMapAddOr_writes _ _ _).cons
        (writeWinnerTail_writes lib adScore kanonData)
  unfold cborSerializeComponentScoreAdResponse componentScoreAdFields
  cases isNonPositive adScore.bid with
  | true => exact Appends.throws _
  | false => exact hfields

end Winner

/-! ## The result -/

def writeError (error : AuctionResultError) (root : DefiniteMap) : Emit Status DefiniteMap := do
  let root ← cborMapAddOr "Failed to serialize error code to CBOR" kCode
    (cborBuildUint error.code.toUInt32) root
  cborMapAddOr "Failed to serialize error message to CBOR" kMessage (.text error.message) root

def cborSerializeError (error : AuctionResultError) (root : DefiniteMap) :
    Emit Status DefiniteMap := do
  let serializedErrorMap ← writeError error (.new kNumErrorKeys)
  cborMapAddOr (failedToSerialize kError) kError (.map serializedErrorMap.entries) root

def errorFields (error : AuctionResultError) : Fields :=
  [(kCode, cborBuildUint error.code.toUInt32), (kMessage, .text error.message)]

theorem cborSerializeError_writes (error : AuctionResultError) :
    Writes 1 (cborSerializeError error) (some [(kError, .record (errorFields error))]) := by
  have hfields : Writes 2 (writeError error) (some (errorFields error)) :=
    (cborMapAddOr_writes _ _ _).seq (cborMapAddOr_writes _ _ _)
  exact Writes.record hfields le_rfl fun l => cborMapAddOr_writes _ _ (.map l)

/-- What both encoders write into the root, where `writeWinner` is how they write a
winner: the error, the winner, the ghost winners or the chaff bit. -/
def encodeRoot (lib : LibCbor)
    (writeWinner : AdScore FloatVal → DefiniteMap → Emit Status DefiniteMap)
    (highScore : Option (AdScore FloatVal)) (error : Option AuctionResultError)
    (adAuctionResultNonce : String)
    (kanonAuctionResultData : Option (KAnonAuctionResultData FloatVal)) (root : DefiniteMap) :
    Emit Status DefiniteMap :=
  match error, highScore, ghostWinnersOf kanonAuctionResultData with
  | some error, _, _ => do
    let root ← cborSerializeError error root
    writeIfNonempty kAdAuctionResultNonce adAuctionResultNonce root
  | none, some highScore, _ => writeWinner highScore root
  | none, none, some ghosts => do
    let root ← writeIfNonempty kAdAuctionResultNonce adAuctionResultNonce root
    cborSerializeKAnonGhostWinners lib ghosts root
  | none, none, none => do
    let root ← writeIfNonempty kAdAuctionResultNonce adAuctionResultNonce root
    cborSerializeBool kChaff true root

def getCborSerializedAuctionResult (lib : LibCbor) (cborDataRoot : Item) : Emit Status Bytes :=
  match lib.serialize cborDataRoot with
  | some byteString => pure byteString
  | none => do
    Emit.report "Failed to serialize the AuctionResult to CBOR (data is too large!)"
    throw (internalError "")

/-- The root that `Encode` builds. -/
def encodedRoot (lib : LibCbor) (ord : HashOrder) (highScore : Option (AdScore FloatVal))
    (biddingGroupMap : BiddingGroupMap) (updateGroupMap : UpdateGroupMap)
    (adtechOriginDebugUrlsMap : AdtechOriginDebugUrlsMap) (error : Option AuctionResultError)
    (perAdtechPaapiContributionsLimit : Int32) (adAuctionResultNonce : String)
    (kanonAuctionResultData : Option (KAnonAuctionResultData FloatVal)) :
    Emit Status DefiniteMap :=
  encodeRoot lib (fun highScore => cborSerializeScoreAdResponse lib ord highScore biddingGroupMap
      updateGroupMap adtechOriginDebugUrlsMap perAdtechPaapiContributionsLimit
      adAuctionResultNonce kanonAuctionResultData)
    highScore error adAuctionResultNonce kanonAuctionResultData (.new kNumAuctionResultKeys)

/-- The root that `EncodeComponent` builds. -/
def encodedComponentRoot (lib : LibCbor) (topLevelSeller : String)
    (highScore : Option (AdScore FloatVal)) (biddingGroupMap : BiddingGroupMap)
    (updateGroupMap : UpdateGroupMap) (adtechOriginDebugUrlsMap : AdtechOriginDebugUrlsMap)
    (error : Option AuctionResultError) (adAuctionResultNonce : String)
    (kanonAuctionResultData : Option (KAnonAuctionResultData FloatVal)) :
    Emit Status DefiniteMap :=
  encodeRoot lib (fun highScore => cborSerializeComponentScoreAdResponse lib topLevelSeller
      highScore biddingGroupMap updateGroupMap adtechOriginDebugUrlsMap adAuctionResultNonce
      kanonAuctionResultData)
    highScore error adAuctionResultNonce kanonAuctionResultData (.new kNumAuctionResultKeys)

def encode (lib : LibCbor) (ord : HashOrder) (highScore : Option (AdScore FloatVal))
    (biddingGroupMap : BiddingGroupMap) (updateGroupMap : UpdateGroupMap)
    (adtechOriginDebugUrlsMap : AdtechOriginDebugUrlsMap) (error : Option AuctionResultError)
    (perAdtechPaapiContributionsLimit : Int32) (adAuctionResultNonce : String)
    (kanonAuctionResultData : Option (KAnonAuctionResultData FloatVal)) : Emit Status Bytes := do
  let cborDataRoot ← encodedRoot lib ord highScore biddingGroupMap updateGroupMap
    adtechOriginDebugUrlsMap error perAdtechPaapiContributionsLimit adAuctionResultNonce
    kanonAuctionResultData
  getCborSerializedAuctionResult lib (.map cborDataRoot.entries)

def encodeComponent (lib : LibCbor) (topLevelSeller : String)
    (highScore : Option (AdScore FloatVal)) (biddingGroupMap : BiddingGroupMap)
    (updateGroupMap : UpdateGroupMap) (adtechOriginDebugUrlsMap : AdtechOriginDebugUrlsMap)
    (error : Option AuctionResultError) (adAuctionResultNonce : String)
    (kanonAuctionResultData : Option (KAnonAuctionResultData FloatVal)) : Emit Status Bytes := do
  let cborDataRoot ← encodedComponentRoot lib topLevelSeller highScore biddingGroupMap
    updateGroupMap adtechOriginDebugUrlsMap error adAuctionResultNonce kanonAuctionResultData
  getCborSerializedAuctionResult lib (.map cborDataRoot.entries)

/-- What is written into the root, given the fields of a winner. -/
def rootFields (lib : LibCbor) (winnerFields : AdScore FloatVal → Option Fields)
    (highScore : Option (AdScore FloatVal)) (error : Option AuctionResultError) (nonce : String)
    (kanonData : Option (KAnonAuctionResultData FloatVal)) : Option Fields :=
  match error, highScore, ghostWinnersOf kanonData with
  | some error, _, _ => Fields.join [some [(kError, .record (errorFields error))],
      some (ifNonempty kAdAuctionResultNonce nonce)]
  | none, some highScore, _ => winnerFields highScore
  | none, none, some ghosts => Fields.join [some (ifNonempty kAdAuctionResultNonce nonce),
      ghostsField lib ghosts]
  | none, none, none => Fields.join [some (ifNonempty kAdAuctionResultNonce nonce),
      some [(kChaff, .bool true)]]

theorem encodeRoot_writes (lib : LibCbor)
    {writeWinner : AdScore FloatVal → DefiniteMap → Emit Status DefiniteMap}
    {winnerFields : AdScore FloatVal → Option Fields} {n : ℕ} (hn : 2 ≤ n)
    (hwinner : ∀ highScore, Writes n (writeWinner highScore) (winnerFields highScore))
    (highScore : Option (AdScore FloatVal)) (error : Option AuctionResultError) (nonce : String)
    (kanonData : Option (KAnonAuctionResultData FloatVal)) :
    Writes n (encodeRoot lib writeWinner highScore error nonce kanonData)
      (rootFields lib winnerFields highScore error nonce kanonData) := by
  have hnonce := writeIfNonempty_writes kAdAuctionResultNonce nonce
  unfold encodeRoot rootFields
  cases error with
  | some error =>
    exact Writes.mono ((cborSerializeError_writes error).cons hnonce.last) hn
  | none =>
    cases highScore with
    | some highScore => exact hwinner highScore
    | none =>
      cases ghostWinnersOf kanonData with
      | some ghosts =>
        exact Writes.mono (hnonce.cons (cborSerializeKAnonGhostWinners_writes lib ghosts).last) hn
      | none => exact Writes.mono (hnonce.cons (cborMapAddOr_writes _ _ _).last) hn

theorem serialize_of_result {lib : LibCbor} {act : DefiniteMap → Emit Status DefiniteMap}
    {out : Option Fields} {n : ℕ} (h : Writes n act out) (hn : n ≤ kNumAuctionResultKeys)
    {bytes : Bytes}
    (hok : (act (.new kNumAuctionResultKeys) >>= fun cborDataRoot =>
      getCborSerializedAuctionResult lib (.map cborDataRoot.entries)).result = .ok bytes) :
    ∃ fs, out = some fs ∧ lib.serialize (Item.record fs) = some bytes := by
  obtain ⟨fs, hfs, hbytes⟩ := h.result_bind hn hok
  refine ⟨fs, hfs, ?_⟩
  unfold getCborSerializedAuctionResult at hbytes
  change (Emit.result (match lib.serialize (Item.record fs) with
    | some byteString => pure byteString
    | none => _)) = _ at hbytes
  cases hserialize : lib.serialize (Item.record fs) with
  | none =>
    rw [hserialize] at hbytes
    cases hbytes
  | some byteString =>
    rw [hserialize] at hbytes
    cases hbytes
    rfl

section Roots

variable (lib : LibCbor) (ord : HashOrder) (highScore : Option (AdScore FloatVal))
  (biddingGroupMap : BiddingGroupMap) (updateGroupMap : UpdateGroupMap)
  (adtechOriginDebugUrlsMap : AdtechOriginDebugUrlsMap) (error : Option AuctionResultError)
  (limit : Int32) (topLevelSeller nonce : String)
  (kanonData : Option (KAnonAuctionResultData FloatVal))

/-- The fields `Encode` writes. -/
def encodedFields : Option Fields :=
  rootFields lib (fun highScore => Fields.join (scoreAdPieces lib ord highScore biddingGroupMap
      updateGroupMap adtechOriginDebugUrlsMap limit nonce kanonData))
    highScore error nonce kanonData

/-- The fields `EncodeComponent` writes. -/
def encodedComponentFields : Option Fields :=
  rootFields lib (fun highScore => componentScoreAdFields lib highScore biddingGroupMap
      updateGroupMap adtechOriginDebugUrlsMap topLevelSeller nonce kanonData)
    highScore error nonce kanonData

theorem encodedRoot_writes :
    Writes 17 (encodeRoot lib (fun highScore => cborSerializeScoreAdResponse lib ord highScore
        biddingGroupMap updateGroupMap adtechOriginDebugUrlsMap limit nonce kanonData)
        highScore error nonce kanonData)
      (encodedFields lib ord highScore biddingGroupMap updateGroupMap adtechOriginDebugUrlsMap
        error limit nonce kanonData) :=
  encodeRoot_writes lib (by omega) (fun highScore => cborSerializeScoreAdResponse_writes lib ord
    highScore biddingGroupMap updateGroupMap adtechOriginDebugUrlsMap limit nonce kanonData)
    highScore error nonce kanonData

theorem encodedComponentRoot_writes :
    Writes 18 (encodeRoot lib (fun highScore => cborSerializeComponentScoreAdResponse lib
        topLevelSeller highScore biddingGroupMap updateGroupMap adtechOriginDebugUrlsMap nonce
        kanonData) highScore error nonce kanonData)
      (encodedComponentFields lib highScore biddingGroupMap updateGroupMap
        adtechOriginDebugUrlsMap error topLevelSeller nonce kanonData) :=
  encodeRoot_writes lib (by omega) (fun highScore => cborSerializeComponentScoreAdResponse_writes
    lib highScore biddingGroupMap updateGroupMap adtechOriginDebugUrlsMap topLevelSeller nonce
    kanonData) highScore error nonce kanonData

theorem encode_ok {bytes : Bytes}
    (hok : (encode lib ord highScore biddingGroupMap updateGroupMap adtechOriginDebugUrlsMap
      error limit nonce kanonData).result = .ok bytes) :
    ∃ fs, encodedFields lib ord highScore biddingGroupMap updateGroupMap
      adtechOriginDebugUrlsMap error limit nonce kanonData = some fs ∧
      lib.serialize (Item.record fs) = some bytes :=
  serialize_of_result (encodedRoot_writes lib ord highScore biddingGroupMap updateGroupMap
    adtechOriginDebugUrlsMap error limit nonce kanonData) (by decide) hok

end Roots

end BiddingAuction

import BiddingAuction.Foundation.BigEndian
import BiddingAuction.Web.CborCommon

/-!
# Serializing private aggregation contributions

`private_aggregation_helper`: contributions grouped by adtech, interest group and
event, each group one level of the `paggResponse`. Beside each serializer stands
the item it builds, and the lemma that it builds it.
-/

namespace BiddingAuction

open Foundation Foundation.Cbor

variable {F : Type}

def kReservedWinEvent := "reserved.win"
def kReservedLossEvent := "reserved.loss"
def kReservedAlwaysEvent := "reserved.always"
def kReservedPrefix := "reserved."
def kBucketSizeInBytes := 16

def getEvent (contribution : PrivateAggregateContribution F) : String :=
  match contribution.event.eventType with
  | .win => kReservedWinEvent
  | .loss => kReservedLossEvent
  | .always => kReservedAlwaysEvent
  | .custom => contribution.event.eventName
  | .unspecified => ""

/-- `strncmp` with the reserved prefix. -/
def isReserved (eventName : String) : Bool := kReservedPrefix.toList.isPrefixOf eventName.toList

/-! ## Buckets and values -/

/-- `bucket_128_bit().bucket_128_bits()`: none in a signal bucket. -/
def PrivateAggregationBucket.bits : PrivateAggregationBucket F → List UInt64
  | .bucket128Bit bits => bits
  | .signalBucket _ => []

def lowerInt (bits : List UInt64) : UInt64 := bits.headD 0

/-- The word that is serialized first: only of a bucket with exactly two. -/
def upperInt (bits : List UInt64) : UInt64 := if bits.length = 2 then bits.getD 1 0 else 0

def convertIntArrayToByteString (bucket : PrivateAggregationBucket F) : Bytes :=
  toBigEndian 8 (upperInt bucket.bits).toNat ++ toBigEndian 8 (lowerInt bucket.bits).toNat

def cborSerializePAggBucket (bucket : PrivateAggregationBucket F) (root : DefiniteMap) :
    Emit Status DefiniteMap :=
  match bucket with
  | .bucket128Bit _ =>
    cborSerializeByteString kBucket (convertIntArrayToByteString bucket) root
  | .signalBucket _ =>
    throw (internalError
      "Error serializing PrivateAggregationBucket. Bucket128Bit not present.")

def cborSerializePAggValue (value : PrivateAggregationValue F) (root : DefiniteMap) :
    Emit Status DefiniteMap :=
  match value with
  | .intValue value => cborSerializeInt kValue value root
  | .extendedValue _ =>
    throw (internalError
      "Error serializing PrivateAggregationValue. int_value is not present.")

def cborSerializePAggContribution (contribution : PrivateAggregateContribution F)
    (root : DefiniteMap) : Emit Status DefiniteMap :=
  match contribution.bucket, contribution.value with
  | some bucket, some value => do
    let root ← cborSerializePAggValue value root
    cborSerializePAggBucket bucket root
  | _, _ =>
    throw (internalError
      "Error serializing PrivateAggregateContribution. Missing bucket or value.")

/-- The fields of a contribution; `none` for one that is dropped. -/
def contributionFields (contribution : PrivateAggregateContribution F) : Option Fields :=
  match contribution.bucket, contribution.value with
  | some (.bucket128Bit bits), some (.intValue value) =>
    some [(kValue, cborBuildInt value),
      (kBucket,
        .bytes (toBigEndian 8 (upperInt bits).toNat ++ toBigEndian 8 (lowerInt bits).toNat))]
  | _, _ => none

theorem attempt_cborSerializePAggContribution (contribution : PrivateAggregateContribution F) :
    (cborSerializePAggContribution contribution (.new kNumContributionKeys)).attempt =
      pure ((contributionFields contribution).map
        fun fs => ⟨kNumContributionKeys, fs.entries⟩) := by
  unfold cborSerializePAggContribution contributionFields
  cases contribution.bucket with
  | none => rfl
  | some bucket =>
    cases contribution.value with
    | none => cases bucket <;> rfl
    | some value => cases bucket <;> cases value <;> rfl

/-! ## Lists of contributions -/

/-- One turn of the loop: a contribution that cannot be serialized is left out. -/
def pushPAggContribution (contribution : PrivateAggregateContribution F)
    (serializedContributions : DefiniteArray) : Emit Status DefiniteArray := do
  let some serializedPaggContribution ←
      (cborSerializePAggContribution contribution (.new kNumContributionKeys)).attempt
    | return serializedContributions
  Definite.addOrSkip (.map serializedPaggContribution.entries) serializedContributions

def cborSerializePAggContributionList (contributions : List (PrivateAggregateContribution F))
    (root : DefiniteMap) : Emit Status DefiniteMap := do
  let serializedContributions ← contributions.foldlM
    (fun array contribution => pushPAggContribution contribution array)
    (.new contributions.length)
  cborMapAddOr "Failed to serialize PAggContributions to CBOR" kContributions
    (.array serializedContributions.entries) root

def contributionsItem (contributions : List (PrivateAggregateContribution F)) : Item :=
  .array ((contributions.filterMap contributionFields).map Item.record)

theorem cborSerializePAggContributionList_writes
    (contributions : List (PrivateAggregateContribution F)) :
    Writes 1 (cborSerializePAggContributionList contributions)
      (some [(kContributions, contributionsItem contributions)]) := by
  have hloop := Appends.eachSome (l := contributions) (f := pushPAggContribution)
    (g := fun c => (contributionFields c).map Item.record) fun contribution _ => by
      unfold pushPAggContribution
      simp only [attempt_cborSerializePAggContribution, pure_bind]
      cases contributionFields contribution with
      | none => exact Appends.nothing.mono (Nat.zero_le 1)
      | some fs => exact Appends.addOrSkip (Item.record fs)
  have hlist : cborSerializePAggContributionList contributions =
      cborMapAddOr "Failed to serialize PAggContributions to CBOR" kContributions
        (contributionsItem contributions) := by
    funext root
    unfold cborSerializePAggContributionList contributionsItem
    rw [hloop.built le_rfl, pure_bind, List.map_filterMap]
  rw [hlist]
  exact cborMapAddOr_writes _ _ _

/-! ## Events -/

/-- One turn of the loop over the events: only a custom event's name is set. -/
def pushPAggEventContributions (group : String × List (PrivateAggregateContribution F))
    (allSerializedEventContributions : DefiniteArray) : Emit Status DefiniteArray := do
  let serializedEventContributions ←
    if isReserved group.1 then pure (.new kNumEventContributionKeys)
    else cborSerializeString kEvent group.1 (.new kNumEventContributionKeys)
  let some serializedEventContributions ←
      (cborSerializePAggContributionList group.2 serializedEventContributions).attempt
    | return allSerializedEventContributions
  Definite.addOrSkip (.map serializedEventContributions.entries) allSerializedEventContributions

def cborSerializePAggEventContributions (ord : HashOrder)
    (contributions : List (PrivateAggregateContribution F)) (root : DefiniteMap) :
    Emit Status DefiniteMap := do
  let groupedContributions := ord.entries (FlatHashMap.groupBy getEvent id contributions)
  let allSerializedEventContributions ← groupedContributions.foldlM
    (fun array group => pushPAggEventContributions group array)
    (.new groupedContributions.length)
  cborMapAddOr "Failed to serialize paggEventContributions to CBOR" kEventContributions
    (.array allSerializedEventContributions.entries) root

def eventFields (group : String × List (PrivateAggregateContribution F)) : Fields :=
  (if isReserved group.1 then [] else [(kEvent, .text group.1)]) ++
    [(kContributions, contributionsItem group.2)]

def eventContributionsItem (ord : HashOrder)
    (contributions : List (PrivateAggregateContribution F)) : Item :=
  .array ((ord.entries (FlatHashMap.groupBy getEvent id contributions)).map fun group =>
    .record (eventFields group))

theorem pushPAggEventContributions_appends
    (group : String × List (PrivateAggregateContribution F)) :
    Appends 1 (pushPAggEventContributions group) (some [.record (eventFields group)]) := by
  have hlist : ∀ gs : Fields, gs.length + 1 ≤ kNumEventContributionKeys →
      cborSerializePAggContributionList group.2 ⟨kNumEventContributionKeys, gs.entries⟩ =
        pure ⟨kNumEventContributionKeys,
          Fields.entries (gs ++ [(kContributions, contributionsItem group.2)])⟩ :=
    fun gs => (cborSerializePAggContributionList_writes group.2).builtAfter gs
  have hpush : pushPAggEventContributions group =
      Definite.addOrSkip (.record (eventFields group)) := by
    funext array
    unfold pushPAggEventContributions eventFields
    cases isReserved group.1 with
    | true =>
      have hbuilt := hlist [] (Nat.le_succ 1)
      simp only [if_true, pure_bind]
      rw [show (Definite.new kNumEventContributionKeys : DefiniteMap) =
        ⟨kNumEventContributionKeys, Fields.entries []⟩ from rfl, hbuilt]
      rfl
    | false =>
      have hevent : cborSerializeString kEvent group.1 (.new kNumEventContributionKeys) =
          pure ⟨kNumEventContributionKeys, Fields.entries [(kEvent, .text group.1)]⟩ :=
        (cborMapAddOr_writes _ kEvent (.text group.1)).built (Nat.le_succ 1)
      have hbuilt := hlist [(kEvent, .text group.1)] le_rfl
      simp only [Bool.false_eq_true, if_false]
      rw [hevent, pure_bind, hbuilt]
      rfl
  rw [hpush]
  exact Appends.addOrSkip _

theorem cborSerializePAggEventContributions_writes (ord : HashOrder)
    (contributions : List (PrivateAggregateContribution F)) :
    Writes 1 (cborSerializePAggEventContributions ord contributions)
      (some [(kEventContributions, eventContributionsItem ord contributions)]) := by
  have hloop := Appends.eachOne (l := ord.entries (FlatHashMap.groupBy getEvent id contributions))
    fun group _ => pushPAggEventContributions_appends group
  have hevents : cborSerializePAggEventContributions ord contributions =
      cborMapAddOr "Failed to serialize paggEventContributions to CBOR" kEventContributions
        (eventContributionsItem ord contributions) := by
    funext root
    unfold cborSerializePAggEventContributions eventContributionsItem
    simp only [hloop.built le_rfl, pure_bind]
  rw [hevents]
  exact cborMapAddOr_writes _ _ _

/-! ## Interest groups -/

def pushIgContributions (ord : HashOrder) (group : Int32 × List (PrivateAggregateContribution F))
    (allSerializedIgContributions : DefiniteArray) : Emit Status DefiniteArray := do
  let serializedIgContributions ←
    cborSerializeInt kIgIndex group.1 (.new kNumIgContributionKeys)
  let some serializedIgContributions ←
      (cborSerializePAggEventContributions ord group.2 serializedIgContributions).attempt
    | return allSerializedIgContributions
  Definite.addOrSkip (.map serializedIgContributions.entries) allSerializedIgContributions

/-- The contributions of no interest group, after those of the groups. -/
def pushContributionsWithNoIgIdx (ord : HashOrder)
    (contributionsWithNoIgIdx : List (PrivateAggregateContribution F))
    (allSerializedIgContributions : DefiniteArray) : Emit Status DefiniteArray := do
  if contributionsWithNoIgIdx.isEmpty then
    return allSerializedIgContributions
  let contributionStatus ← (cborSerializePAggEventContributions ord contributionsWithNoIgIdx
    (.new kNumIgContributionKeysWithoutIgIdx)).attempt
  let serializedIgContributions :=
    contributionStatus.getD (.new kNumIgContributionKeysWithoutIgIdx)
  Definite.addOr "Failed to serialize igContributions to CBOR" (internalError "")
    (.map serializedIgContributions.entries) allSerializedIgContributions

def contributionsPerIg (contributions : List (PrivateAggregateContribution F)) :
    FlatHashMap Int32 (List (PrivateAggregateContribution F)) :=
  FlatHashMap.groupBy Prod.fst Prod.snd
    (contributions.filterMap fun c => c.igIdx.map fun igIdx => (igIdx, c))

def contributionsWithNoIgIdx (contributions : List (PrivateAggregateContribution F)) :
    List (PrivateAggregateContribution F) :=
  contributions.filter fun c => c.igIdx.isNone

def cborSerializeIgContributions (ord : HashOrder)
    (contributions : List (PrivateAggregateContribution F)) (root : DefiniteMap) :
    Emit Status DefiniteMap := do
  let groupedContributions := ord.entries (contributionsPerIg contributions)
  let withNoIgIdx := contributionsWithNoIgIdx contributions
  let igContributionsSize := groupedContributions.length + if withNoIgIdx.isEmpty then 0 else 1
  let allSerializedIgContributions ← groupedContributions.foldlM
    (fun array group => pushIgContributions ord group array) (.new igContributionsSize)
  let allSerializedIgContributions ←
    pushContributionsWithNoIgIdx ord withNoIgIdx allSerializedIgContributions
  cborMapAddOr "Failed to serialize igContributions to CBOR" kIgContributions
    (.array allSerializedIgContributions.entries) root

def igFields (ord : HashOrder) (group : Int32 × List (PrivateAggregateContribution F)) : Fields :=
  [(kIgIndex, cborBuildInt group.1), (kEventContributions, eventContributionsItem ord group.2)]

def noIgItems (ord : HashOrder) (contributions : List (PrivateAggregateContribution F)) :
    List Item :=
  if contributions.isEmpty then []
  else [.record [(kEventContributions, eventContributionsItem ord contributions)]]

def igContributionsItem (ord : HashOrder)
    (contributions : List (PrivateAggregateContribution F)) : Item :=
  .array ((ord.entries (contributionsPerIg contributions)).map
    (fun group => Item.record (igFields ord group)) ++
      noIgItems ord (contributionsWithNoIgIdx contributions))

theorem pushIgContributions_appends (ord : HashOrder)
    (group : Int32 × List (PrivateAggregateContribution F)) :
    Appends 1 (pushIgContributions ord group) (some [.record (igFields ord group)]) := by
  have hindex : cborSerializeInt kIgIndex group.1 (.new kNumIgContributionKeys) =
      pure ⟨kNumIgContributionKeys, Fields.entries [(kIgIndex, cborBuildInt group.1)]⟩ :=
    (cborMapAddOr_writes _ kIgIndex (cborBuildInt group.1)).built (Nat.le_succ 1)
  have hevents : cborSerializePAggEventContributions ord group.2
      ⟨kNumIgContributionKeys, Fields.entries [(kIgIndex, cborBuildInt group.1)]⟩ =
        pure ⟨kNumIgContributionKeys, Fields.entries (igFields ord group)⟩ :=
    (cborSerializePAggEventContributions_writes ord group.2).builtAfter _ le_rfl
  have hpush : pushIgContributions ord group =
      Definite.addOrSkip (.record (igFields ord group)) := by
    funext array
    unfold pushIgContributions
    rw [hindex, pure_bind, hevents]
    rfl
  rw [hpush]
  exact Appends.addOrSkip _

theorem pushContributionsWithNoIgIdx_appends (ord : HashOrder)
    (contributions : List (PrivateAggregateContribution F)) :
    Appends (if contributions.isEmpty then 0 else 1)
      (pushContributionsWithNoIgIdx ord contributions) (some (noIgItems ord contributions)) := by
  have hevents : cborSerializePAggEventContributions ord contributions
      (.new kNumIgContributionKeysWithoutIgIdx) =
        pure ⟨kNumIgContributionKeysWithoutIgIdx,
          Fields.entries [(kEventContributions, eventContributionsItem ord contributions)]⟩ :=
    (cborSerializePAggEventContributions_writes ord contributions).built le_rfl
  unfold pushContributionsWithNoIgIdx noIgItems
  cases contributions.isEmpty with
  | true => exact Appends.nothing
  | false =>
    simp only [Bool.false_eq_true, if_false, hevents, Emit.attempt_pure, pure_bind]
    exact Appends.addOr _ _ _

theorem cborSerializeIgContributions_writes (ord : HashOrder)
    (contributions : List (PrivateAggregateContribution F)) :
    Writes 1 (cborSerializeIgContributions ord contributions)
      (some [(kIgContributions, igContributionsItem ord contributions)]) := by
  have hgroups := Appends.eachOne (l := ord.entries (contributionsPerIg contributions))
    fun group _ => pushIgContributions_appends ord group
  have hloop := hgroups.seq
    (pushContributionsWithNoIgIdx_appends ord (contributionsWithNoIgIdx contributions))
  have higs : cborSerializeIgContributions ord contributions =
      cborMapAddOr "Failed to serialize igContributions to CBOR" kIgContributions
        (igContributionsItem ord contributions) := by
    funext root
    have hbuilt := hloop.built le_rfl
    unfold cborSerializeIgContributions igContributionsItem
    simp only [← bind_assoc, hbuilt]
    rfl
  rw [higs]
  exact cborMapAddOr_writes _ _ _

/-! ## Adtechs -/

def contributionsLimit (perAdtechPaapiContributionsLimit : Int32) : ℕ :=
  (perAdtechPaapiContributionsLimit.toInt % 2 ^ 64).toNat

def groupContributionsByAdTech (perAdtechPaapiContributionsLimit : Int32)
    (responses : List (PrivateAggregateReportingResponse F)) :
    FlatHashMap String (List (PrivateAggregateContribution F)) :=
  responses.foldl (fun contributionsMap response =>
    let contributionsList := (contributionsMap.lookup response.adtechOrigin).getD []
    contributionsMap.insert response.adtechOrigin
      (response.contributions.foldl (fun contributionsList contribution =>
        if contributionsList.length < contributionsLimit perAdtechPaapiContributionsLimit then
          contributionsList ++ [contribution]
        else contributionsList) contributionsList)) ∅

def pushAdtechContributions (ord : HashOrder)
    (group : String × List (PrivateAggregateContribution F))
    (allSerializedAdtechContributions : DefiniteArray) : Emit Status DefiniteArray := do
  let some serializedAdtechContributions ←
      (cborSerializeIgContributions ord group.2 (.new kNumPAggResponseKeys)).attempt
    | return allSerializedAdtechContributions
  let serializedAdtechContributions ←
    cborSerializeString kReportingOrigin group.1 serializedAdtechContributions
  Definite.addOrSkip (.map serializedAdtechContributions.entries) allSerializedAdtechContributions

def cborSerializePAggResponse (ord : HashOrder)
    (responses : List (PrivateAggregateReportingResponse F))
    (perAdtechPaapiContributionsLimit : Int32) (root : DefiniteMap) :
    Emit Status DefiniteMap := do
  let groupedContributions :=
    ord.entries (groupContributionsByAdTech perAdtechPaapiContributionsLimit responses)
  let allSerializedAdtechContributions ← groupedContributions.foldlM
    (fun array group => pushAdtechContributions ord group array)
    (.new groupedContributions.length)
  if groupedContributions.isEmpty || allSerializedAdtechContributions.entries.isEmpty then
    Emit.report "No contributions to serialize in paggResponse"
    throw (internalError "")
  cborMapAddOr "Failed to serialize paggResponse to CBOR" kPAggResponse
    (.array allSerializedAdtechContributions.entries) root

def adtechFields (ord : HashOrder) (group : String × List (PrivateAggregateContribution F)) :
    Fields :=
  [(kIgContributions, igContributionsItem ord group.2), (kReportingOrigin, .text group.1)]

def paggResponseItem (ord : HashOrder) (responses : List (PrivateAggregateReportingResponse F))
    (perAdtechPaapiContributionsLimit : Int32) : Item :=
  .array ((ord.entries
    (groupContributionsByAdTech perAdtechPaapiContributionsLimit responses)).map fun group =>
      Item.record (adtechFields ord group))

theorem pushAdtechContributions_appends (ord : HashOrder)
    (group : String × List (PrivateAggregateContribution F)) :
    Appends 1 (pushAdtechContributions ord group) (some [.record (adtechFields ord group)]) := by
  have higs : cborSerializeIgContributions ord group.2 (.new kNumPAggResponseKeys) =
      pure ⟨kNumPAggResponseKeys,
        Fields.entries [(kIgContributions, igContributionsItem ord group.2)]⟩ :=
    (cborSerializeIgContributions_writes ord group.2).built (Nat.le_succ 1)
  have horigin : cborSerializeString kReportingOrigin group.1 ⟨kNumPAggResponseKeys,
      Fields.entries [(kIgContributions, igContributionsItem ord group.2)]⟩ =
        pure ⟨kNumPAggResponseKeys, Fields.entries (adtechFields ord group)⟩ :=
    (cborMapAddOr_writes _ kReportingOrigin (.text group.1)).builtAfter _ le_rfl
  have hpush : pushAdtechContributions ord group =
      Definite.addOrSkip (.record (adtechFields ord group)) := by
    funext array
    unfold pushAdtechContributions
    simp only [higs, Emit.attempt_pure, pure_bind, horigin]
    rfl
  rw [hpush]
  exact Appends.addOrSkip _

def contributionsOf (adtechOrigin : String)
    (responses : List (PrivateAggregateReportingResponse F)) :
    List (PrivateAggregateContribution F) :=
  (responses.filter fun r => r.adtechOrigin = adtechOrigin).flatMap fun r => r.contributions

theorem foldl_pushUnder {α : Type} (limit : ℕ) (done l : List α) :
    l.foldl (fun acc a => if acc.length < limit then acc ++ [a] else acc) (done.take limit) =
      (done ++ l).take limit := by
  induction l generalizing done with
  | nil => rw [List.append_nil, List.foldl_nil]
  | cons a l ih =>
    have hstep : (if (done.take limit).length < limit then done.take limit ++ [a]
        else done.take limit) = (done ++ [a]).take limit := by
      rw [List.length_take, List.take_append]
      by_cases hlt : done.length < limit
      · have hroom : [a].length ≤ limit - done.length := by
          show 1 ≤ limit - done.length
          omega
        rw [if_pos (by omega), List.take_of_length_le hroom]
      · rw [if_neg (by omega), Nat.sub_eq_zero_of_le (by omega), List.take_zero, List.append_nil]
    rw [List.foldl_cons, hstep, ih, List.append_assoc]
    rfl

theorem lookup_groupContributionsByAdTech (limit : Int32)
    (responses : List (PrivateAggregateReportingResponse F)) (adtechOrigin : String) :
    (groupContributionsByAdTech limit responses).lookup adtechOrigin =
      if adtechOrigin ∈ responses.map fun r => r.adtechOrigin then
        some ((contributionsOf adtechOrigin responses).take (contributionsLimit limit))
      else none := by
  induction responses using List.reverseRecOn with
  | nil => rfl
  | append_singleton responses response ih =>
    have hsofar : ((groupContributionsByAdTech limit responses).lookup adtechOrigin).getD [] =
        (contributionsOf adtechOrigin responses).take (contributionsLimit limit) := by
      rw [ih]
      split
      · rfl
      · rename_i hnone
        have hempty : responses.filter (fun r => r.adtechOrigin = adtechOrigin) = [] :=
          List.filter_eq_nil_iff.mpr fun r hr heq =>
            hnone (List.mem_map.mpr ⟨r, hr, of_decide_eq_true heq⟩)
        unfold contributionsOf
        rw [hempty]
        simp
    have hfold : groupContributionsByAdTech limit (responses ++ [response]) =
        (groupContributionsByAdTech limit responses).insert response.adtechOrigin
          (response.contributions.foldl (fun acc c =>
            if acc.length < contributionsLimit limit then acc ++ [c] else acc)
            (((groupContributionsByAdTech limit responses).lookup
              response.adtechOrigin).getD [])) := by
      unfold groupContributionsByAdTech
      rw [List.foldl_append]
      rfl
    rw [hfold]
    by_cases heq : adtechOrigin = response.adtechOrigin
    · subst heq
      rw [AList.lookup_insert, hsofar, foldl_pushUnder]
      simp [contributionsOf]
    · rw [AList.lookup_insert_ne heq, ih]
      simp [contributionsOf, heq, Ne.symm heq]

theorem entries_groupContributionsByAdTech_ne_nil (ord : HashOrder)
    {responses : List (PrivateAggregateReportingResponse F)} (limit : Int32)
    (hne : responses ≠ []) :
    ord.entries (groupContributionsByAdTech limit responses) ≠ [] := by
  obtain ⟨response, hresponse⟩ := List.exists_mem_of_ne_nil responses hne
  have hlookup := lookup_groupContributionsByAdTech limit responses response.adtechOrigin
  rw [if_pos (List.mem_map.mpr ⟨response, hresponse, rfl⟩)] at hlookup
  exact List.ne_nil_of_mem (HashOrder.mem_entries.mpr hlookup)

theorem cborSerializePAggResponse_writes (ord : HashOrder)
    {responses : List (PrivateAggregateReportingResponse F)} (limit : Int32)
    (hne : responses ≠ []) :
    Writes 1 (cborSerializePAggResponse ord responses limit)
      (some [(kPAggResponse, paggResponseItem ord responses limit)]) := by
  have hloop := Appends.eachOne
    (l := ord.entries (groupContributionsByAdTech limit responses))
    fun group _ => pushAdtechContributions_appends ord group
  have hpagg : cborSerializePAggResponse ord responses limit =
      cborMapAddOr "Failed to serialize paggResponse to CBOR" kPAggResponse
        (paggResponseItem ord responses limit) := by
    funext root
    have hgroups := entries_groupContributionsByAdTech_ne_nil ord limit hne
    unfold cborSerializePAggResponse paggResponseItem
    have hfull : (ord.entries (groupContributionsByAdTech limit responses)).isEmpty = false :=
      List.isEmpty_eq_false_iff.mpr hgroups
    simp only [hloop.built le_rfl, pure_bind, List.isEmpty_map, hfull, Bool.or_self,
      Bool.false_eq_true, if_false]
  rw [hpagg]
  exact cborMapAddOr_writes _ _ _

end BiddingAuction

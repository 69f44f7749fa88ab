import BiddingAuction.PrivateAggregation.Serialize

/-!
# Decoding private aggregation contributions

The decoders of `private_aggregation_helper`, and what each reads back from the
item its serializer builds.
-/

namespace BiddingAuction

open Foundation Foundation.Cbor

variable {F : Type}

/-- The keys a contribution is decoded by, in the order of their cases. -/
def kPaggContributionKeys : List String := [kValue, kBucket]
def kPaggEventContributionKeys : List String := [kEvent, kContributions]
def kPaggIgContributionKeys : List String := [kIgIndex, kEventContributions]
def kPaggResponseKeys : List String := [kIgContributions, kReportingOrigin]

/-! ## The decoders -/

def getBucketFromByteString (byteString : Bytes) : Except Status (PrivateAggregationBucket F) :=
  if byteString.length ≠ kBucketSizeInBytes then
    .error (internalError "Byte string size is not exactly 16 bytes.")
  else
    let upper := UInt64.ofNat (ofBigEndian (byteString.take 8))
    let lower := UInt64.ofNat (ofBigEndian (byteString.drop 8))
    .ok (.bucket128Bit [lower, upper])

def decodePrivateAggEvent (eventName : String) : PrivateAggregationEvent :=
  if eventName = "" then { eventType := .unspecified }
  else if eventName = kReservedWinEvent then { eventType := .win }
  else if eventName = kReservedLossEvent then { eventType := .loss }
  else if eventName = kReservedAlwaysEvent then { eventType := .always }
  else { eventType := .custom, eventName }

def cborDecodePAggContribution (serializedPaggContribution : Item) :
    Except Status (PrivateAggregateContribution F) :=
  (cborMapHandle serializedPaggContribution).foldlM (fun paggContribution pair => do
    let key ← checkTypeAndCborDecodeString pair.1
    match findKeyIndex kPaggContributionKeys key with
    | some 0 =>
      if !cborIsInt pair.2 then
        throw (invalidArgumentError ("Error decoding PrivateAggregationValue. int value not " ++
          "found in the cbor encoded string."))
      let value := Int32.ofNat (cborGetInt pair.2)
      return { paggContribution with value := some (.intValue value) }
    | some 1 =>
      if !cborIsaBytestring pair.2 then
        throw (invalidArgumentError ("Error decoding PrivateAggregationBucket. bytestring not " ++
          "found in the cbor encoded string."))
      match getBucketFromByteString (cborDecodeByteString pair.2) with
      | .ok bucket => return { paggContribution with bucket := some bucket }
      | .error _ => throw (invalidArgumentError "Error decoding PrivateAggregationBucket")
    | _ => return paggContribution) {}

def cborDecodePAggContributionList (eventName : String) (igIdx : Option Int32)
    (serializedPaggContributionsList : Item) : List (PrivateAggregateContribution F) :=
  (cborArrayHandle serializedPaggContributionsList).filterMap fun item =>
    (cborDecodePAggContribution item).toOption.map fun contribution =>
      let contribution :=
        if eventName ≠ "" then { contribution with event := decodePrivateAggEvent eventName }
        else contribution
      if igIdx.isSome then { contribution with igIdx } else contribution

/-- One entry of the `eventContributions`: the name read so far goes with the
contributions that follow it. -/
def decodePAggEventEntry (igIdx : Option Int32) (entry : Item) :
    Except Status (String × List (PrivateAggregateContribution F)) :=
  (cborMapHandle entry).foldlM (fun (state : String × List (PrivateAggregateContribution F))
      pair => do
    let key ← checkTypeAndCborDecodeString pair.1
    match findKeyIndex kPaggEventContributionKeys key with
    | some 0 =>
      let eventName ← checkTypeAndCborDecodeString pair.2
      return (eventName, state.2)
    | some 1 =>
      if !cborIsaArray pair.2 then
        throw (invalidArgumentError "Error decoding PrivateAggregationContributions")
      return (state.1, state.2 ++ cborDecodePAggContributionList state.1 igIdx pair.2)
    | _ => return state) ("", [])

def cborDecodePAggEventContributions (igIdx : Option Int32)
    (serializedPaggEventContributions : Item) :
    Except Status (List (PrivateAggregateContribution F)) :=
  (cborArrayHandle serializedPaggEventContributions).foldlM (fun paggContributions entry => do
    let entry ← decodePAggEventEntry igIdx entry
    return paggContributions ++ entry.2) []

/-- One entry of the `igContributions`. The iterators of a `StatusOr` that holds no
list are not there to be had. -/
def decodePAggIgEntry (entry : Item) :
    Except Status (Option Int32 × List (PrivateAggregateContribution F)) :=
  (cborMapHandle entry).foldlM (fun (state : Option Int32 × List (PrivateAggregateContribution F))
      pair => do
    let key ← checkTypeAndCborDecodeString pair.1
    match findKeyIndex kPaggIgContributionKeys key with
    | some 0 =>
      if !cborIsInt pair.2 then
        throw (invalidArgumentError "Error decoding ig_index in igContributions")
      return (some (Int32.ofNat (cborGetInt pair.2)), state.2)
    | some 1 =>
      if !cborIsaArray pair.2 then
        throw (invalidArgumentError "Error decoding eventContributions in igContributions")
      match cborDecodePAggEventContributions (F := F) state.1 pair.2 with
      | .ok contributions => return (state.1, state.2 ++ contributions)
      | .error _ => throw Status.badStatusOrAccess
    | _ => return state) (none, [])

def cborDecodePAggIgContributions (serializedIgContributions : Item) :
    Except Status (List (PrivateAggregateContribution F)) :=
  (cborArrayHandle serializedIgContributions).foldlM (fun paggContributions entry => do
    let entry ← decodePAggIgEntry entry
    return paggContributions ++ entry.2) []

/-- One entry of the `paggResponse`. -/
def decodePAggAdtechEntry (entry : Item) : Except Status (PrivateAggregateReportingResponse F) :=
  (cborMapHandle entry).foldlM (fun paggResponse pair => do
    let key ← checkTypeAndCborDecodeString pair.1
    match findKeyIndex kPaggResponseKeys key with
    | some 0 =>
      if !cborIsaArray pair.2 then
        throw (invalidArgumentError "Error decoding igContributions")
      match cborDecodePAggIgContributions pair.2 with
      | .ok contributions =>
        return { paggResponse with contributions := paggResponse.contributions ++ contributions }
      | .error .badStatusOrAccess => throw .badStatusOrAccess
      | .error _ => return paggResponse
    | some 1 =>
      if !cborIsaString pair.2 then
        throw (invalidArgumentError "Error decoding reportingOrigin in paggResponse")
      return { paggResponse with adtechOrigin := cborDecodeString pair.2 }
    | _ => return paggResponse) {}

def cborDecodePAggResponse (serializedAdtechContributions : Item) :
    Except Status (List (PrivateAggregateReportingResponse F)) :=
  if !cborIsaArray serializedAdtechContributions then
    .error (internalError ("Unexpected cbor found for serialized_adtech_contributions. " ++
      "Expected type is an array"))
  else
    (cborArrayHandle serializedAdtechContributions).mapM decodePAggAdtechEntry

/-! ## What is read back -/

def wordsRead (bits : List UInt64) : List UInt64 := [lowerInt bits, upperInt bits]

/-- The event as it is read back: only a custom one is, and only by its name. -/
def eventRead (contribution : PrivateAggregateContribution F) : PrivateAggregationEvent :=
  if isReserved (getEvent contribution) || getEvent contribution = "" then {}
  else { eventType := .custom, eventName := getEvent contribution }

/-- A contribution as it is read back; `none` for one that is dropped. -/
def contributionRead (contribution : PrivateAggregateContribution F) :
    Option (PrivateAggregateContribution F) :=
  match contribution.bucket, contribution.value with
  | some (.bucket128Bit bits), some (.intValue value) =>
    some { bucket := some (.bucket128Bit (wordsRead bits))
           value := some (.intValue (readBack value))
           event := eventRead contribution
           igIdx := contribution.igIdx.map readBack }
  | _, _ => none

theorem ofBigEndian_word (word : UInt64) :
    UInt64.ofNat (ofBigEndian (toBigEndian 8 word.toNat)) = word := by
  rw [ofBigEndian_toBigEndian word.toNat_lt]
  exact UInt64.ofNat_toNat

theorem getBucketFromByteString_eq (bits : List UInt64) :
    getBucketFromByteString (F := F)
      (toBigEndian 8 (upperInt bits).toNat ++ toBigEndian 8 (lowerInt bits).toNat) =
        .ok (.bucket128Bit (wordsRead bits)) := by
  have hlen : ∀ word : UInt64, (toBigEndian 8 word.toNat).length = 8 :=
    fun word => length_toBigEndian 8 word.toNat
  unfold getBucketFromByteString
  rw [if_neg (by rw [List.length_append, hlen, hlen]; decide)]
  rw [List.take_left' (hlen _), List.drop_left' (hlen _), ofBigEndian_word, ofBigEndian_word]
  rfl

theorem cborDecodePAggContribution_record (bits : List UInt64) (value : Int32) :
    cborDecodePAggContribution (F := F) (.record [(kValue, cborBuildInt value),
      (kBucket, .bytes (toBigEndian 8 (upperInt bits).toNat ++
        toBigEndian 8 (lowerInt bits).toNat))]) =
      .ok { bucket := some (.bucket128Bit (wordsRead bits)),
            value := some (.intValue (readBack value)) } := by
  unfold cborDecodePAggContribution
  rw [foldlM_record]
  have hvalue : findKeyIndex kPaggContributionKeys kValue = some 0 := by decide
  have hbucket : findKeyIndex kPaggContributionKeys kBucket = some 1 := by decide
  simp only [List.foldlM_cons, List.foldlM_nil, checkTypeAndCborDecodeString_text, ok_bind,
    hvalue, hbucket, cborIsInt_cborBuildInt, cborIsaBytestring, Bool.not_true, Bool.false_eq_true,
    if_false, cborDecodeByteString, getBucketFromByteString_eq, pure_eq_ok]
  rfl

theorem decodePrivateAggEvent_custom {eventName : String} (hreserved : isReserved eventName = false)
    (hne : eventName ≠ "") :
    decodePrivateAggEvent eventName = { eventType := .custom, eventName } := by
  have hnot : ∀ name, isReserved name = true → eventName ≠ name := by
    intro name hname heq
    rw [heq, hname] at hreserved
    cases hreserved
  unfold decodePrivateAggEvent
  rw [if_neg hne, if_neg (hnot _ (by decide)), if_neg (hnot _ (by decide)),
    if_neg (hnot _ (by decide))]

/-! ## Reading back each level -/

/-- A contribution read back from a list, with the interest group found before it. -/
def igRead (igIdx : Option Int32) (contribution : PrivateAggregateContribution F) :
    Option (PrivateAggregateContribution F) :=
  (contributionRead contribution).map fun c => { c with igIdx }

def nameRead (eventName : String) : String := if isReserved eventName then "" else eventName

theorem cborDecodePAggContributionList_item (igIdx : Option Int32)
    {group : String × List (PrivateAggregateContribution F)}
    (hgroup : ∀ c ∈ group.2, getEvent c = group.1) :
    cborDecodePAggContributionList (nameRead group.1) igIdx (contributionsItem group.2) =
      group.2.filterMap (igRead igIdx) := by
  unfold cborDecodePAggContributionList contributionsItem
  show ((group.2.filterMap contributionFields).map Item.record).filterMap _ = _
  rw [List.filterMap_map, List.filterMap_filterMap]
  refine List.filterMap_congr fun contribution hc => ?_
  have hevent : (if nameRead group.1 ≠ "" then decodePrivateAggEvent (nameRead group.1) else {}) =
      eventRead contribution := by
    unfold eventRead nameRead
    rw [hgroup contribution hc]
    cases hreserved : isReserved group.1 with
    | true => rfl
    | false =>
      by_cases hempty : group.1 = ""
      · simp [hempty]
      · simp [hempty, decodePrivateAggEvent_custom hreserved hempty]
  unfold igRead contributionFields contributionRead
  rw [← hevent]
  -- only a 128-bit bucket with an integer is sent at all
  cases contribution.bucket with
  | none => rfl
  | some bucket =>
    cases contribution.value with
    | none => cases bucket <;> rfl
    | some value =>
      cases bucket with
      | signalBucket _ => rfl
      | bucket128Bit bits =>
        cases value with
        | extendedValue _ => rfl
        | intValue value =>
          simp only [Option.bind_some, Function.comp_apply, cborDecodePAggContribution_record]
          by_cases hname : nameRead group.1 = "" <;> cases igIdx <;>
            simp [Except.toOption, hname]

theorem decodePAggEventEntry_record (igIdx : Option Int32)
    {group : String × List (PrivateAggregateContribution F)}
    (hgroup : ∀ c ∈ group.2, getEvent c = group.1) :
    decodePAggEventEntry igIdx (.record (eventFields group)) =
      .ok (nameRead group.1, group.2.filterMap (igRead igIdx)) := by
  have hevent : findKeyIndex kPaggEventContributionKeys kEvent = some 0 := by decide
  have hcontributions : findKeyIndex kPaggEventContributionKeys kContributions = some 1 := by decide
  have harray : cborIsaArray (contributionsItem group.2) = true := rfl
  rw [← cborDecodePAggContributionList_item igIdx hgroup]
  unfold decodePAggEventEntry eventFields nameRead
  rw [foldlM_record]
  cases isReserved group.1 <;>
  simp only [List.foldlM_cons, List.foldlM_nil, List.nil_append, List.cons_append, if_true,
    Bool.false_eq_true, if_false, checkTypeAndCborDecodeString_text, ok_bind, hevent,
    hcontributions, harray, Bool.not_true, pure_eq_ok]

theorem foldlM_collect {α β σ : Type} {l : List α} {read : α → Except Status (σ × List β)}
    {out : α → List β} (h : ∀ a ∈ l, ∃ s bs, read a = .ok (s, bs) ∧ bs.Perm (out a))
    (init : List β) :
    ∃ bs, l.foldlM (fun acc a => do
      let entry ← read a
      return acc ++ entry.2) init = .ok (init ++ bs) ∧ bs.Perm (l.flatMap out) := by
  -- the accumulator only grows at its end
  induction l generalizing init with
  | nil => exact ⟨[], by simp, .refl _⟩
  | cons a l ih =>
    obtain ⟨s, bs, hread, hperm⟩ := h a List.mem_cons_self
    obtain ⟨rest, hrest, hpermRest⟩ := ih (fun b hb => h b (List.mem_cons_of_mem a hb)) (init ++ bs)
    refine ⟨bs ++ rest, ?_, ?_⟩
    · rw [List.foldlM_cons, hread]
      show l.foldlM _ (init ++ bs) = _
      rw [hrest, List.append_assoc]
    · rw [List.flatMap_cons]
      exact hperm.append hpermRest

theorem flatMap_filterMap_perm {α β κ : Type} {groups : List (κ × List α)} {l : List α}
    (h : (groups.flatMap Prod.snd).Perm l) (read : α → Option β) :
    (groups.flatMap fun group => group.2.filterMap read).Perm (l.filterMap read) := by
  rw [← List.filterMap_flatMap]
  exact h.filterMap read

theorem getEvent_of_mem_group {ord : HashOrder}
    {contributions : List (PrivateAggregateContribution F)}
    {group : String × List (PrivateAggregateContribution F)}
    (hgroup : group ∈ ord.entries (FlatHashMap.groupBy getEvent id contributions)) :
    ∀ c ∈ group.2, getEvent c = group.1 := by
  intro c hc
  rw [HashOrder.group_of_mem_groupBy hgroup, List.map_id, List.mem_filter] at hc
  exact of_decide_eq_true hc.2

theorem flatMap_eventGroups_perm (ord : HashOrder)
    (contributions : List (PrivateAggregateContribution F)) :
    ((ord.entries (FlatHashMap.groupBy getEvent id contributions)).flatMap Prod.snd).Perm
      contributions := by
  have hperm : ((ord.entries (FlatHashMap.groupBy getEvent id contributions)).flatMap
      Prod.snd).Perm (contributions.map id) := ord.flatMap_groupBy_perm contributions
  rwa [List.map_id] at hperm

theorem cborDecodePAggEventContributions_item (ord : HashOrder) (igIdx : Option Int32)
    (contributions : List (PrivateAggregateContribution F)) :
    ∃ l, cborDecodePAggEventContributions igIdx (eventContributionsItem ord contributions) =
      .ok l ∧ l.Perm (contributions.filterMap (igRead igIdx)) := by
  obtain ⟨l, hl, hperm⟩ := foldlM_collect (fun group hgroup =>
    ⟨_, _, decodePAggEventEntry_record igIdx (getEvent_of_mem_group hgroup), .refl _⟩) []
  refine ⟨l, ?_, hperm.trans
    (flatMap_filterMap_perm (flatMap_eventGroups_perm ord contributions) (igRead igIdx))⟩
  unfold cborDecodePAggEventContributions eventContributionsItem
  show ((ord.entries (FlatHashMap.groupBy getEvent id contributions)).map _).foldlM _ [] = _
  rw [List.foldlM_map]
  exact hl

/-! ## Interest groups and adtechs -/

theorem decodePAggIgEntry_record (ord : HashOrder)
    (group : Int32 × List (PrivateAggregateContribution F)) :
    ∃ l, decodePAggIgEntry (.record (igFields ord group)) = .ok (some (readBack group.1), l) ∧
      l.Perm (group.2.filterMap (igRead (some (readBack group.1)))) := by
  obtain ⟨l, hl, hperm⟩ :=
    cborDecodePAggEventContributions_item ord (some (readBack group.1)) group.2
  have hindex : findKeyIndex kPaggIgContributionKeys kIgIndex = some 0 := by decide
  have hevents : findKeyIndex kPaggIgContributionKeys kEventContributions = some 1 := by decide
  have harray : cborIsaArray (eventContributionsItem ord group.2) = true := rfl
  refine ⟨l, ?_, hperm⟩
  unfold decodePAggIgEntry igFields
  rw [foldlM_record]
  unfold readBack at hl ⊢
  simp only [List.foldlM_cons, List.foldlM_nil, checkTypeAndCborDecodeString_text, ok_bind, hindex,
    hevents, cborIsInt_cborBuildInt, harray, Bool.not_true, Bool.false_eq_true, if_false, hl,
    pure_eq_ok, List.nil_append]

theorem decodePAggIgEntry_noIg (ord : HashOrder)
    (contributions : List (PrivateAggregateContribution F)) :
    ∃ l, decodePAggIgEntry
        (.record [(kEventContributions, eventContributionsItem ord contributions)]) =
          .ok (none, l) ∧
      l.Perm (contributions.filterMap (igRead none)) := by
  obtain ⟨l, hl, hperm⟩ := cborDecodePAggEventContributions_item ord none contributions
  have hevents : findKeyIndex kPaggIgContributionKeys kEventContributions = some 1 := by decide
  have harray : cborIsaArray (eventContributionsItem ord contributions) = true := rfl
  refine ⟨l, ?_, hperm⟩
  unfold decodePAggIgEntry
  rw [foldlM_record]
  simp only [List.foldlM_cons, List.foldlM_nil, checkTypeAndCborDecodeString_text, ok_bind,
    hevents, harray, Bool.not_true, Bool.false_eq_true, if_false, hl, pure_eq_ok, List.nil_append]

theorem igRead_eq {igIdx : Option Int32} {contribution : PrivateAggregateContribution F}
    (h : contribution.igIdx.map readBack = igIdx) :
    igRead igIdx contribution = contributionRead contribution := by
  unfold igRead contributionRead
  rw [← h]
  cases contribution.bucket with
  | none => rfl
  | some bucket =>
    cases contribution.value with
    | none => cases bucket <;> rfl
    | some value => cases bucket <;> cases value <;> rfl

theorem perIg_perm (ord : HashOrder) (contributions : List (PrivateAggregateContribution F)) :
    ((ord.entries (contributionsPerIg contributions)).flatMap Prod.snd ++
      contributionsWithNoIgIdx contributions).Perm contributions := by
  have hgrouped : (contributions.filterMap fun c => c.igIdx.map fun igIdx => (igIdx, c)).map
      Prod.snd = contributions.filter fun c => c.igIdx.isSome := by
    induction contributions with
    | nil => rfl
    | cons c contributions ih => cases hig : c.igIdx <;> simp [hig, ih]
  have hnone : contributionsWithNoIgIdx contributions =
      contributions.filter fun c => !c.igIdx.isSome := by
    refine List.filter_congr fun c _ => ?_
    cases c.igIdx <;> rfl
  rw [hnone]
  refine ((ord.flatMap_groupBy_perm _).append_right _).trans ?_
  rw [hgrouped]
  exact List.filter_append_perm _ _

theorem cborDecodePAggIgContributions_item (ord : HashOrder)
    (contributions : List (PrivateAggregateContribution F)) :
    ∃ l, cborDecodePAggIgContributions (igContributionsItem ord contributions) = .ok l ∧
      l.Perm (contributions.filterMap contributionRead) := by
  -- the index found before a group is the one its contributions have
  have higOf : ∀ group ∈ ord.entries (contributionsPerIg contributions), ∀ c ∈ group.2,
      c.igIdx = some group.1 := by
    intro group hgroup c hc
    rw [HashOrder.group_of_mem_groupBy hgroup] at hc
    obtain ⟨pair, hpair, rfl⟩ := List.mem_map.mp hc
    obtain ⟨hmem, hkey⟩ := List.mem_filter.mp hpair
    obtain ⟨c, _, hc⟩ := List.mem_filterMap.mp hmem
    obtain ⟨igIdx, hig, rfl⟩ := Option.map_eq_some_iff.mp hc
    rw [hig, ← of_decide_eq_true hkey]
  have hgroupsRead : (ord.entries (contributionsPerIg contributions)).flatMap
      (fun group => group.2.filterMap (igRead (some (readBack group.1)))) =
      (ord.entries (contributionsPerIg contributions)).flatMap
        fun group => group.2.filterMap contributionRead := by
    refine List.flatMap_congr fun group hgroup => List.filterMap_congr fun c hc => igRead_eq ?_
    rw [higOf group hgroup c hc]
    rfl
  have hnoneRead : (contributionsWithNoIgIdx contributions).filterMap (igRead none) =
      (contributionsWithNoIgIdx contributions).filterMap contributionRead := by
    refine List.filterMap_congr fun c hc => igRead_eq ?_
    rw [Option.isNone_iff_eq_none.mp (List.mem_filter.mp hc).2]
    rfl
  have hread : ((ord.entries (contributionsPerIg contributions)).flatMap
      (fun group => group.2.filterMap contributionRead) ++
        (contributionsWithNoIgIdx contributions).filterMap contributionRead).Perm
      (contributions.filterMap contributionRead) := by
    rw [← List.filterMap_flatMap, ← List.filterMap_append]
    exact (perIg_perm ord contributions).filterMap contributionRead
  -- the entries of the groups, then the one without an index, if there is one
  obtain ⟨grouped, hgrouped, hpermGrouped⟩ := foldlM_collect (fun group _ =>
    ⟨_, decodePAggIgEntry_record ord group⟩) []
    (l := ord.entries (contributionsPerIg contributions))
  obtain ⟨rest, hrest, hpermRest⟩ :=
    decodePAggIgEntry_noIg ord (contributionsWithNoIgIdx contributions)
  rw [hgroupsRead] at hpermGrouped
  rw [hnoneRead] at hpermRest
  unfold cborDecodePAggIgContributions igContributionsItem noIgItems
  show ∃ l, (_ ++ _ : List Item).foldlM _ [] = _ ∧ _
  rw [List.foldlM_append, List.foldlM_map, hgrouped, ok_bind]
  cases hnone : contributionsWithNoIgIdx contributions with
  | nil =>
    rw [hnone, List.filterMap_nil, List.append_nil] at hread
    exact ⟨grouped, rfl, hpermGrouped.trans hread⟩
  | cons c withNoIgIdx =>
    rw [hnone] at hread hrest hpermRest
    refine ⟨grouped ++ rest, ?_, (hpermGrouped.append hpermRest).trans hread⟩
    show ([_] : List Item).foldlM _ ([] ++ grouped) = _
    rw [List.foldlM_cons, hrest]
    rfl

theorem decodePAggAdtechEntry_record (ord : HashOrder)
    (group : String × List (PrivateAggregateContribution F)) :
    ∃ l, decodePAggAdtechEntry (.record (adtechFields ord group)) =
        .ok { adtechOrigin := group.1, contributions := l } ∧
      l.Perm (group.2.filterMap contributionRead) := by
  obtain ⟨l, hl, hperm⟩ := cborDecodePAggIgContributions_item ord group.2
  have higs : findKeyIndex kPaggResponseKeys kIgContributions = some 0 := by decide
  have horigin : findKeyIndex kPaggResponseKeys kReportingOrigin = some 1 := by decide
  have harray : cborIsaArray (igContributionsItem ord group.2) = true := rfl
  refine ⟨l, ?_, hperm⟩
  unfold decodePAggAdtechEntry adtechFields
  rw [foldlM_record]
  simp only [List.foldlM_cons, List.foldlM_nil, checkTypeAndCborDecodeString_text, ok_bind, higs,
    horigin, harray, Bool.not_true, Bool.false_eq_true, if_false, hl, pure_eq_ok, List.nil_append,
    cborIsaString, cborDecodeString]

theorem cborDecodePAggResponse_item (ord : HashOrder)
    (responses : List (PrivateAggregateReportingResponse F)) (limit : Int32) :
    ∃ decoded, cborDecodePAggResponse (paggResponseItem ord responses limit) = .ok decoded ∧
      List.Forall₂ (fun group response => response.adtechOrigin = group.1 ∧
          response.contributions.Perm (group.2.filterMap contributionRead))
        (ord.entries (groupContributionsByAdTech limit responses)) decoded := by
  unfold cborDecodePAggResponse paggResponseItem
  show ∃ decoded, ((ord.entries (groupContributionsByAdTech limit responses)).map _).mapM _ =
    _ ∧ _
  generalize ord.entries (groupContributionsByAdTech limit responses) = groups
  induction groups with
  | nil => exact ⟨[], rfl, .nil⟩
  | cons group groups ih =>
    obtain ⟨l, hl, hperm⟩ := decodePAggAdtechEntry_record ord group
    obtain ⟨rest, hrest, hall⟩ := ih
    refine ⟨{ adtechOrigin := group.1, contributions := l } :: rest, ?_, .cons ⟨rfl, hperm⟩ hall⟩
    rw [List.map_cons, List.mapM_cons, hl, ok_bind, hrest]
    rfl

end BiddingAuction

/-!
# Private aggregation contributions through the response

Serialized, then decoded: each adtech gets the first of its own contributions back,
in some order. A reserved event is not sent, and the sign of an integer is not read.
-/

namespace BiddingAuction

open Foundation.Cbor

variable {F : Type}

/-- `CborDecodePAggResponse` of what `CborSerializePAggResponse` writes into a map
with room for it. -/
def paggRoundTrip (ord : HashOrder) (responses : List (PrivateAggregateReportingResponse F))
    (limit : Int32) : Except Status (List (PrivateAggregateReportingResponse F)) := do
  let root ← (cborSerializePAggResponse ord responses limit (.new 1)).result
  cborDecodePAggResponse ((root.entries.map Prod.snd).headD (.array []))

/-- The decoded responses hold, adtech by adtech and up to order, what `sent` lists
for it, and are of the same adtechs, each once. -/
structure HoldsPerAdtech (responses decoded : List (PrivateAggregateReportingResponse F))
    (sent : String → List (PrivateAggregateContribution F)) : Prop where
  nodup : (decoded.map fun r => r.adtechOrigin).Nodup
  origins : ∀ adtechOrigin, adtechOrigin ∈ decoded.map (fun r => r.adtechOrigin) ↔
    adtechOrigin ∈ responses.map fun r => r.adtechOrigin
  contributions : ∀ adtechOrigin, (contributionsOf adtechOrigin decoded).Perm (sent adtechOrigin)

/-- The first contributions of an adtech, as many as the limit. -/
def firstContributions (responses : List (PrivateAggregateReportingResponse F)) (limit : Int32)
    (adtechOrigin : String) : List (PrivateAggregateContribution F) :=
  (contributionsOf adtechOrigin responses).take (contributionsLimit limit)

theorem contributionsOf_forall₂ {groups : List (String × List (PrivateAggregateContribution F))}
    {decoded : List (PrivateAggregateReportingResponse F)}
    {read : List (PrivateAggregateContribution F) → List (PrivateAggregateContribution F)}
    (h : List.Forall₂ (fun group response => response.adtechOrigin = group.1 ∧
      response.contributions.Perm (read group.2)) groups decoded) (adtechOrigin : String) :
    (contributionsOf adtechOrigin decoded).Perm
      ((groups.filter fun group => group.1 = adtechOrigin).flatMap fun group => read group.2) := by
  induction h with
  | nil => exact .refl _
  | @cons group response groups decoded hd _ ih =>
    obtain ⟨horigin, hperm⟩ := hd
    unfold contributionsOf at ih ⊢
    by_cases heq : group.1 = adtechOrigin
    · simpa [heq, horigin] using hperm.append ih
    · simpa [heq, horigin] using ih

theorem origins_forall₂ {groups : List (String × List (PrivateAggregateContribution F))}
    {decoded : List (PrivateAggregateReportingResponse F)}
    {read : List (PrivateAggregateContribution F) → List (PrivateAggregateContribution F)}
    (h : List.Forall₂ (fun group response => response.adtechOrigin = group.1 ∧
      response.contributions.Perm (read group.2)) groups decoded) :
    decoded.map (fun r => r.adtechOrigin) = groups.map Prod.fst := by
  induction h with
  | nil => rfl
  | cons hd _ ih => rw [List.map_cons, List.map_cons, hd.1, ih]

theorem filter_key_of_nodup {K V : Type} [DecidableEq K] {entries : List (K × V)}
    (hnodup : (entries.map Prod.fst).Nodup) {k : K} {v : V} (hmem : (k, v) ∈ entries) :
    entries.filter (fun e => e.1 = k) = [(k, v)] := by
  induction entries with
  | nil => cases hmem
  | cons e entries ih =>
    obtain ⟨hnot, hnodup⟩ := List.nodup_cons.mp hnodup
    rcases List.mem_cons.mp hmem with rfl | hmem
    · have hrest : entries.filter (fun e => e.1 = k) = [] :=
        List.filter_eq_nil_iff.mpr fun e he heq =>
          hnot (List.mem_map.mpr ⟨e, he, of_decide_eq_true heq⟩)
      rw [List.filter_cons_of_pos (by simp), hrest]
    · have hne : e.1 ≠ k := fun heq => hnot (heq ▸ List.mem_map_of_mem (f := Prod.fst) hmem)
      rw [List.filter_cons_of_neg (by simpa using hne), ih hnodup hmem]

theorem mem_adtechs_iff (ord : HashOrder) (responses : List (PrivateAggregateReportingResponse F))
    (limit : Int32) (adtechOrigin : String) :
    adtechOrigin ∈ (ord.entries (groupContributionsByAdTech limit responses)).map Prod.fst ↔
      adtechOrigin ∈ responses.map fun r => r.adtechOrigin := by
  have hlookup := lookup_groupContributionsByAdTech limit responses adtechOrigin
  constructor
  · intro hmem
    obtain ⟨group, hgroup, rfl⟩ := List.mem_map.mp hmem
    by_contra hnot
    rw [HashOrder.mem_entries.mp hgroup, if_neg hnot] at hlookup
    cases hlookup
  · intro hmem
    rw [if_pos hmem] at hlookup
    exact List.mem_map.mpr ⟨_, HashOrder.mem_entries.mpr hlookup, rfl⟩

theorem flatMap_adtech {β : Type} (ord : HashOrder)
    (responses : List (PrivateAggregateReportingResponse F)) (limit : Int32)
    (adtechOrigin : String) {read : List (PrivateAggregateContribution F) → List β}
    (hread : read [] = []) :
    (((ord.entries (groupContributionsByAdTech limit responses)).filter fun group =>
      group.1 = adtechOrigin).flatMap fun group => read group.2) =
        read (firstContributions responses limit adtechOrigin) := by
  have hlookup := lookup_groupContributionsByAdTech limit responses adtechOrigin
  by_cases hmem : adtechOrigin ∈ responses.map fun r => r.adtechOrigin
  · rw [if_pos hmem] at hlookup
    rw [filter_key_of_nodup HashOrder.keys_nodup (HashOrder.mem_entries.mpr hlookup)]
    exact List.append_nil _
  · have hnone : (ord.entries (groupContributionsByAdTech limit responses)).filter
        (fun group => group.1 = adtechOrigin) = [] :=
      List.filter_eq_nil_iff.mpr fun group hgroup heq => hmem
        ((mem_adtechs_iff ord responses limit adtechOrigin).mp
          (List.mem_map.mpr ⟨group, hgroup, of_decide_eq_true heq⟩))
    have hempty : contributionsOf adtechOrigin responses = [] := by
      unfold contributionsOf
      rw [List.filter_eq_nil_iff.mpr fun r hr heq =>
        hmem (List.mem_map.mpr ⟨r, hr, of_decide_eq_true heq⟩)]
      rfl
    unfold firstContributions
    rw [hnone, hempty, List.take_nil, hread]
    rfl

theorem paggRoundTrip_holds (ord : HashOrder)
    {responses : List (PrivateAggregateReportingResponse F)} (limit : Int32)
    (hne : responses ≠ []) :
    ∃ decoded, paggRoundTrip ord responses limit = .ok decoded ∧
      HoldsPerAdtech responses decoded fun adtechOrigin =>
        (firstContributions responses limit adtechOrigin).filterMap contributionRead := by
  obtain ⟨decoded, hdecoded, hall⟩ := cborDecodePAggResponse_item ord responses limit
  have hkeys := origins_forall₂ hall
  refine ⟨decoded, ?_, ⟨?_, ?_, ?_⟩⟩
  · have hbuilt := (cborSerializePAggResponse_writes ord limit hne).built
      (show 1 ≤ 1 from le_rfl)
    unfold paggRoundTrip
    rw [hbuilt, Emit.result_pure, ok_bind]
    exact hdecoded
  · rw [hkeys]
    exact HashOrder.keys_nodup
  · rw [hkeys]
    exact mem_adtechs_iff ord responses limit
  · intro adtechOrigin
    refine (contributionsOf_forall₂ hall adtechOrigin).trans (List.Perm.of_eq ?_)
    exact flatMap_adtech ord responses limit adtechOrigin List.filterMap_nil

/-! ## Contributions that come back -/

/-- A resolved contribution: a 128-bit bucket and an integer. -/
def PrivateAggregateContribution.IsResolved (c : PrivateAggregateContribution F) : Prop :=
  ∃ lower upper value, c.bucket = some (.bucket128Bit [lower, upper]) ∧
    c.value = some (.intValue value)

def PrivateAggregateContribution.IsNonneg (c : PrivateAggregateContribution F) : Prop :=
  (∀ value, c.value = some (.intValue value) → 0 ≤ value) ∧ ∀ igIdx ∈ c.igIdx, 0 ≤ igIdx

/-- The event as it is sent: only a custom one is, under a name that is neither empty
nor reserved. -/
def sentEvent (event : PrivateAggregationEvent) : PrivateAggregationEvent :=
  if event.eventType = .custom ∧ event.eventName ≠ "" ∧ isReserved event.eventName = false then
    event
  else {}

def sentContribution (c : PrivateAggregateContribution F) : PrivateAggregateContribution F :=
  { c with event := sentEvent c.event }

theorem eventRead_eq (c : PrivateAggregateContribution F) : eventRead c = sentEvent c.event := by
  obtain ⟨bucket, value, ⟨eventType, eventName⟩, igIdx⟩ := c
  have hwin : isReserved kReservedWinEvent = true := by decide
  have hloss : isReserved kReservedLossEvent = true := by decide
  have halways : isReserved kReservedAlwaysEvent = true := by decide
  cases eventType with
  | custom =>
    unfold eventRead sentEvent getEvent
    by_cases hempty : eventName = "" <;> by_cases hreserved : isReserved eventName = true <;>
      simp [hempty, hreserved]
  | _ => simp [eventRead, sentEvent, getEvent, hwin, hloss, halways]

theorem contributionRead_of_resolved {c : PrivateAggregateContribution F} (hresolved : c.IsResolved)
    (hnonneg : c.IsNonneg) : contributionRead c = some (sentContribution c) := by
  obtain ⟨lower, upper, value, hbucket, hvalue⟩ := hresolved
  obtain ⟨hvalueNonneg, higNonneg⟩ := hnonneg
  have hig : c.igIdx.map readBack = c.igIdx := by
    cases h : c.igIdx with
    | none => rfl
    | some igIdx => rw [Option.map_some, readBack_of_nonneg (higNonneg igIdx h)]
  unfold contributionRead sentContribution
  rw [hbucket, hvalue, eventRead_eq]
  simp only [readBack_of_nonneg (hvalueNonneg value hvalue), hig]
  rfl

/-- Whatever the order the groups are sent in, every adtech gets its first
contributions back, as many as the limit, where they are resolved and no integer in
them is negative. -/
theorem paggResponse_roundTrip (ord : HashOrder)
    {responses : List (PrivateAggregateReportingResponse F)} (limit : Int32)
    (hne : responses ≠ [])
    (hresolved : ∀ response ∈ responses, ∀ c ∈ response.contributions, c.IsResolved)
    (hnonneg : ∀ response ∈ responses, ∀ c ∈ response.contributions, c.IsNonneg) :
    ∃ decoded, paggRoundTrip ord responses limit = .ok decoded ∧
      HoldsPerAdtech responses decoded fun adtechOrigin =>
        (firstContributions responses limit adtechOrigin).map sentContribution := by
  obtain ⟨decoded, hdecoded, hholds⟩ := paggRoundTrip_holds ord limit hne
  refine ⟨decoded, hdecoded, hholds.nodup, hholds.origins, fun adtechOrigin => ?_⟩
  refine (hholds.contributions adtechOrigin).trans (List.Perm.of_eq ?_)
  rw [← List.filterMap_eq_map']
  refine List.filterMap_congr fun c hc => ?_
  obtain ⟨response, hresponse, hmem⟩ := List.mem_flatMap.mp (List.mem_of_mem_take hc)
  have hin := (List.mem_filter.mp hresponse).1
  exact contributionRead_of_resolved (hresolved response hin c hmem) (hnonneg response hin c hmem)

def exampleWinContribution : PrivateAggregateContribution ℚ where
  bucket := some (.bucket128Bit [7, 0])
  value := some (.intValue 3)
  event := { eventType := .win }
  igIdx := some 0

def exampleResponses : List (PrivateAggregateReportingResponse ℚ) :=
  [{ contributions := [exampleWinContribution], adtechOrigin := "https://adtech.example" }]

theorem paggResponse_roundTrip_win : ∃ decoded,
    paggRoundTrip .stored exampleResponses 1 = .ok decoded ∧
      HoldsPerAdtech exampleResponses decoded fun adtechOrigin =>
        (firstContributions exampleResponses 1 adtechOrigin).map sentContribution := by
  refine paggResponse_roundTrip .stored 1 (List.cons_ne_nil _ _) ?_ ?_
  · intro response hresponse c hc
    cases List.mem_singleton.mp hresponse
    cases List.mem_singleton.mp hc
    exact ⟨7, 0, 3, rfl, rfl⟩
  · intro response hresponse c hc
    cases List.mem_singleton.mp hresponse
    cases List.mem_singleton.mp hc
    refine ⟨fun value hvalue => ?_, fun igIdx hig => ?_⟩
    · cases hvalue
      decide
    · cases hig
      decide

/-- Of a win contribution the event does not come back. -/
theorem paggResponse_loses_reserved_event : ¬ ∃ decoded,
    paggRoundTrip .stored exampleResponses 1 = .ok decoded ∧
      HoldsPerAdtech exampleResponses decoded (firstContributions exampleResponses 1) := by
  rintro ⟨decoded, hdecoded, hholds⟩
  obtain ⟨decoded', hdecoded', hholds'⟩ :=
    paggRoundTrip_holds .stored 1 (show exampleResponses ≠ [] from List.cons_ne_nil _ _)
  cases hdecoded.symm.trans hdecoded'
  have hperm := (hholds.contributions "https://adtech.example").symm.trans
    (hholds'.contributions "https://adtech.example")
  have hmem := hperm.mem_iff (a := exampleWinContribution)
  revert hmem
  decide

end BiddingAuction

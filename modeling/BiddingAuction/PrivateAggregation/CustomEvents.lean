import BiddingAuction.PrivateAggregation.GhostInfluence
import BiddingAuction.PrivateAggregation.RoundTrip

/-!
# Custom events

The event of a contribution goes through the winner's handler, which clears it, and
through the serializer, which sends the name of an event that is not reserved. An
event that was cleared has the empty name, which is not reserved.
-/

namespace BiddingAuction

open Foundation.Cbor

variable {F : Type}

/-! ## The events of a serialized response -/

def valueAt (key : String) (item : Item) : Option Item :=
  ((cborMapHandle item).find? fun pair => pair.1 = .text key).map Prod.snd

def entriesAt (key : String) (item : Item) : List Item :=
  cborArrayHandle ((valueAt key item).getD (.array []))

def emittedInEvent (eventContributions : Item) : List (Option Item × Item) :=
  (entriesAt kContributions eventContributions).map fun contribution =>
    (valueAt kEvent eventContributions, contribution)

def emittedInIg (igContributions : Item) : List (Option Item × Item) :=
  (entriesAt kEventContributions igContributions).flatMap emittedInEvent

/-- Each contribution of an adtech in a serialized response, with its event key. -/
def emittedIn (paggResponse : Item) (adtechOrigin : String) : List (Option Item × Item) :=
  ((cborArrayHandle paggResponse).filter fun adtechContributions =>
    valueAt kReportingOrigin adtechContributions = some (.text adtechOrigin)).flatMap
      fun adtechContributions =>
        (entriesAt kIgContributions adtechContributions).flatMap emittedInIg

def eventKey (contribution : PrivateAggregateContribution F) : Option Item :=
  if isReserved (getEvent contribution) then none else some (.text (getEvent contribution))

/-- A contribution that can be serialized, under the event key that `key` gives it. -/
def emitsUnder (key : PrivateAggregateContribution F → Option Item)
    (contribution : PrivateAggregateContribution F) : Option (Option Item × Item) :=
  (contributionFields contribution).map fun fs => (key contribution, .record fs)

theorem emittedInEvent_record {group : String × List (PrivateAggregateContribution F)}
    (h : ∀ contribution ∈ group.2, getEvent contribution = group.1) :
    emittedInEvent (.record (eventFields group)) = group.2.filterMap (emitsUnder eventKey) := by
  have hevent : valueAt kEvent (.record (eventFields group)) =
      if isReserved group.1 then none else some (.text group.1) := by
    unfold eventFields
    cases isReserved group.1 with
    | true => rfl
    | false => rfl
  have hentries : entriesAt kContributions (.record (eventFields group)) =
      (group.2.filterMap contributionFields).map Item.record := by
    unfold entriesAt eventFields
    cases isReserved group.1 with
    | true => rfl
    | false => rfl
  unfold emittedInEvent
  rw [hevent, hentries, List.map_map, List.map_filterMap]
  refine List.filterMap_congr fun contribution hmem => ?_
  unfold emitsUnder eventKey
  rw [h contribution hmem]
  rfl

theorem emittedInEvent_perm (ord : HashOrder)
    (contributions : List (PrivateAggregateContribution F)) :
    ((cborArrayHandle (eventContributionsItem ord contributions)).flatMap emittedInEvent).Perm
      (contributions.filterMap (emitsUnder eventKey)) := by
  show (((ord.entries (FlatHashMap.groupBy getEvent id contributions)).map _).flatMap _).Perm _
  rw [List.flatMap_map, List.flatMap_congr fun group hgroup =>
    emittedInEvent_record (getEvent_of_mem_group hgroup)]
  exact flatMap_filterMap_perm (flatMap_eventGroups_perm ord contributions) _

theorem emittedInIg_perm (ord : HashOrder)
    (contributions : List (PrivateAggregateContribution F)) :
    ((cborArrayHandle (igContributionsItem ord contributions)).flatMap emittedInIg).Perm
      (contributions.filterMap (emitsUnder eventKey)) := by
  have hgroup : ∀ group : Int32 × List (PrivateAggregateContribution F),
      (emittedInIg (.record (igFields ord group))).Perm
        (group.2.filterMap (emitsUnder eventKey)) := fun group =>
    emittedInEvent_perm ord group.2
  have hnone : ((noIgItems ord (contributionsWithNoIgIdx contributions)).flatMap
      emittedInIg).Perm
        ((contributionsWithNoIgIdx contributions).filterMap (emitsUnder eventKey)) := by
    unfold noIgItems
    cases hempty : contributionsWithNoIgIdx contributions with
    | nil => exact .refl _
    | cons c withNoIgIdx =>
      rw [if_neg (by simp), List.flatMap_singleton]
      exact emittedInEvent_perm ord _
  have hall := (perIg_perm ord contributions).filterMap (emitsUnder eventKey)
  rw [List.filterMap_append, List.filterMap_flatMap] at hall
  show ((((ord.entries (contributionsPerIg contributions)).map _) ++ _).flatMap _).Perm _
  rw [List.flatMap_append, List.flatMap_map]
  refine List.Perm.trans ?_ hall
  exact (List.Perm.flatMap_left _ fun group _ => hgroup group).append hnone

theorem emittedIn_perm (ord : HashOrder) (responses : List (PrivateAggregateReportingResponse F))
    (limit : Int32) (adtechOrigin : String) :
    (emittedIn (paggResponseItem ord responses limit) adtechOrigin).Perm
      ((firstContributions responses limit adtechOrigin).filterMap (emitsUnder eventKey)) := by
  have hadtech : ∀ group : String × List (PrivateAggregateContribution F),
      valueAt kReportingOrigin (.record (adtechFields ord group)) = some (.text group.1) :=
    fun _ => rfl
  have higs : ∀ group : String × List (PrivateAggregateContribution F),
      ((entriesAt kIgContributions (.record (adtechFields ord group))).flatMap emittedInIg).Perm
        (group.2.filterMap (emitsUnder eventKey)) := fun group => emittedInIg_perm ord group.2
  show ((((ord.entries (groupContributionsByAdTech limit responses)).map _).filter _).flatMap
    _).Perm _
  rw [List.filter_map, List.flatMap_map]
  refine (List.Perm.flatMap_left _ fun group _ => higs group).trans (List.Perm.of_eq ?_)
  rw [← flatMap_adtech ord responses limit adtechOrigin List.filterMap_nil]
  refine congrArg (List.flatMap _) (List.filter_congr fun group _ => ?_)
  simp [hadtech]

/-! ## The events as they should be sent -/

/-- The event key of a contribution with a custom event; no other has one. -/
def customEventKey (contribution : PrivateAggregateContribution F) : Option Item :=
  if contribution.event.eventType = .custom then some (.text contribution.event.eventName)
  else none

/-- The event is set, and a custom one has no reserved name. -/
def eventIsTold (contribution : PrivateAggregateContribution F) : Bool :=
  contribution.event.eventType ≠ .unspecified &&
    !(contribution.event.eventType = .custom && isReserved contribution.event.eventName)

theorem eventKey_of_told {contribution : PrivateAggregateContribution F}
    (h : eventIsTold contribution = true) :
    eventKey contribution = customEventKey contribution := by
  obtain ⟨bucket, value, ⟨eventType, eventName⟩, igIdx⟩ := contribution
  have hwin : isReserved kReservedWinEvent = true := by decide
  have hloss : isReserved kReservedLossEvent = true := by decide
  have halways : isReserved kReservedAlwaysEvent = true := by decide
  unfold eventIsTold at h
  unfold eventKey customEventKey getEvent
  cases eventType with
  | unspecified => simp at h
  | win => simp [hwin]
  | loss => simp [hloss]
  | always => simp [halways]
  | custom => simpa using h

theorem countP_eq_of_imp {α : Type} {l : List α} {p q : α → Bool}
    (himp : ∀ a ∈ l, p a = true → q a = true) (h : l.countP p = l.countP q) :
    ∀ a ∈ l, q a = true → p a = true := by
  induction l with
  | nil =>
    intro a hmem
    cases hmem
  | cons a l ih =>
    rw [List.forall_mem_cons] at himp ⊢
    have hle := List.countP_mono_left himp.2
    rw [List.countP_cons, List.countP_cons] at h
    cases hp : p a with
    | true =>
      rw [hp, himp.1 hp] at h
      exact ⟨fun _ => rfl, ih himp.2 (by omega)⟩
    | false =>
      cases hq : q a with
      | true =>
        rw [hp, hq] at h
        simp only [Bool.false_eq_true, if_false, if_true] at h
        omega
      | false =>
        rw [hp, hq] at h
        exact ⟨fun hfalse => hfalse, ih himp.2 (by omega)⟩

theorem not_reserved_of_eventKey {contribution : PrivateAggregateContribution F} {name : String}
    (h : eventKey contribution = some (.text name)) : isReserved name = false := by
  unfold eventKey at h
  split at h
  · cases h
  · rename_i hreserved
    cases h
    exact Bool.eq_false_iff.mpr hreserved

theorem eventKey_of_unspecified {contribution : PrivateAggregateContribution F}
    (h : contribution.event.eventType = .unspecified) :
    eventKey contribution = some (.text "") := by
  have hempty : isReserved "" = false := by decide
  unfold eventKey getEvent
  rw [h]
  simp [hempty]

/-- The event keys that are sent are those of the custom events just when every event
is told. -/
theorem emits_perm_iff {contributions : List (PrivateAggregateContribution F)} :
    (contributions.filterMap (emitsUnder eventKey)).Perm
        (contributions.filterMap (emitsUnder customEventKey)) ↔
      ∀ c ∈ contributions, (contributionFields c).isSome = true → eventIsTold c = true := by
  constructor
  · intro hperm
    have hreserved : ∀ c ∈ contributions, (contributionFields c).isSome = true →
        c.event.eventType = .custom → isReserved c.event.eventName = false := by
      intro c hc hfields hcustom
      obtain ⟨fs, hfs⟩ := Option.isSome_iff_exists.mp hfields
      have hsent : (some (.text c.event.eventName), .record fs) ∈
          contributions.filterMap (emitsUnder customEventKey) := by
        refine List.mem_filterMap.mpr ⟨c, hc, ?_⟩
        unfold emitsUnder customEventKey
        rw [hfs, if_pos hcustom]
        rfl
      obtain ⟨c', -, hc'⟩ := List.mem_filterMap.mp (hperm.mem_iff.mpr hsent)
      obtain ⟨fs', -, heq⟩ := Option.map_eq_some_iff.mp hc'
      exact not_reserved_of_eventKey (Prod.mk.inj heq).1
    -- as many are sent without an event key as should be
    have hcount := hperm.countP_eq fun e => e.1.isNone
    rw [List.countP_filterMap, List.countP_filterMap] at hcount
    have hback := countP_eq_of_imp ?_ hcount
    · intro c hc hfields
      obtain ⟨fs, hfs⟩ := Option.isSome_iff_exists.mp hfields
      have hkey := hback c hc
      unfold emitsUnder at hkey
      rw [hfs] at hkey
      unfold eventIsTold
      cases hevent : c.event.eventType with
      | unspecified =>
        rw [eventKey_of_unspecified hevent] at hkey
        simp [customEventKey, hevent] at hkey
      | custom => simp [hreserved c hc hfields hevent]
      | win => rfl
      | loss => rfl
      | always => rfl
    · intro c hc hnone
      cases hfs : contributionFields c with
      | none => simp [emitsUnder, hfs] at hnone
      | some fs =>
        have hfields : (contributionFields c).isSome = true := by rw [hfs]; rfl
        simp only [emitsUnder, hfs, Option.map_some, Option.getD_some] at hnone ⊢
        unfold customEventKey
        by_cases hcustom : c.event.eventType = .custom
        · have hname := hreserved c hc hfields hcustom
          simp [eventKey, getEvent, hcustom, hname] at hnone
        · rw [if_neg hcustom]
          rfl
  · intro htold
    refine List.Perm.of_eq (List.filterMap_congr fun c hc => ?_)
    unfold emitsUnder
    cases hfs : contributionFields c with
    | none => rfl
    | some fs =>
      have hfields : (contributionFields c).isSome = true := by rw [hfs]; rfl
      rw [eventKey_of_told (htold c hc hfields)]

/-! ## The winner's report -/

/-- A contribution resolved, with its event kept if it is custom. -/
def postAuctionKeepingCustom (ops : FloatOps F) (baseValues : BaseValues F)
    (contribution : PrivateAggregateContribution F) : Option (PrivateAggregateContribution F) :=
  (postAuction ops baseValues contribution).map fun resolved =>
    { resolved with
      event := if contribution.event.eventType = .custom then contribution.event else {} }

section Report

variable (ops : FloatOps F) (interestGroupIndexMap : FlatHashMap InterestGroupIdentity ℕ)
  (highScore : AdScore F)

def expectedReport (igOwner : String) (ad : AdWithBid F) :
    List (PrivateAggregateContribution F) :=
  (interestGroupIndexMap.lookup ⟨igOwner, ad.interestGroupName⟩).elim [] fun igIdx =>
    ((ad.privateAggregationContributions.filter (isReported highScore igOwner ad)).filterMap
      (postAuctionKeepingCustom ops (baseValuesFor ops highScore igOwner ad))).map (withIgIdx igIdx)

def clearEvent (contribution : PrivateAggregateContribution F) : PrivateAggregateContribution F :=
  { contribution with event := {} }

theorem handleBid_cleared (igOwner : String) (ad : AdWithBid F) :
    (handleBid ops interestGroupIndexMap highScore igOwner ad).1 =
      (expectedReport ops interestGroupIndexMap highScore igOwner ad).map clearEvent := by
  rw [handleBid_reported]
  unfold expectedReport
  cases interestGroupIndexMap.lookup ⟨igOwner, ad.interestGroupName⟩ with
  | none => rfl
  | some igIdx =>
    show List.map _ _ = List.map clearEvent (List.map _ _)
    rw [List.map_filterMap, List.map_map, List.map_filterMap]
    refine List.filterMap_congr fun c _ => ?_
    unfold postAuctionKeepingCustom
    cases hpost : postAuction ops (baseValuesFor ops highScore igOwner ad) c with
    | none => rfl
    | some resolved =>
      have hevent := postAuction_event hpost
      obtain ⟨bucket, value, event, ig⟩ := resolved
      cases hevent
      rfl

/-- A custom contribution of a bid of the winner is reported. -/
def reportsCustom (igOwner : String) (ad : AdWithBid F) : Bool :=
  isOfWinner highScore igOwner ad &&
    (interestGroupIndexMap.lookup ⟨igOwner, ad.interestGroupName⟩).isSome &&
    ad.privateAggregationContributions.any fun c => c.event.eventType = .custom &&
      (postAuction ops (baseValuesFor ops highScore igOwner ad) c).isSome

def reportsSomething (igOwner : String) (ad : AdWithBid F) : Bool :=
  (interestGroupIndexMap.lookup ⟨igOwner, ad.interestGroupName⟩).isSome &&
    ad.privateAggregationContributions.any fun c => isReported highScore igOwner ad c &&
      (postAuction ops (baseValuesFor ops highScore igOwner ad) c).isSome

variable {ops interestGroupIndexMap highScore}

theorem mem_handleBid_iff {igOwner : String} {ad : AdWithBid F} {resolved} :
    resolved ∈ (handleBid ops interestGroupIndexMap highScore igOwner ad).1 ↔
      ∃ igIdx, interestGroupIndexMap.lookup ⟨igOwner, ad.interestGroupName⟩ = some igIdx ∧
        ∃ c ∈ ad.privateAggregationContributions, isReported highScore igOwner ad c = true ∧
          (postAuction ops (baseValuesFor ops highScore igOwner ad) c).map (withIgIdx igIdx) =
            some resolved := by
  rw [handleBid_reported]
  cases interestGroupIndexMap.lookup ⟨igOwner, ad.interestGroupName⟩ with
  | none => simp
  | some igIdx =>
    simp only [Option.elim_some, List.mem_map, List.mem_filterMap, List.mem_filter,
      Option.some.injEq, exists_eq_left', Option.map_eq_some_iff]
    constructor
    · rintro ⟨r, ⟨c, ⟨hc, hreported⟩, hpost⟩, rfl⟩
      exact ⟨c, hc, hreported, r, hpost, rfl⟩
    · rintro ⟨c, hc, hreported, r, hpost, rfl⟩
      exact ⟨r, ⟨c, ⟨hc, hreported⟩, hpost⟩, rfl⟩

theorem reportsSomething_iff {igOwner : String} {ad : AdWithBid F} :
    reportsSomething ops interestGroupIndexMap highScore igOwner ad = true ↔
      ∃ resolved, resolved ∈ (handleBid ops interestGroupIndexMap highScore igOwner ad).1 := by
  unfold reportsSomething
  simp only [mem_handleBid_iff, Bool.and_eq_true, Option.isSome_iff_exists, List.any_eq_true,
    Option.map_eq_some_iff]
  constructor
  · rintro ⟨⟨igIdx, hidx⟩, c, hc, hreported, r, hpost⟩
    exact ⟨withIgIdx igIdx r, igIdx, hidx, c, hc, hreported, r, hpost, rfl⟩
  · rintro ⟨_, igIdx, hidx, c, hc, hreported, r, hpost, rfl⟩
    exact ⟨⟨igIdx, hidx⟩, c, hc, hreported, r, hpost⟩

theorem handleBid_untold {igOwner : String} {ad : AdWithBid F}
    {resolved : PrivateAggregateContribution F}
    (h : resolved ∈ (handleBid ops interestGroupIndexMap highScore igOwner ad).1) :
    (contributionFields resolved).isSome = true ∧ eventIsTold resolved = false := by
  obtain ⟨igIdx, -, c, -, -, hresolved⟩ := mem_handleBid_iff.mp h
  obtain ⟨r, hpost, rfl⟩ := Option.map_eq_some_iff.mp hresolved
  have hfields := contributionFields_of_postAuction hpost
  refine ⟨hfields, ?_⟩
  unfold eventIsTold withIgIdx
  rw [postAuction_event hpost]
  rfl

theorem mem_expectedReport_iff {igOwner : String} {ad : AdWithBid F} {expected} :
    expected ∈ expectedReport ops interestGroupIndexMap highScore igOwner ad ↔
      ∃ igIdx, interestGroupIndexMap.lookup ⟨igOwner, ad.interestGroupName⟩ = some igIdx ∧
        ∃ c ∈ ad.privateAggregationContributions, isReported highScore igOwner ad c = true ∧
          ∃ resolved, postAuction ops (baseValuesFor ops highScore igOwner ad) c = some resolved ∧
            withIgIdx igIdx { resolved with
              event := if c.event.eventType = .custom then c.event else {} } = expected := by
  unfold expectedReport postAuctionKeepingCustom
  cases interestGroupIndexMap.lookup ⟨igOwner, ad.interestGroupName⟩ with
  | none => simp
  | some igIdx =>
    simp only [Option.elim_some, List.mem_map, List.mem_filterMap, List.mem_filter,
      Option.some.injEq, exists_eq_left', Option.map_eq_some_iff]
    constructor
    · rintro ⟨_, ⟨c, ⟨hc, hreported⟩, r, hpost, rfl⟩, rfl⟩
      exact ⟨c, hc, hreported, r, hpost, rfl⟩
    · rintro ⟨c, hc, hreported, r, hpost, rfl⟩
      exact ⟨_, ⟨c, ⟨hc, hreported⟩, r, hpost, rfl⟩, rfl⟩

theorem expectedReport_cleared_iff {igOwner : String} {ad : AdWithBid F} :
    (∀ c ∈ expectedReport ops interestGroupIndexMap highScore igOwner ad, clearEvent c = c) ↔
      reportsCustom ops interestGroupIndexMap highScore igOwner ad = false := by
  constructor
  · intro hcleared
    rw [Bool.eq_false_iff]
    unfold reportsCustom
    simp only [ne_eq, Bool.and_eq_true, Option.isSome_iff_exists, List.any_eq_true,
      decide_eq_true_eq]
    rintro ⟨⟨hwinner, igIdx, hidx⟩, c, hc, hcustom, resolved, hpost⟩
    have hreported : isReported highScore igOwner ad c = true := by
      unfold isReported isWinEvent
      rw [hwinner]
      simp [hcustom]
    have hsame := hcleared _ (mem_expectedReport_iff.mpr
      ⟨igIdx, hidx, c, hc, hreported, resolved, hpost, rfl⟩)
    have hevent := congrArg (fun c => c.event.eventType) hsame
    simp [clearEvent, withIgIdx, hcustom] at hevent
  · intro hnone expected hexpected
    obtain ⟨igIdx, hidx, c, hc, hreported, resolved, hpost, rfl⟩ :=
      mem_expectedReport_iff.mp hexpected
    by_cases hcustom : c.event.eventType = .custom
    · -- custom events are reported for the winner only
      exfalso
      have hwinner : isOfWinner highScore igOwner ad = true := by
        by_contra hother
        unfold isReported isLossEvent at hreported
        rw [if_neg hother] at hreported
        simp [hcustom] at hreported
      rw [Bool.eq_false_iff] at hnone
      apply hnone
      unfold reportsCustom
      simp only [hwinner, hidx, Option.isSome_some, Bool.and_self, Bool.true_and,
        List.any_eq_true]
      exact ⟨c, hc, by simp [hcustom, hpost]⟩
    · rw [if_neg hcustom]
      rfl

theorem reportingResponse_adtechOrigin {igOwner : String}
    {contributions : List (PrivateAggregateContribution F)}
    {response : PrivateAggregateReportingResponse F}
    (h : reportingResponse igOwner contributions = some response) :
    response.adtechOrigin = igOwner := by
  unfold reportingResponse at h
  split at h
  · cases h
  · cases h
    rfl

theorem contributionsOf_handled (adtechOrigin : String)
    (sharedBuyerBidsMap : BuyerBidsResponseMap F) :
    contributionsOf adtechOrigin (handlePrivateAggregationContributions ops interestGroupIndexMap
        highScore sharedBuyerBidsMap).1.topLevelContributions =
      contributionsOf adtechOrigin highScore.topLevelContributions ++
        (sharedBuyerBidsMap.entries.filter fun buyer => buyer.1 = adtechOrigin).flatMap
          fun buyer => buyer.2.flatMap fun ad =>
            (handleBid ops interestGroupIndexMap highScore buyer.1 ad).1 := by
  unfold handlePrivateAggregationContributions contributionsOf
  rw [List.filter_append, List.flatMap_append]
  congr 1
  rw [← responses_contributions]
  congr 1
  -- a buyer with nothing to report has no response, and adds nothing either way
  induction sharedBuyerBidsMap.entries with
  | nil => rfl
  | cons buyer entries ih =>
    rw [List.filterMap_cons]
    cases hresponse : reportingResponse buyer.1 (buyer.2.flatMap fun ad =>
        (handleBid ops interestGroupIndexMap highScore buyer.1 ad).1) with
    | none =>
      by_cases howner : buyer.1 = adtechOrigin
      · rw [List.filter_cons_of_pos (by simp [howner]), List.filterMap_cons, hresponse]
        exact ih
      · rw [List.filter_cons_of_neg (by simp [howner])]
        exact ih
    | some response =>
      have horigin := reportingResponse_adtechOrigin hresponse
      by_cases howner : buyer.1 = adtechOrigin
      · rw [List.filter_cons_of_pos (a := response) (by simp [horigin, howner]),
          List.filter_cons_of_pos (a := buyer) (by simp [howner]), List.filterMap_cons, hresponse]
        exact congrArg _ ih
      · rw [List.filter_cons_of_neg (a := response) (by simp [horigin, howner]),
          List.filter_cons_of_neg (a := buyer) (by simp [howner])]
        exact ih

/-! ## What becomes of custom events -/

/-- The item of the contributions, serialized into a map with room for it. -/
def serializedPAggResponse (ord : HashOrder)
    (responses : List (PrivateAggregateReportingResponse F)) (limit : Int32) :
    Except Status Item := do
  let root ← (cborSerializePAggResponse ord responses limit (.new 1)).result
  return (root.entries.map Prod.snd).headD (.array [])

theorem serializedPAggResponse_eq (ord : HashOrder)
    {responses : List (PrivateAggregateReportingResponse F)} (limit : Int32)
    (hne : responses ≠ []) :
    serializedPAggResponse ord responses limit = .ok (paggResponseItem ord responses limit) := by
  have hbuilt := (cborSerializePAggResponse_writes ord limit hne).built (show 1 ≤ 1 from le_rfl)
  unfold serializedPAggResponse
  rw [hbuilt]
  rfl

theorem serializedPAggResponse_nil (ord : HashOrder) (limit : Int32) :
    serializedPAggResponse ord ([] : List (PrivateAggregateReportingResponse F)) limit =
      .error (internalError "") := by
  have hgroups : ord.entries (groupContributionsByAdTech limit
      ([] : List (PrivateAggregateReportingResponse F))) = [] :=
    List.perm_nil.mp (ord.perm _)
  unfold serializedPAggResponse cborSerializePAggResponse
  rw [hgroups]
  rfl

theorem emitted_iff (ord : HashOrder) (responses : List (PrivateAggregateReportingResponse F))
    (limit : Int32) :
    (∀ item, serializedPAggResponse ord responses limit = .ok item → ∀ adtechOrigin,
        (emittedIn item adtechOrigin).Perm
          ((firstContributions responses limit adtechOrigin).filterMap
            (emitsUnder customEventKey))) ↔
      ∀ adtechOrigin, ∀ c ∈ firstContributions responses limit adtechOrigin,
        (contributionFields c).isSome = true → eventIsTold c = true := by
  by_cases hne : responses = []
  · subst hne
    constructor
    · intro _ adtechOrigin c hc
      cases List.mem_of_mem_take hc
    · intro _ item hitem
      rw [serializedPAggResponse_nil] at hitem
      cases hitem
  · rw [serializedPAggResponse_eq ord limit hne]
    simp only [Except.ok.injEq, forall_eq']
    refine forall_congr' fun adtechOrigin => ?_
    rw [← emits_perm_iff]
    have hemitted := emittedIn_perm ord responses limit adtechOrigin
    exact ⟨hemitted.symm.trans, hemitted.trans⟩

/-- Of all that is reported, the first of each adtech are told only if they were there
before the handler. -/
theorem handled_told_iff (sharedBuyerBidsMap : BuyerBidsResponseMap F) (limit : Int32) :
    (∀ adtechOrigin, ∀ c ∈ firstContributions (handlePrivateAggregationContributions ops
        interestGroupIndexMap highScore sharedBuyerBidsMap).1.topLevelContributions limit
          adtechOrigin, (contributionFields c).isSome = true → eventIsTold c = true) ↔
      (∀ buyer ∈ sharedBuyerBidsMap.entries, ∀ ad ∈ buyer.2,
        reportsSomething ops interestGroupIndexMap highScore buyer.1 ad = true →
          contributionsLimit limit ≤
            (contributionsOf buyer.1 highScore.topLevelContributions).length) ∧
      ∀ adtechOrigin, ∀ c ∈ firstContributions highScore.topLevelContributions limit adtechOrigin,
        (contributionFields c).isSome = true → eventIsTold c = true := by
  unfold firstContributions
  simp only [contributionsOf_handled, List.take_append, List.mem_append]
  constructor
  · intro htold
    refine ⟨?_, fun adtechOrigin c hc => htold adtechOrigin c (.inl hc)⟩
    intro buyer hbuyer ad had hreports
    by_contra hroom
    obtain ⟨resolved, hresolved⟩ := reportsSomething_iff.mp hreports
    have hmem : resolved ∈ (sharedBuyerBidsMap.entries.filter fun b => b.1 = buyer.1).flatMap
        fun b => b.2.flatMap fun ad =>
          (handleBid ops interestGroupIndexMap highScore b.1 ad).1 :=
      List.mem_flatMap.mpr ⟨buyer, List.mem_filter.mpr ⟨hbuyer, by simp⟩,
        List.mem_flatMap.mpr ⟨ad, had, hresolved⟩⟩
    -- there is room for at least the first of what is reported
    have hfirst : ((sharedBuyerBidsMap.entries.filter fun b => b.1 = buyer.1).flatMap fun b =>
        b.2.flatMap fun ad => (handleBid ops interestGroupIndexMap highScore b.1 ad).1).take
          (contributionsLimit limit -
            (contributionsOf buyer.1 highScore.topLevelContributions).length) ≠ [] := by
      rw [ne_eq, List.take_eq_nil_iff, not_or]
      exact ⟨by omega, List.ne_nil_of_mem hmem⟩
    obtain ⟨c, hc⟩ := List.exists_mem_of_ne_nil _ hfirst
    obtain ⟨buyer', -, hc'⟩ := List.mem_flatMap.mp (List.mem_of_mem_take hc)
    obtain ⟨ad', -, hc'⟩ := List.mem_flatMap.mp hc'
    obtain ⟨hfields, huntold⟩ := handleBid_untold hc'
    rw [htold buyer.1 c (.inr hc) hfields] at huntold
    cases huntold
  · rintro ⟨hfull, htold⟩ adtechOrigin c (hc | hc)
    · exact htold adtechOrigin c hc
    · -- nothing that was reported is among the first
      exfalso
      obtain ⟨buyer, hbuyer, hc'⟩ := List.mem_flatMap.mp (List.mem_of_mem_take hc)
      obtain ⟨hmem, howner⟩ := List.mem_filter.mp hbuyer
      obtain ⟨ad, had, hreported⟩ := List.mem_flatMap.mp hc'
      have hlimit := hfull buyer hmem ad had (reportsSomething_iff.mpr ⟨c, hreported⟩)
      rw [of_decide_eq_true howner] at hlimit
      rw [Nat.sub_eq_zero_of_le hlimit, List.take_zero] at hc
      cases hc

/-- Custom events survive: what is reported for the bids has them, and no other
event, and they are what the serialized response tells. -/
structure CustomEventsSurvive (ops : FloatOps F)
    (interestGroupIndexMap : FlatHashMap InterestGroupIdentity ℕ) (highScore : AdScore F)
    (sharedBuyerBidsMap : BuyerBidsResponseMap F) (ord : HashOrder)
    (limit : Int32) : Prop where
  kept : (handlePrivateAggregationContributions ops interestGroupIndexMap highScore
      sharedBuyerBidsMap).1.topLevelContributions =
    highScore.topLevelContributions ++ sharedBuyerBidsMap.entries.filterMap fun buyer =>
      reportingResponse buyer.1
        (buyer.2.flatMap (expectedReport ops interestGroupIndexMap highScore buyer.1))
  emitted : ∀ item, serializedPAggResponse ord (handlePrivateAggregationContributions ops
      interestGroupIndexMap highScore sharedBuyerBidsMap).1.topLevelContributions limit = .ok item →
    ∀ adtechOrigin, (emittedIn item adtechOrigin).Perm
      ((firstContributions (handlePrivateAggregationContributions ops interestGroupIndexMap
        highScore sharedBuyerBidsMap).1.topLevelContributions limit adtechOrigin).filterMap
          (emitsUnder customEventKey))

theorem kept_iff (sharedBuyerBidsMap : BuyerBidsResponseMap F) :
    ((handlePrivateAggregationContributions ops interestGroupIndexMap highScore
        sharedBuyerBidsMap).1.topLevelContributions =
      highScore.topLevelContributions ++ sharedBuyerBidsMap.entries.filterMap fun buyer =>
        reportingResponse buyer.1
          (buyer.2.flatMap (expectedReport ops interestGroupIndexMap highScore buyer.1))) ↔
      ∀ buyer ∈ sharedBuyerBidsMap.entries, ∀ ad ∈ buyer.2,
        reportsCustom ops interestGroupIndexMap highScore buyer.1 ad = false := by
  have hcleared : ∀ buyer : Sigma fun _ : String => List (AdWithBid F),
      (buyer.2.flatMap fun ad =>
          (handleBid ops interestGroupIndexMap highScore buyer.1 ad).1) =
        (buyer.2.flatMap (expectedReport ops interestGroupIndexMap highScore buyer.1)).map
          clearEvent := by
    intro buyer
    rw [List.map_flatMap]
    exact List.flatMap_congr fun ad _ => handleBid_cleared ops interestGroupIndexMap highScore _ ad
  unfold handlePrivateAggregationContributions
  simp only [List.append_right_inj, hcleared, ← expectedReport_cleared_iff]
  constructor
  · intro hsame buyer hbuyer ad had c hc
    -- both reports joined, and compared contribution by contribution
    have hjoined := congrArg (List.flatMap fun response =>
      PrivateAggregateReportingResponse.contributions response) hsame
    rw [responses_contributions fun buyer => List.map clearEvent (buyer.2.flatMap
        (expectedReport ops interestGroupIndexMap highScore buyer.1)),
      responses_contributions fun buyer => buyer.2.flatMap
        (expectedReport ops interestGroupIndexMap highScore buyer.1), ← List.map_flatMap] at hjoined
    exact List.map_inj_left.mp (hjoined.trans (List.map_id _).symm) c
      (List.mem_flatMap.mpr ⟨buyer, hbuyer, List.mem_flatMap.mpr ⟨ad, had, hc⟩⟩)
  · intro hall
    refine List.filterMap_congr fun buyer hbuyer => congrArg _ ?_
    refine Eq.trans (List.map_congr_left fun c hc => ?_) (List.map_id _)
    obtain ⟨ad, had, hc⟩ := List.mem_flatMap.mp hc
    exact hall buyer hbuyer ad had c hc

/-- **Survival of custom events.** Nothing custom may be reported, nor anything at all
where there is room for it in the response. -/
theorem customEventsSurvive_iff (sharedBuyerBidsMap : BuyerBidsResponseMap F) (ord : HashOrder)
    (limit : Int32) :
    CustomEventsSurvive ops interestGroupIndexMap highScore sharedBuyerBidsMap ord limit ↔
      (∀ buyer ∈ sharedBuyerBidsMap.entries, ∀ ad ∈ buyer.2,
        reportsCustom ops interestGroupIndexMap highScore buyer.1 ad = false) ∧
      (∀ buyer ∈ sharedBuyerBidsMap.entries, ∀ ad ∈ buyer.2,
        reportsSomething ops interestGroupIndexMap highScore buyer.1 ad = true →
          contributionsLimit limit ≤
            (contributionsOf buyer.1 highScore.topLevelContributions).length) ∧
      ∀ adtechOrigin, ∀ c ∈ firstContributions highScore.topLevelContributions limit adtechOrigin,
        (contributionFields c).isSome = true → eventIsTold c = true := by
  rw [← handled_told_iff, ← emitted_iff ord, ← kept_iff]
  exact ⟨fun h => ⟨h.kept, h.emitted⟩, fun h => ⟨h.1, h.2⟩⟩

end Report

/-- A bid of the winner with a contribution for an event of its own. -/
def exampleCustomBid : AdWithBid ℤ :=
  { exampleWinningBid with
    privateAggregationContributions := [
      { bucket := some (.bucket128Bit [1, 0])
        value := some (.intValue 5)
        event := { eventType := .custom, eventName := "click" } }] }

/-- The event of the contribution does not reach the report. -/
theorem customEvent_lost :
    ¬ ∀ (interestGroupIndexMap : FlatHashMap InterestGroupIdentity ℕ) (highScore : AdScore ℤ)
      (sharedBuyerBidsMap : BuyerBidsResponseMap ℤ) (ord : HashOrder) (limit : Int32),
      CustomEventsSurvive wholeNumbers interestGroupIndexMap highScore sharedBuyerBidsMap ord
        limit := by
  intro h
  have hkept := (h (AList.insert ⟨"https://buyer.example", "shoes"⟩ 0 ∅) exampleWinner
    (AList.insert "https://buyer.example" [exampleCustomBid] ∅) .stored 10).kept
  revert hkept
  decide

end BiddingAuction

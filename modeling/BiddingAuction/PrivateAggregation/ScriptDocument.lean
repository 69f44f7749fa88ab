import BiddingAuction.Foundation.FirstFailure
import BiddingAuction.PrivateAggregation.ScriptBoundary
import BiddingAuction.ScoreAds.PrivateAggregation

/-!
# The contributions document of a script

What a script exports is read without a check that it is an object, an array or long enough
everywhere it has to be: the JSON library then ends the process. The documents that are read to
their end are told apart by their shape; in them each contribution is read on its own.
-/

namespace BiddingAuction

open Foundation

/-! ## Reading the document -/

def unlessAsserted {α : Type} : Except ReadError α → Option (Option α)
  | .ok a => some (some a)
  | .error (.invalidArgument _) => some none
  | .error .asserted => none

/-- How `AppendAdEventContributionsToPaggResponse` ends. -/
inductive AppendStatus where
  | ok
  | invalidArgument (message : String)
  | internal (message : String)
deriving DecidableEq, Repr

section Read

variable (ofDouble : ℚ → ℚ) (ops : FloatOps ℚ)

/-- `ProcessAndAppendContributionsToPaggResponse`: what is appended, `none` where the process
ends on an assertion. -/
def processAndAppendContributions (baseValues : BaseValues ℚ) (contributions : List Json) :
    Option (List (PrivateAggregateContribution ℚ)) :=
  (contributions.mapM fun eventObj =>
    unlessAsserted (parseAndProcessContribution ofDouble ops baseValues eventObj)).map
      List.reduceOption

/-- `ProcessAndAppendEventContributionsToPaggResponse`. -/
def processAndAppendEventContributions (eventName : String) (baseValues : BaseValues ℚ)
    (contributions : List Json) : Option (List (PrivateAggregateContribution ℚ)) :=
  (processAndAppendContributions ofDouble ops baseValues contributions).map fun appended =>
    appended.map fun contribution =>
      { contribution with event := { eventType := .custom, eventName := eventName } }

/-- One turn of the loop over the custom events: what is no array is skipped. -/
def appendCustomEvent (baseValues : BaseValues ℚ) (member : String × Json) :
    Option (List (PrivateAggregateContribution ℚ)) :=
  match member.2 with
  | .array eventArray =>
    processAndAppendEventContributions ofDouble ops (cString member.1) baseValues eventArray
  | _ => some []

/-- `AppendAdEventContributionsToPaggResponse`: the status, and what is appended. The object
of the custom events is not checked; an event that is no array is logged and read all the
same. -/
def appendAdEventContributions (eventType : PAggEventType) (baseValues : BaseValues ℚ)
    (contributions : Json) : Option (AppendStatus × List (PrivateAggregateContribution ℚ)) :=
  if eventType = .unspecified then some (.invalidArgument "Event type unspecified.", [])
  else
    match contributions.member? (eventTypeToString eventType) with
    | .error _ => none
    | .ok none => some (.internal ("Unexpected response from Private Aggregation API execution. " ++
        "\"event_type\" field not found for event type: " ++ eventTypeToString eventType), [])
    | .ok (some contributionsObj) =>
      if eventType = .custom then
        match contributionsObj with
        | .object members =>
          (members.mapM (appendCustomEvent ofDouble ops baseValues)).map fun appended =>
            (.ok, appended.flatten)
        -- the loop asks for the members of what has none
        | _ => none
      else
        match contributionsObj with
        | .array events =>
          (processAndAppendContributions ofDouble ops baseValues events).map fun appended =>
            (.ok, appended)
        | _ => none

/-- `HandleContribution`: the status is only logged. -/
def handleScriptContribution (baseValues : BaseValues ℚ) (contributions : Json)
    (eventType : PAggEventType) : Option (List (PrivateAggregateContribution ℚ)) :=
  (appendAdEventContributions ofDouble ops eventType baseValues contributions).map Prod.snd

/-- `HandlePrivateAggregationReporting`. -/
def handleScriptDocument (metadata : PrivateAggregationHandlerMetadata) (contributions : Json) :
    Option (PrivateAggregateReportingResponse ℚ) :=
  (metadata.events.mapM
    (handleScriptContribution ofDouble ops metadata.baseValues contributions)).map fun appended =>
      { contributions := appended.flatten
        adtechOrigin := metadata.sellerOrigin.getD "" }

/-- `ParseAndProcessContribution` for one contribution alone. -/
def contributionAlone (baseValues : BaseValues ℚ) (contribution : Json) :
    Option (PrivateAggregateContribution ℚ) :=
  (parseAndProcessContribution ofDouble ops baseValues contribution).toOption

end Read

/-! ## Shapes -/

namespace Json

def isUint64 (j : Json) : Bool := (j.int? 0 (2 ^ 64 - 1)).isSome

def areWords : List Json → Bool
  | low :: high :: _ => low.isUint64 && high.isUint64
  | _ => false

/-- An offset of a bucket: an object, with two words if the rest is right. -/
def isOffset : Json → Bool
  | .object members =>
    match (Json.object members).findMember "value",
      (Json.object members).findMember "is_negative" with
    | some (.array words), some (.bool _) => areWords words
    | _, _ => true
  | _ => false

/-- A signal bucket: an object, with no offset or one that can be read. -/
def isSignalBucket : Json → Bool
  | .object members =>
    match (Json.object members).findMember "offset" with
    | some offset => offset.isOffset
    | none => true
  | _ => false

/-- A bucket: an object; words that are all numbers of 64 bits. -/
def isBucket : Json → Bool
  | .object members =>
    match (Json.object members).findMember "signal_bucket",
      (Json.object members).findMember "bucket_128_bit" with
    | some signalBucket, _ => signalBucket.isSignalBucket
    | none, some (.object inner) =>
      match (Json.object inner).findMember "bucket_128_bits" with
      | some (.array bits) => bits.all isUint64
      | _ => true
    | none, _ => true
  | _ => false

def isInt64 (j : Json) : Bool := (j.int? (-2 ^ 63) (2 ^ 63 - 1)).isSome

/-- There is an `int_value` of 64 bits. -/
def hasIntValue (value : Json) : Bool := ((value.findMember "int_value").map isInt64).getD false

/-- A value: an object; an extended value that is read is one too. -/
def isValue (value : Json) : Bool :=
  value.isObject &&
    (value.hasIntValue || ((value.findMember "extended_value").map isObject).getD true)

end Json

def baseValueIsAvailable (baseValues : BaseValues ℚ) : BaseValue → Bool
  | .winningBid => true
  | .highestScoringOtherBid => true
  | .bidRejectionReason => baseValues.rejectReason.isSome
  | _ => false

def isAcceptedExtendedValue (baseValues : BaseValues ℚ) (extendedValue : Json) : Bool :=
  match extendedValue.findMember "base_value", extendedValue.findMember "offset",
    extendedValue.findMember "scale" with
  | some (.string baseValue), some offset, some scale =>
    baseValue != "" && (offset.int? (-2 ^ 31) (2 ^ 31 - 1)).isSome && scale.number?.isSome &&
      baseValueIsAvailable baseValues (toBaseValue baseValue)
  | _, _, _ => false

def isAcceptedValue (baseValues : BaseValues ℚ) (value : Json) : Bool :=
  value.hasIntValue ||
    ((value.findMember "extended_value").map (isAcceptedExtendedValue baseValues)).getD false

/-- A contribution that is read to its end, well formed or not. -/
def isContribution (baseValues : BaseValues ℚ) (contribution : Json) : Bool :=
  contribution.isObject &&
    ((contribution.findMember "value").map fun value => value.isValue &&
      (!isAcceptedValue baseValues value ||
        ((contribution.findMember "bucket").map Json.isBucket).getD true)).getD true

/-- The contributions of an event: an array, or an object of the custom events, where what is
no array is skipped. -/
def isEvent (baseValues : BaseValues ℚ) (eventType : PAggEventType) (events : Json) : Bool :=
  match eventType, events with
  | .custom, .object members =>
    members.all fun member => member.2.elements.all (isContribution baseValues)
  | .custom, _ => false
  | _, .array events => events.all (isContribution baseValues)
  | _, _ => false

def isScriptDocument (metadata : PrivateAggregationHandlerMetadata) (contributions : Json) :
    Bool :=
  contributions.isObject && metadata.events.all fun eventType =>
    ((contributions.findMember (eventTypeToString eventType)).map
      (isEvent metadata.baseValues eventType)).getD true

/-! ## Assertions -/

theorem orReturn_eq_asserted {α : Type} {message : String} {x : Except ReadError α} :
    orReturn message x = .error .asserted ↔ x = .error .asserted := by
  unfold orReturn
  split <;> simp

theorem orReturn_eq_ok {α : Type} {message : String} {x : Except ReadError α} {a : α} :
    orReturn message x = .ok a ↔ x = .ok a := by
  unfold orReturn
  split <;> simp

theorem mapError_ne_asserted {α : Type} (x : Except String α) :
    x.mapError ReadError.invalidArgument ≠ .error .asserted := by
  cases x <;> simp [Except.mapError]

namespace Json

theorem getMember_eq_asserted {α : Type} {read : Json → Option α} {expected : ℕ} {j : Json}
    {name : String} :
    j.getMember read expected name = .error .asserted ↔ j.isObject = false := by
  unfold getMember
  rw [except_bind_eq_error, member?_eq]
  cases j.isObject with
  | false => simp
  | true =>
    simp only [if_true, reduceCtorEq, Except.ok.injEq, false_or, Bool.true_eq_false, iff_false]
    rintro ⟨value, -, h⟩
    cases value with
    | none => cases h
    | some value =>
      dsimp only at h
      cases hread : read value <;> rw [hread] at h <;> cases h

theorem getMember_eq_ok {α : Type} {read : Json → Option α} {expected : ℕ} {j : Json}
    {name : String} {a : α} (hobject : j.isObject = true) :
    j.getMember read expected name = .ok a ↔ (j.findMember name).bind read = some a := by
  unfold getMember
  rw [member?_eq, if_pos hobject]
  cases j.findMember name with
  | none => simp [throw, throwThe, MonadExceptOf.throw]
  | some value =>
    cases hread : read value <;>
      simp [hread, throw, throwThe, MonadExceptOf.throw, pure, Except.pure]

theorem getStringMember_eq_asserted {j : Json} {name : String} :
    j.getStringMember name = .error .asserted ↔ j.isObject = false := by
  unfold getStringMember
  rw [except_bind_eq_error, getMember_eq_asserted]
  refine or_iff_left ?_
  rintro ⟨result, -, h⟩
  split at h <;> cases h

theorem getStringMember_eq_ok {j : Json} {name s : String} (hobject : j.isObject = true) :
    j.getStringMember name = .ok s ↔ j.findMember name = some (.string s) ∧ s ≠ "" := by
  unfold getStringMember
  rw [except_bind_eq_ok]
  simp only [getMember_eq_ok hobject]
  cases j.findMember name with
  | none => simp
  | some value =>
    cases value with
    | string result =>
      by_cases hempty : result = ""
      · subst hempty
        simp only [Option.bind_some, string?, Option.some.injEq, exists_eq_left', if_true,
          string.injEq]
        exact iff_of_false (fun h => nomatch h) fun h => h.2 h.1.symm
      · simp only [Option.bind_some, string?, Option.some.injEq, exists_eq_left', if_neg hempty,
          string.injEq]
        exact ⟨fun h => by cases h; exact ⟨rfl, hempty⟩, fun h => congrArg Except.ok h.1⟩
    | _ => simp [string?]

theorem getUint64_eq_asserted {j : Json} : j.getUint64 = .error .asserted ↔ j.isUint64 = false := by
  unfold getUint64 isUint64
  cases j.int? 0 (2 ^ 64 - 1) <;> simp

theorem getUint64_of_isUint64 {j : Json} (h : j.isUint64 = true) :
    ∃ n, j.getUint64 = .ok n := by
  obtain ⟨n, hn⟩ := Option.isSome_iff_exists.mp h
  exact ⟨UInt64.ofNat n.toNat, by rw [getUint64, hn]⟩

end Json

theorem readWords_eq_asserted {words : List Json} {isNegative : Bool} :
    (match words with
      | low :: high :: _ => do
        return (⟨[← low.getUint64, ← high.getUint64], isNegative⟩ : BucketOffset)
      | _ => throw ReadError.asserted) = .error .asserted ↔ Json.areWords words = false := by
  match words with
  | [] => exact iff_of_true rfl rfl
  | [_] => exact iff_of_true rfl rfl
  | low :: high :: rest =>
    simp only [except_bind_eq_error, Json.getUint64_eq_asserted, Json.areWords,
      Bool.and_eq_false_iff]
    refine or_congr_right' fun hlow => ?_
    obtain ⟨n, hn⟩ := Json.getUint64_of_isUint64 (Bool.not_eq_false _ ▸ hlow)
    simp [hn, pure, Except.pure]

theorem parseBucketOffset_eq_asserted {j : Json} :
    parseBucketOffset j = .error .asserted ↔ j.isOffset = false := by
  unfold parseBucketOffset
  rw [except_bind_eq_error, Json.getArrayMember, Json.getMember_eq_asserted]
  cases j with
  | object members =>
    have hobject : (Json.object members).isObject = true := rfl
    simp only [Json.getMember_eq_ok hobject, except_bind_eq_error, Json.getBoolMember,
      Json.getMember_eq_asserted, hobject, Bool.true_eq_false, false_or, Json.isOffset]
    cases (Json.object members).findMember "value" with
    | none => simp
    | some value =>
      cases value with
      | array words =>
        cases (Json.object members).findMember "is_negative" with
        | none => simp
        | some isNegative =>
          cases isNegative with
          | bool isNegative =>
            simp only [Json.bool?, Option.bind_some, Option.some.injEq, exists_eq_left']
            exact readWords_eq_asserted
          | _ => simp [Json.bool?]
      | _ => simp
  | _ => exact iff_of_true (.inl rfl) rfl

section Parsers

variable (ofDouble : ℚ → ℚ)

theorem parseSignalBucket_eq_asserted {j : Json} :
    parseSignalBucket ofDouble j = .error .asserted ↔ j.isSignalBucket = false := by
  cases j with
  | object members =>
    have hobject : (Json.object members).isObject = true := rfl
    unfold parseSignalBucket
    rw [Json.member?_eq, if_pos hobject]
    simp only [Json.isSignalBucket]
    cases (Json.object members).findMember "offset" with
    | none => exact iff_of_false (fun h => nomatch h) (by simp)
    | some offset =>
      show (parseBucketOffset offset >>= _) = _ ↔ _
      simp only [except_bind_eq_error, parseBucketOffset_eq_asserted,
        Json.getStringMember_eq_asserted, Json.getDoubleMember, Json.getMember_eq_asserted, hobject]
      simp [pure, Except.pure]
  | _ => exact iff_of_true rfl rfl

theorem parseSignalValue_eq_asserted {j : Json} :
    parseSignalValue ofDouble j = .error .asserted ↔ j.isObject = false := by
  unfold parseSignalValue
  rw [except_bind_eq_error, Json.getStringMember_eq_asserted]
  refine or_iff_left_of_imp ?_
  rintro ⟨baseValue, -, h⟩
  rw [except_bind_eq_error, Json.getIntMember, Json.getMember_eq_asserted] at h
  refine h.elim id ?_
  rintro ⟨offset, -, h⟩
  rw [except_bind_eq_error, Json.getDoubleMember, Json.getMember_eq_asserted] at h
  exact h.elim id fun ⟨_, _, h⟩ => nomatch h

variable (ops : FloatOps ℚ) (baseValues : BaseValues ℚ)

theorem exists_extendedValue_iff {j : Json} (hobject : j.isObject = true) :
    (∃ signalValue, parseSignalValue ofDouble j = .ok signalValue ∧
        baseValueIsAvailable baseValues signalValue.baseValue = true) ↔
      isAcceptedExtendedValue baseValues j = true := by
  unfold parseSignalValue isAcceptedExtendedValue
  simp only [except_bind_eq_ok, Json.getStringMember_eq_ok hobject, Json.getIntMember,
    Json.getDoubleMember, Json.getMember_eq_ok hobject, Option.bind_eq_some_iff]
  constructor
  · rintro ⟨signalValue, ⟨baseValue, ⟨hbase, hne⟩, n, ⟨offset, hoffset, hint⟩, q,
      ⟨scale, hscale, hnumber⟩, hvalue⟩, havailable⟩
    cases hvalue
    rw [hbase, hoffset, hscale]
    dsimp only
    rw [hint, hnumber]
    simp [hne, havailable]
  · intro h
    split at h
    · rename_i baseValue offset scale hbase hoffset hscale
      simp only [Bool.and_eq_true, bne_iff_ne, ne_eq, Option.isSome_iff_exists] at h
      obtain ⟨⟨⟨hne, n, hint⟩, q, hnumber⟩, havailable⟩ := h
      exact ⟨_, ⟨baseValue, ⟨hbase, hne⟩, n, ⟨offset, hoffset, hint⟩, q,
        ⟨scale, hscale, hnumber⟩, rfl⟩, havailable⟩
    · cases h

theorem baseValueNumber_isOk {N : Type} (ofFloat : ℚ → N) (ofReason : Int32 → N)
    {baseValue : BaseValue} :
    (∃ n, baseValueNumber baseValues ofFloat ofReason baseValue = .ok n) ↔
      baseValueIsAvailable baseValues baseValue = true := by
  cases baseValue with
  | bidRejectionReason =>
    simp only [baseValueNumber, baseValueIsAvailable]
    cases baseValues.rejectReason <;> simp
  | _ => simp [baseValueNumber, baseValueIsAvailable]

theorem hasIntValue_eq (value : Json) : value.hasIntValue =
    ((value.findMember "int_value").bind (Json.int? (-2 ^ 63) (2 ^ 63 - 1))).isSome := by
  unfold Json.hasIntValue Json.isInt64
  cases value.findMember "int_value" <;> rfl

/-- What the code goes through where there is no `int_value`. -/
theorem parseContributionValue_eq {value : Json} (hobject : value.isObject = true) :
    parseContributionValue ofDouble ops baseValues value =
      match (value.findMember "int_value").bind (Json.int? (-2 ^ 63) (2 ^ 63 - 1)) with
      | some intValue => .ok (Int32.ofInt intValue)
      | none =>
        match value.findMember "extended_value" with
        | none => .error (.invalidArgument kInvalidPrivateAggregationValueType)
        | some extendedValue =>
          orReturn kInvalidPrivateAggregationValueType
            (parseSignalValue ofDouble extendedValue) >>= fun signalValue =>
              (getPrivateAggregationValuePostAuction ops baseValues
                (some (.extendedValue signalValue))).mapError .invalidArgument := by
  unfold parseContributionValue
  rw [Json.member?_eq, Json.member?_eq, if_pos hobject, if_pos hobject]
  show (match (value.findMember "int_value").bind (Json.int? (-2 ^ 63) (2 ^ 63 - 1)) with
    | some _ => _
    | none => _) = _
  cases (value.findMember "int_value").bind (Json.int? (-2 ^ 63) (2 ^ 63 - 1)) with
  | some intValue => rfl
  | none =>
    show (match value.findMember "extended_value" with
      | none => _
      | some _ => _) = _
    cases value.findMember "extended_value" <;> rfl

theorem parseContributionValue_eq_asserted {value : Json} :
    parseContributionValue ofDouble ops baseValues value = .error .asserted ↔
      value.isValue = false := by
  cases hobject : value.isObject with
  | false =>
    refine iff_of_true ?_ (by simp [Json.isValue, hobject])
    unfold parseContributionValue
    rw [except_bind_eq_error, Json.member?_eq, hobject]
    exact .inl rfl
  | true =>
    rw [parseContributionValue_eq ofDouble ops baseValues hobject, Json.isValue, hobject,
      hasIntValue_eq, Bool.true_and]
    cases (value.findMember "int_value").bind (Json.int? (-2 ^ 63) (2 ^ 63 - 1)) with
    | some intValue => simp
    | none =>
      cases value.findMember "extended_value" with
      | none => simp
      | some extendedValue =>
        simp [except_bind_eq_error, orReturn_eq_asserted, parseSignalValue_eq_asserted,
          mapError_ne_asserted]

theorem valuePostAuction_isOk {signalValue : SignalValue ℚ} :
    (∃ n, (getPrivateAggregationValuePostAuction ops baseValues
        (some (.extendedValue signalValue))).mapError ReadError.invalidArgument = .ok n) ↔
      baseValueIsAvailable baseValues signalValue.baseValue = true := by
  rw [← baseValueNumber_isOk baseValues ops.toInt id]
  simp only [getPrivateAggregationValuePostAuction]
  cases baseValueNumber baseValues ops.toInt id signalValue.baseValue with
  | error e => exact iff_of_false (fun ⟨_, h⟩ => nomatch h) (fun ⟨_, h⟩ => nomatch h)
  | ok n => exact iff_of_true ⟨_, rfl⟩ ⟨_, rfl⟩

theorem exists_value_iff {value : Json} (hvalue : value.isValue = true) :
    (∃ n, parseContributionValue ofDouble ops baseValues value = .ok n) ↔
      isAcceptedValue baseValues value = true := by
  rw [Json.isValue, Bool.and_eq_true, hasIntValue_eq] at hvalue
  rw [parseContributionValue_eq ofDouble ops baseValues hvalue.1, isAcceptedValue, hasIntValue_eq]
  cases hint : (value.findMember "int_value").bind (Json.int? (-2 ^ 63) (2 ^ 63 - 1)) with
  | some intValue => simp
  | none =>
    rw [hint] at hvalue
    cases hextended : value.findMember "extended_value" with
    | none => simp
    | some extendedValue =>
      rw [hextended] at hvalue
      have hobject : extendedValue.isObject = true := by simpa using hvalue.2
      simp only [except_bind_eq_ok, orReturn_eq_ok, Option.isSome_none, Bool.false_or,
        Option.map_some, Option.getD_some]
      rw [← exists_extendedValue_iff ofDouble baseValues hobject, exists_comm]
      refine exists_congr fun signalValue => ?_
      rw [exists_and_left]
      exact and_congr_right fun _ => valuePostAuction_isOk ops baseValues

omit ofDouble ops baseValues in
theorem mapM_getUint64_eq_asserted {bits : List Json} :
    bits.mapM Json.getUint64 = .error .asserted ↔ bits.all Json.isUint64 = false := by
  induction bits with
  | nil => exact iff_of_false (fun h => nomatch h) (by simp)
  | cons bit bits ih =>
    rw [List.mapM_cons, except_bind_eq_error, Json.getUint64_eq_asserted, List.all_cons,
      Bool.and_eq_false_iff]
    refine or_congr_right' fun hbit => ?_
    obtain ⟨n, hn⟩ := Json.getUint64_of_isUint64 (Bool.not_eq_false _ ▸ hbit)
    simp only [hn, Except.ok.injEq, exists_eq_left', except_bind_eq_error, ih]
    simp [pure, Except.pure]

theorem parseContributionBucket_eq_asserted {bucket : Json} :
    parseContributionBucket ofDouble bucket = .error .asserted ↔ bucket.isBucket = false := by
  cases bucket with
  | object members =>
    have hobject : (Json.object members).isObject = true := rfl
    unfold parseContributionBucket Json.isBucket
    rw [Json.member?_eq, Json.member?_eq, if_pos hobject, if_pos hobject]
    simp only [except_bind_eq_error, reduceCtorEq, Except.ok.injEq, exists_eq_left', false_or]
    cases (Json.object members).findMember "signal_bucket" with
    | some signalBucket =>
      simp only [except_bind_eq_error, orReturn_eq_asserted, parseSignalBucket_eq_asserted]
      simp [pure, Except.pure]
    | none =>
      cases (Json.object members).findMember "bucket_128_bit" with
      | none => exact iff_of_false (fun h => nomatch h) (by simp)
      | some bucket128Bit =>
        cases bucket128Bit with
        | object inner =>
          have hinner : (Json.object inner).isObject = true := rfl
          simp only [except_bind_eq_error, orReturn_eq_asserted, orReturn_eq_ok,
            Json.getArrayMember, Json.getMember_eq_asserted, Json.getMember_eq_ok hinner, hinner,
            mapM_getUint64_eq_asserted]
          cases (Json.object inner).findMember "bucket_128_bits" with
          | none => simp
          | some bits => cases bits <;> simp [pure, Except.pure]
        | _ => exact iff_of_false (fun h => nomatch h) (by simp)
  | _ => exact iff_of_true rfl rfl

theorem parseAndProcessContribution_eq_asserted (contribution : Json) :
    parseAndProcessContribution ofDouble ops baseValues contribution = .error .asserted ↔
      isContribution baseValues contribution = false := by
  unfold parseAndProcessContribution isContribution
  rw [Json.member?_eq, Json.member?_eq]
  cases hobject : contribution.isObject with
  | false => exact iff_of_true rfl rfl
  | true =>
    simp only [if_true, except_bind_eq_error, reduceCtorEq, Except.ok.injEq, exists_eq_left',
      false_or, Bool.true_and]
    cases contribution.findMember "value" with
    | none => exact iff_of_false (fun h => nomatch h) (by simp)
    | some value =>
      simp only [except_bind_eq_error, parseContributionValue_eq_asserted, Option.map_some,
        Option.getD_some, Bool.and_eq_false_iff]
      refine or_congr_right' fun hvalue => ?_
      have hvalue : value.isValue = true := by simpa using hvalue
      rw [Bool.or_eq_false_iff, Bool.not_eq_false',
        ← exists_value_iff ofDouble ops baseValues hvalue, ← exists_and_right]
      refine exists_congr fun n => and_congr_right fun _ => ?_
      cases contribution.findMember "bucket" with
      | none => simp [pure, Except.pure]
      | some bucket =>
        simp only [reduceCtorEq, Except.ok.injEq, exists_eq_left', false_or, except_bind_eq_error,
          parseContributionBucket_eq_asserted, mapError_ne_asserted]
        simp [pure, Except.pure]

theorem unlessAsserted_parseAndProcessContribution (contribution : Json) :
    unlessAsserted (parseAndProcessContribution ofDouble ops baseValues contribution) =
      if isContribution baseValues contribution = true then
        some (contributionAlone ofDouble ops baseValues contribution)
      else none := by
  have hasserted := parseAndProcessContribution_eq_asserted ofDouble ops baseValues
    contribution
  rw [contributionAlone]
  cases hread : parseAndProcessContribution ofDouble ops baseValues contribution with
  | ok parsed =>
    rw [if_pos]
    · rfl
    · rw [hread] at hasserted
      exact Bool.of_not_eq_false fun h => nomatch hasserted.mpr h
  | error e =>
    cases e with
    | asserted => rw [if_neg (ne_true_of_eq_false (hasserted.mp hread))]; rfl
    | invalidArgument message =>
      rw [if_pos]
      · rfl
      · rw [hread] at hasserted
        exact Bool.of_not_eq_false fun h => nomatch hasserted.mpr h

end Parsers

/-! ## The document -/

theorem mapM_ite {α β : Type} {f : α → Option β} {safe : α → Bool} {g : α → β} {l : List α}
    (hf : ∀ a ∈ l, f a = if safe a = true then some (g a) else none) :
    l.mapM f = if l.all safe = true then some (l.map g) else none := by
  induction l with
  | nil => rfl
  | cons a l ih =>
    rw [List.forall_mem_cons] at hf
    rw [List.mapM_cons, ih hf.2, hf.1]
    cases ha : safe a <;> cases hl : l.all safe <;> simp [ha, hl]

section Document

variable (ofDouble : ℚ → ℚ) (ops : FloatOps ℚ) (baseValues : BaseValues ℚ)

theorem processAndAppendContributions_eq (contributions : List Json) :
    processAndAppendContributions ofDouble ops baseValues contributions =
      if contributions.all (isContribution baseValues) = true then
        some (contributions.filterMap (contributionAlone ofDouble ops baseValues))
      else none := by
  unfold processAndAppendContributions
  rw [mapM_ite fun contribution _ =>
    unlessAsserted_parseAndProcessContribution ofDouble ops baseValues contribution]
  split
  · exact congrArg some List.filterMap_map
  · rfl

theorem appendCustomEvent_eq (member : String × Json) :
    appendCustomEvent ofDouble ops baseValues member =
      if member.2.elements.all (isContribution baseValues) = true then
        some ((member.2.elements.filterMap (contributionAlone ofDouble ops baseValues)).map
          fun contribution =>
            { contribution with
              event := { eventType := .custom, eventName := cString member.1 } })
      else none := by
  obtain ⟨name, value⟩ := member
  cases value with
  | array events =>
    show (processAndAppendContributions ofDouble ops baseValues events).map _ = _
    rw [processAndAppendContributions_eq, apply_ite (Option.map _)]
    rfl
  | _ => rfl

theorem mapM_appendCustomEvent (members : List (String × Json)) :
    ((members.mapM (appendCustomEvent ofDouble ops baseValues)).map fun appended =>
        (AppendStatus.ok, appended.flatten)).map Prod.snd =
      if isEvent baseValues .custom (.object members) = true then
        some (members.flatMap fun member =>
          (member.2.elements.filterMap (contributionAlone ofDouble ops baseValues)).map
            fun contribution => { contribution with
              event := { eventType := .custom, eventName := cString member.1 } })
      else none := by
  rw [mapM_ite fun member _ => appendCustomEvent_eq ofDouble ops baseValues member, isEvent]
  split
  · rw [Option.map_some, Option.map_some, List.flatMap_def]
  · rfl

theorem handleScriptContribution_eq {eventType : PAggEventType}
    (hevent : eventType ≠ .unspecified) {contributions : Json}
    (hobject : contributions.isObject = true) :
    handleScriptContribution ofDouble ops baseValues contributions eventType =
      if ((contributions.findMember (eventTypeToString eventType)).map
          (isEvent baseValues eventType)).getD true = true then
        some (handleContribution (contributionAlone ofDouble ops) eventType baseValues
          contributions)
      else none := by
  unfold handleScriptContribution appendAdEventContributions handleContribution
  rw [if_neg hevent, Json.member?_eq, if_pos hobject]
  cases contributions.findMember (eventTypeToString eventType) with
  | none => cases eventType <;> trivial
  | some events =>
    rw [Option.map_some, Option.getD_some]
    cases eventType with
    | unspecified => exact absurd rfl hevent
    | custom =>
      cases events with
      | object members => exact mapM_appendCustomEvent ofDouble ops baseValues members
      | _ => rfl
    | _ =>
      cases events with
      | array events =>
        dsimp only
        rw [if_neg (by decide), processAndAppendContributions_eq, isEvent]
        · split <;> rfl
        · simp
      | _ => rfl

end Document

theorem PrivateAggregationHandlerMetadata.ne_unspecified
    {metadata : PrivateAggregationHandlerMetadata} {eventType : PAggEventType}
    (h : eventType ∈ metadata.events) : eventType ≠ .unspecified := by
  rintro rfl
  unfold PrivateAggregationHandlerMetadata.events at h
  split at h <;> simp at h

section Whole

variable (ofDouble : ℚ → ℚ) (ops : FloatOps ℚ) (metadata : PrivateAggregationHandlerMetadata)

theorem handleScriptDocument_eq (contributions : Json) :
    handleScriptDocument ofDouble ops metadata contributions =
      if isScriptDocument metadata contributions = true then
        some (handlePrivateAggregationReporting (contributionAlone ofDouble ops) metadata
          contributions)
      else none := by
  unfold handleScriptDocument isScriptDocument
  cases hobject : contributions.isObject with
  | false =>
    have hend (eventType : PAggEventType) (hevent : eventType ∈ metadata.events) :
        handleScriptContribution ofDouble ops metadata.baseValues contributions eventType =
          none := by
      unfold handleScriptContribution appendAdEventContributions
      rw [if_neg (metadata.ne_unspecified hevent), Json.member?_eq, hobject]
      rfl
    obtain ⟨first, rest, hevents⟩ : ∃ first rest, metadata.events = first :: rest := by
      unfold PrivateAggregationHandlerMetadata.events
      split <;> exact ⟨_, _, rfl⟩
    rw [hevents, List.mapM_cons, hend first (hevents ▸ List.mem_cons_self)]
    rfl
  | true =>
    rw [mapM_ite fun eventType hevent => handleScriptContribution_eq ofDouble ops
      metadata.baseValues (metadata.ne_unspecified hevent) hobject, Bool.true_and]
    split
    · rw [Option.map_some, handlePrivateAggregationReporting, List.flatMap_def]
    · rfl

end Whole

end BiddingAuction

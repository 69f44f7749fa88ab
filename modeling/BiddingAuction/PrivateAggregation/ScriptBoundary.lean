import BiddingAuction.PrivateAggregation.ScriptContribution

/-!
# What survives the script boundary

The script writes the high word of a bigint first, the code reads the low word first; a
number goes over as its low 32 bits. So a number arrives if it fits into 32 bits, and a
bigint if its two words are the same and printed as they are.
-/

namespace BiddingAuction

open Foundation

/-! ## Words in print -/

theorem printedNumber_ofNat (n : ℕ) : printedNumber n = .number (Number.print n : ℕ) := by
  unfold printedNumber
  rcases Nat.eq_zero_or_pos n with rfl | hpos
  · rfl
  · rw [Int.sign_eq_one_of_pos (by exact_mod_cast hpos), Int.one_mul, Int.natAbs_natCast]
    rfl

theorem numberOfBigint_ofNat (n : ℕ) : numberOfBigint n = (Number.ofNat n : ℕ) := by
  unfold numberOfBigint
  rcases Nat.eq_zero_or_pos n with rfl | hpos
  · rfl
  · rw [Int.sign_eq_one_of_pos (by exact_mod_cast hpos), Int.one_mul, Int.natAbs_natCast]

theorem printedNumber_word (n : ℕ) :
    printedNumber (numberOfBigint n) = .number (Number.printed n : ℕ) := by
  rw [numberOfBigint_ofNat, printedNumber_ofNat]
  rfl

theorem int?_intCast (lower upper n : ℤ) :
    (Json.number (n : ℤ)).int? lower upper =
      if lower ≤ n ∧ n ≤ upper then some n else none := by
  show (if ((n : ℤ) : ℚ).den = 1 ∧ lower ≤ ((n : ℤ) : ℚ).num ∧ ((n : ℤ) : ℚ).num ≤ upper
    then some ((n : ℤ) : ℚ).num else none) = _
  simp only [Rat.den_intCast, Rat.num_intCast, true_and]

theorem getUint64_ofNat (n : ℕ) :
    (Json.number (n : ℕ)).getUint64 =
      if n < 2 ^ 64 then .ok (UInt64.ofNat n) else .error .asserted := by
  have hint : (Json.number (n : ℕ)).int? 0 (2 ^ 64 - 1) =
      if (0 : ℤ) ≤ n ∧ (n : ℤ) ≤ 2 ^ 64 - 1 then some (n : ℤ) else none :=
    int?_intCast 0 (2 ^ 64 - 1) n
  unfold Json.getUint64
  rw [hint]
  by_cases h : n < 2 ^ 64
  · rw [if_pos h, if_pos (by omega)]
    rfl
  · rw [if_neg h, if_neg (by omega)]

theorem convertTo128BitArray_number (n : ℕ) :
    convertTo128BitArray (.number n) = [((n % 2 ^ 32 : ℕ) : ℤ), 0] := by
  show [((Number.shiftRightZeroFill n 64 : ℕ) : ℤ), _] = _
  rw [Number.shiftRightZeroFill_64, Number.and_ones]

theorem convertTo128BitArray_bigint (n : ℕ) :
    convertTo128BitArray (.bigint n) =
      [numberOfBigint (n / 2 ^ 64 : ℕ), numberOfBigint (n % 2 ^ 64 : ℕ)] := by
  unfold convertTo128BitArray
  push_cast
  rfl

theorem getUint64_printedNumber {n : ℕ} (hn : n < 2 ^ 53) :
    (printedNumber n).getUint64 = .ok (UInt64.ofNat n) := by
  rw [printedNumber_ofNat, Number.print_of_lt hn, getUint64_ofNat, if_pos (by omega)]

theorem mapM_getUint64_number (n : ℕ) :
    ((convertTo128BitArray (.number n)).map printedNumber).mapM Json.getUint64 =
      .ok [UInt64.ofNat (n % 2 ^ 32), 0] := by
  have hlow := getUint64_printedNumber (n := n % 2 ^ 32) (by omega)
  have hhigh := getUint64_printedNumber (n := 0) (by omega)
  rw [convertTo128BitArray_number, List.map_cons, List.map_cons, List.map_nil, List.mapM_cons,
    List.mapM_cons, List.mapM_nil, hlow]
  show (do let high ← (printedNumber (0 : ℕ)).getUint64; _) = _
  rw [hhigh]
  rfl

theorem mapM_getUint64_bigint (n : ℕ) :
    ((convertTo128BitArray (.bigint n)).map printedNumber).mapM Json.getUint64 =
      if Number.printed (n / 2 ^ 64) < 2 ^ 64 ∧ Number.printed (n % 2 ^ 64) < 2 ^ 64 then
        .ok [UInt64.ofNat (Number.printed (n / 2 ^ 64)), UInt64.ofNat (Number.printed (n % 2 ^ 64))]
      else .error .asserted := by
  rw [convertTo128BitArray_bigint, List.map_cons, List.map_cons, List.map_nil, printedNumber_word,
    printedNumber_word, List.mapM_cons, List.mapM_cons, List.mapM_nil, getUint64_ofNat,
    getUint64_ofNat]
  by_cases hhigh : Number.printed (n / 2 ^ 64) < 2 ^ 64
  · by_cases hlow : Number.printed (n % 2 ^ 64) < 2 ^ 64
    · simp only [hhigh, hlow, and_self, if_true]
      rfl
    · simp only [hhigh, hlow, and_false, if_true, if_false]
      rfl
  · simp only [hhigh, false_and, if_false]
    rfl

/-! ## Reading a contribution -/

section Read

variable {F : Type} (ofDouble : ℚ → F) (ops : FloatOps F) (baseValues : BaseValues F)

theorem parseContributionBucket_bucket128Bits (words : List ℤ) :
    parseContributionBucket ofDouble (ContributionBucket.bucket128Bits words).printed =
      ((words.map printedNumber).mapM Json.getUint64).map .bucket128Bit := by
  show ((words.map printedNumber).mapM Json.getUint64 >>= fun bits =>
    Except.ok (PrivateAggregationBucket.bucket128Bit bits)) = _
  cases (words.map printedNumber).mapM Json.getUint64 <;> rfl

/-- A whole value of at most 53 bits is read, and kept as an `int`. -/
theorem parseContributionValue_intValue {v : ℕ} (hv : v < 2 ^ 53) :
    parseContributionValue ofDouble ops baseValues (ContributionValue.intValue v).printed =
      .ok (Int32.ofInt v) := by
  have hprinted : printedNumber (v : ℤ) = .number ((v : ℤ) : ℚ) := by
    rw [printedNumber_ofNat, Number.print_of_lt hv]
    rfl
  have hint : (printedNumber (v : ℤ)).int? (-2 ^ 63) (2 ^ 63 - 1) = some (v : ℤ) := by
    rw [hprinted, int?_intCast, if_pos (by omega)]
  have hmember : (ContributionValue.intValue v).printed.member? "int_value" =
      .ok (some (printedNumber v)) := rfl
  unfold parseContributionValue
  rw [hmember]
  simp only [bind, Except.bind, Option.bind_some, hint]
  rfl

theorem parseAndProcessContribution_intValue {v : ℕ} (hv : v < 2 ^ 53)
    (bucket : ContributionBucket) :
    parseAndProcessContribution ofDouble ops baseValues
        (ScriptContribution.printed ⟨bucket, .intValue v⟩) =
      (do let bucket ← parseContributionBucket ofDouble bucket.printed
          let final ← (getPrivateAggregationBucketPostAuction ops baseValues
            (some bucket)).mapError .invalidArgument
          return { value := some (.intValue (Int32.ofInt v)),
                   bucket := some (.bucket128Bit final) }) := by
  show (parseContributionValue ofDouble ops baseValues (ContributionValue.intValue v).printed >>=
    fun intValue => _) = _
  rw [parseContributionValue_intValue ofDouble ops baseValues hv]
  rfl

theorem parseAndProcessContribution_bucket128Bits {v : ℕ} (hv : v < 2 ^ 53) (words : List ℤ) :
    parseAndProcessContribution ofDouble ops baseValues
        (ScriptContribution.printed ⟨.bucket128Bits words, .intValue v⟩) =
      ((words.map printedNumber).mapM Json.getUint64).map fun bits =>
        { value := some (.intValue (Int32.ofInt v)), bucket := some (.bucket128Bit bits) } := by
  rw [parseAndProcessContribution_intValue ofDouble ops baseValues hv,
    parseContributionBucket_bucket128Bits]
  cases (words.map printedNumber).mapM Json.getUint64 <;> rfl

end Read

/-! ## What arrives -/

def ScriptInt.IsBucket : ScriptInt → Prop
  | .number n => 0 ≤ n ∧ n ≤ 2 ^ 53 - 1
  | .bigint n => 0 ≤ n ∧ n < 2 ^ 128

def ScriptInt.IsOffset : ScriptInt → Prop
  | .number n => |n| ≤ 2 ^ 53 - 1
  | .bigint n => |n| < 2 ^ 128

/-- A number of 32 bits, or a bigint of twice the same word, whose digits are all printed. -/
def ScriptInt.BucketKept : ScriptInt → Prop
  | .number n => n < 2 ^ 32
  | .bigint n => n / 2 ^ 64 = n % 2 ^ 64 ∧ (Number.printed (n % 2 ^ 64).toNat : ℤ) = n % 2 ^ 64

def ScriptInt.OffsetKept : ScriptInt → Prop
  | .number n => |n| < 2 ^ 32
  | .bigint n => n = 0

instance : DecidablePred ScriptInt.IsBucket
  | .number _ => inferInstanceAs (Decidable (_ ∧ _))
  | .bigint _ => inferInstanceAs (Decidable (_ ∧ _))

instance : DecidablePred ScriptInt.IsOffset
  | .number _ => inferInstanceAs (Decidable (_ ≤ _))
  | .bigint _ => inferInstanceAs (Decidable (_ < _))

instance : DecidablePred ScriptInt.BucketKept
  | .number _ => inferInstanceAs (Decidable (_ < _))
  | .bigint _ => inferInstanceAs (Decidable (_ ∧ _))

instance : DecidablePred ScriptInt.OffsetKept
  | .number _ => inferInstanceAs (Decidable (_ < _))
  | .bigint n => inferInstanceAs (Decidable (n = 0))

def BucketOffset.toInt (offset : BucketOffset) : ℤ :=
  if offset.isNegative then -offset.magnitude else offset.magnitude

section Survives

variable {F : Type} (ofDouble : ℚ → F) (ops : FloatOps F) (baseValues : BaseValues F)

/-- The number a base value, its scale and an offset come to, in 128 bits. -/
def offsetBucket (baseValue : BaseValue) (scale : F) (offset : ℤ) :
    Except String (List UInt64) := do
  let baseValue ← baseValueNumber baseValues id ops.ofInt baseValue
  let finalValue := (ops.mulToUInt64 baseValue scale).toNat + offset
  if finalValue < 0 then throw kPrivateAggregationBucketNegativeFinalValue
  else return uint128Words (finalValue.toNat % 2 ^ 128)

/-- The contribution made of a bucket and a whole value has this very bucket. -/
def BucketSurvives (bucket : ScriptInt) : Prop :=
  ∀ v : ℕ, v < 2 ^ 32 → ∃ contribution result,
    createContribution (.int bucket) (.number v) = .ok contribution ∧
    parseAndProcessContribution ofDouble ops baseValues contribution.printed = .ok result ∧
    result.bucket = some (.bucket128Bit (uint128Words bucket.toInt.toNat))

/-- Of a signal bucket the very offset is read, and counted in. -/
def OffsetSurvives (offset : ScriptInt) : Prop :=
  ∀ (baseValue enum : String) (scale : Option ℚ) (v : ℕ),
    convertBaseValueToEnumString baseValue = .ok enum → v < 2 ^ 32 →
    ∃ contribution signalBucket,
      createContribution (.object baseValue scale (some offset)) (.number v) = .ok contribution ∧
      parseContributionBucket ofDouble contribution.bucket.printed =
        .ok (.signalBucket signalBucket) ∧
      signalBucket.offset.toInt = offset.toInt ∧
      (parseAndProcessContribution ofDouble ops baseValues contribution.printed).map
          PrivateAggregateContribution.bucket =
        ((offsetBucket ops baseValues (toBaseValue enum) (ofDouble (scaleOrDefault scale))
          offset.toInt).mapError .invalidArgument).map fun bits => some (.bucket128Bit bits)

/-- A whole value that arrives is the very value of the script. -/
def ValueSurvives (v : ℕ) : Prop :=
  ∀ bucket contribution result, createContribution bucket (.number v) = .ok contribution →
    parseAndProcessContribution ofDouble ops baseValues contribution.printed = .ok result →
    ∃ x, result.value = some (.intValue x) ∧ x.toInt = v

theorem bucketSurvives_iff_words (bucket : ScriptInt) :
    BucketSurvives ofDouble ops baseValues bucket ↔
      ((convertTo128BitArray bucket).map printedNumber).mapM Json.getUint64 =
        .ok (uint128Words bucket.toInt.toNat) := by
  constructor
  · intro h
    obtain ⟨contribution, result, hcreate, hparse, hbucket⟩ := h 0 (by omega)
    cases hcreate
    rw [parseAndProcessContribution_bucket128Bits ofDouble ops baseValues (v := 0) (by omega)]
      at hparse
    cases hwords : ((convertTo128BitArray bucket).map printedNumber).mapM Json.getUint64 with
    | error e =>
      rw [hwords] at hparse
      cases hparse
    | ok bits =>
      rw [hwords] at hparse
      cases hparse
      cases hbucket
      rfl
  · intro hwords v hv
    refine ⟨⟨.bucket128Bits (convertTo128BitArray bucket), .intValue v⟩,
      { value := some (.intValue (Int32.ofInt v)), bucket := some (.bucket128Bit _) },
      rfl, ?_, rfl⟩
    rw [parseAndProcessContribution_bucket128Bits ofDouble ops baseValues (by omega), hwords]
    rfl

theorem uint64_ofNat_inj {m n : ℕ} (hm : m < 2 ^ 64) (hn : n < 2 ^ 64) :
    UInt64.ofNat m = UInt64.ofNat n ↔ m = n := by
  constructor
  · intro h
    have := congrArg UInt64.toNat h
    rwa [UInt64.toNat_ofNat_of_lt' hm, UInt64.toNat_ofNat_of_lt' hn] at this
  · intro h
    rw [h]

theorem uint128Words_eq (n : ℕ) :
    uint128Words n = [UInt64.ofNat (n % 2 ^ 64), UInt64.ofNat (n / 2 ^ 64)] := by
  unfold uint128Words
  rw [UInt64.ofNat_mod_size]

theorem bucketSurvives_number {n : ℕ} (hn : n < 2 ^ 53) :
    BucketSurvives ofDouble ops baseValues (.number n) ↔ n < 2 ^ 32 := by
  rw [bucketSurvives_iff_words, mapM_getUint64_number]
  show _ = Except.ok (uint128Words n) ↔ _
  rw [uint128Words_eq, Nat.div_eq_of_lt (by omega), Nat.mod_eq_of_lt (b := 2 ^ 64) (by omega)]
  constructor
  · intro h
    injection h with h
    injection h with hlow
    rw [uint64_ofNat_inj (by omega) (by omega)] at hlow
    omega
  · intro h
    rw [Nat.mod_eq_of_lt h]
    rfl

theorem bucketSurvives_bigint {n : ℕ} (hn : n < 2 ^ 128) :
    BucketSurvives ofDouble ops baseValues (.bigint n) ↔
      n / 2 ^ 64 = n % 2 ^ 64 ∧ Number.printed (n % 2 ^ 64) = n % 2 ^ 64 := by
  rw [bucketSurvives_iff_words, mapM_getUint64_bigint]
  show _ = Except.ok (uint128Words n) ↔ _
  rw [uint128Words_eq]
  have hlow : n % 2 ^ 64 < 2 ^ 64 := Nat.mod_lt n (by omega)
  have hhigh : n / 2 ^ 64 < 2 ^ 64 := by omega
  constructor
  · intro h
    split at h
    · rename_i hprinted
      injection h with h
      injection h with hfirst h
      injection h with hsecond
      rw [uint64_ofNat_inj hprinted.1 hlow] at hfirst
      rw [uint64_ofNat_inj hprinted.2 hhigh] at hsecond
      -- the high word is the low word printed, and that is printed as it is
      have hagain : Number.printed (n % 2 ^ 64) = n % 2 ^ 64 := by
        rw [← hfirst, Number.printed_printed]
      exact ⟨hsecond.symm.trans hagain, hagain⟩
    · cases h
  · rintro ⟨hsame, hprinted⟩
    rw [hsame, hprinted, if_pos ⟨hlow, hlow⟩]

theorem bucketSurvives_iff {bucket : ScriptInt} (hbucket : bucket.IsBucket) :
    BucketSurvives ofDouble ops baseValues bucket ↔ bucket.BucketKept := by
  cases bucket with
  | number n =>
    obtain ⟨hpos, hlt⟩ := hbucket
    lift n to ℕ using hpos
    rw [bucketSurvives_number ofDouble ops baseValues (by omega)]
    simp only [ScriptInt.BucketKept]
    omega
  | bigint n =>
    obtain ⟨hpos, hlt⟩ := hbucket
    lift n to ℕ using hpos
    rw [bucketSurvives_bigint ofDouble ops baseValues (by omega)]
    have hdiv : (n : ℤ) / 2 ^ 64 = (n / 2 ^ 64 : ℕ) := by omega
    have hmod : (n : ℤ) % 2 ^ 64 = (n % 2 ^ 64 : ℕ) := by omega
    simp only [ScriptInt.BucketKept]
    rw [hdiv, hmod, Int.toNat_natCast, Int.natCast_inj, Int.natCast_inj]

/-! ## Offsets -/

theorem convertBaseValueToEnumString_ne_empty {baseValue enum : String}
    (h : convertBaseValueToEnumString baseValue = .ok enum) : enum ≠ "" := by
  rintro rfl
  unfold convertBaseValueToEnumString at h
  split at h <;> simp at h

theorem parseBucketOffset_number (n : ℤ) :
    parseBucketOffset (.object
        [("value", .array ((convertTo128BitArray (.number |n|)).map printedNumber)),
          ("is_negative", .bool (n < 0))]) =
      .ok ⟨[UInt64.ofNat (n.natAbs % 2 ^ 32), 0], n < 0⟩ := by
  have hlow := getUint64_printedNumber (n := n.natAbs % 2 ^ 32) (by omega)
  have hhigh := getUint64_printedNumber (n := 0) (by omega)
  rw [Int.abs_eq_natAbs, convertTo128BitArray_number]
  show (do let low ← (printedNumber ((n.natAbs % 2 ^ 32 : ℕ) : ℤ)).getUint64
           let high ← (printedNumber (0 : ℕ)).getUint64
           pure (BucketOffset.mk [low, high] (n < 0))) = _
  rw [hlow, hhigh]
  rfl

theorem parseContributionBucket_signalBucket {enum : String} (henum : enum ≠ "") (scale : ℚ)
    (offset : ScriptBucketOffset) :
    parseContributionBucket ofDouble (ContributionBucket.signalBucket enum scale offset).printed =
      (orReturn kInvalidPrivateAggregationBucketType (parseBucketOffset (.object
        [("value", .array (offset.value.map printedNumber)),
          ("is_negative", .bool offset.isNegative)]))).map fun offset =>
        .signalBucket ⟨toBaseValue enum, ofDouble scale, offset⟩ := by
  have hstring : (ContributionBucket.signalBucket enum scale offset).printed = .object
      [("signal_bucket", .object [("base_value", .string enum), ("scale", .number scale),
        ("offset", .object [("value", .array (offset.value.map printedNumber)),
          ("is_negative", .bool offset.isNegative)])])] := rfl
  rw [hstring]
  show (orReturn _ (parseSignalBucket ofDouble (.object [("base_value", .string enum),
    ("scale", .number scale), ("offset", _)])) >>= fun bucket =>
      Except.ok (PrivateAggregationBucket.signalBucket bucket)) = _
  have hsignal : ∀ printedOffset : Json, parseSignalBucket ofDouble (.object
      [("base_value", .string enum), ("scale", .number scale), ("offset", printedOffset)]) =
        (parseBucketOffset printedOffset).map fun offset =>
          ⟨toBaseValue enum, ofDouble scale, offset⟩ := by
    intro printedOffset
    show (parseBucketOffset printedOffset >>= fun offset =>
      (if enum = "" then _ else Except.ok enum) >>= fun _ => _) = _
    rw [if_neg henum]
    cases parseBucketOffset printedOffset <;> rfl
  rw [hsignal]
  cases parseBucketOffset (.object [("value", .array (offset.value.map printedNumber)),
    ("is_negative", .bool offset.isNegative)]) with
  | error e => cases e <;> rfl
  | ok offset => rfl

theorem convertToSignalBucket_number {baseValue enum : String} (scale : Option ℚ) (n : ℤ)
    (henum : convertBaseValueToEnumString baseValue = .ok enum) :
    convertToSignalBucket baseValue scale (some (.number n)) =
      .ok (.signalBucket enum (scaleOrDefault scale)
        ⟨convertTo128BitArray (.number |n|), n < 0⟩) := by
  unfold convertToSignalBucket
  by_cases hzero : n = 0
  · subst hzero
    simp only [henum, ScriptInt.toInt, ne_eq, not_true_eq_false, if_false]
    rfl
  · simp only [henum, ScriptInt.toInt, ne_eq, hzero, not_false_eq_true, if_true]
    rfl

theorem convertToSignalBucket_bigint {baseValue : String} {scale : Option ℚ} {n : ℤ}
    (hn : n ≠ 0) {bucket : ContributionBucket} :
    convertToSignalBucket baseValue scale (some (.bigint n)) ≠ .ok bucket := by
  unfold convertToSignalBucket
  simp only [ScriptInt.toInt, ne_eq, hn, not_false_eq_true, if_true]
  intro h
  cases h

theorem createContribution_signalBucket {baseValue enum : String} (scale : Option ℚ) (n : ℤ)
    (v : ℕ) (henum : convertBaseValueToEnumString baseValue = .ok enum) :
    createContribution (.object baseValue scale (some (.number n))) (.number v) =
      .ok ⟨.signalBucket enum (scaleOrDefault scale)
        ⟨convertTo128BitArray (.number |n|), n < 0⟩, .intValue v⟩ := by
  show (convertToSignalBucket baseValue scale (some (.number n)) >>= fun bucket =>
    Except.ok (ScriptContribution.mk bucket (.intValue v))) = _
  rw [convertToSignalBucket_number scale n henum]
  rfl

theorem toInt_lowBits (n : ℤ) :
    BucketOffset.toInt ⟨[UInt64.ofNat (n.natAbs % 2 ^ 32), 0], n < 0⟩ =
      if n < 0 then -((n.natAbs % 2 ^ 32 : ℕ) : ℤ) else (n.natAbs % 2 ^ 32 : ℕ) := by
  have hmagnitude : BucketOffset.magnitude ⟨[UInt64.ofNat (n.natAbs % 2 ^ 32), 0], n < 0⟩ =
      n.natAbs % 2 ^ 32 := by
    show (0 : UInt64).toNat * 2 ^ 64 + (UInt64.ofNat (n.natAbs % 2 ^ 32)).toNat = _
    rw [UInt64.toNat_ofNat_of_lt' (show n.natAbs % 2 ^ 32 < 2 ^ 64 by omega)]
    exact Nat.zero_add _
  unfold BucketOffset.toInt
  rw [hmagnitude]
  by_cases h : n < 0
  · simp only [h, decide_true, if_true]
  · simp only [h, decide_false, if_false, Bool.false_eq_true]

theorem uint128Words_mod (n : ℕ) : uint128Words (n % 2 ^ 128) = uint128Words n := by
  rw [uint128Words_eq, uint128Words_eq]
  have hlow : n % 2 ^ 128 % 2 ^ 64 = n % 2 ^ 64 := by omega
  have hhigh : n % 2 ^ 128 / 2 ^ 64 = n / 2 ^ 64 % 2 ^ 64 := by omega
  rw [hlow, hhigh, UInt64.ofNat_mod_size, UInt64.ofNat_mod_size]

theorem getPrivateAggregationBucketPostAuction_signalBucket (signalBucket : SignalBucket F) :
    getPrivateAggregationBucketPostAuction ops baseValues (some (.signalBucket signalBucket)) =
      offsetBucket ops baseValues signalBucket.baseValue signalBucket.scale
        signalBucket.offset.toInt := by
  unfold getPrivateAggregationBucketPostAuction offsetBucket
  dsimp only [bind, Except.bind]
  cases baseValueNumber baseValues id ops.ofInt signalBucket.baseValue with
  | error e => rfl
  | ok baseValue =>
    dsimp only
    unfold BucketOffset.toInt
    generalize (ops.mulToUInt64 baseValue signalBucket.scale).toNat = finalValue
    generalize signalBucket.offset.magnitude = magnitude
    cases hsign : signalBucket.offset.isNegative with
    | true =>
      simp only [if_true]
      by_cases hless : finalValue < magnitude
      · rw [if_pos hless, if_pos (by omega)]
      · have hdiff : ((finalValue : ℤ) + -(magnitude : ℤ)).toNat = finalValue - magnitude := by
          omega
        rw [if_neg hless, if_neg (by omega), hdiff, uint128Words_mod]
    | false =>
      have hsum : ((finalValue : ℤ) + (magnitude : ℤ)).toNat = finalValue + magnitude := by omega
      simp only [Bool.false_eq_true, if_false]
      rw [if_neg (by omega), hsum]

theorem offsetSurvives_number {n : ℤ} (hn : |n| ≤ 2 ^ 53 - 1) :
    OffsetSurvives ofDouble ops baseValues (.number n) ↔ |n| < 2 ^ 32 := by
  have habs : |n| = n.natAbs := Int.abs_eq_natAbs n
  have hread : ∀ (baseValue : String) {enum : String} (scale : Option ℚ),
      convertBaseValueToEnumString baseValue = .ok enum →
      parseContributionBucket ofDouble (ContributionBucket.signalBucket enum
          (scaleOrDefault scale) ⟨convertTo128BitArray (.number |n|), n < 0⟩).printed =
        .ok (.signalBucket ⟨toBaseValue enum, ofDouble (scaleOrDefault scale),
          ⟨[UInt64.ofNat (n.natAbs % 2 ^ 32), 0], n < 0⟩⟩) := by
    intro baseValue enum scale henum
    rw [parseContributionBucket_signalBucket ofDouble
      (convertBaseValueToEnumString_ne_empty henum), parseBucketOffset_number]
    rfl
  constructor
  · intro h
    obtain ⟨contribution, signalBucket, hcreate, hbucket, hoffset, -⟩ :=
      h "winning-bid" "BASE_VALUE_WINNING_BID" none 0 rfl (by omega)
    rw [createContribution_signalBucket none n 0 rfl] at hcreate
    cases hcreate
    rw [hread "winning-bid" none rfl] at hbucket
    cases hbucket
    rw [toInt_lowBits] at hoffset
    show |n| < 2 ^ 32
    change _ = n at hoffset
    split at hoffset <;> omega
  · intro hsmall baseValue enum scale v henum hv
    have hoffset : BucketOffset.toInt ⟨[UInt64.ofNat (n.natAbs % 2 ^ 32), 0], n < 0⟩ = n := by
      rw [toInt_lowBits]
      split <;> omega
    refine ⟨_, _, createContribution_signalBucket scale n v henum, hread baseValue scale henum,
      hoffset, ?_⟩
    rw [parseAndProcessContribution_intValue ofDouble ops baseValues (by omega),
      hread baseValue scale henum]
    show (((getPrivateAggregationBucketPostAuction ops baseValues _).mapError _ >>= fun final =>
      _).map _) = _
    rw [getPrivateAggregationBucketPostAuction_signalBucket, hoffset]
    show _ = ((offsetBucket ops baseValues _ _ n).mapError _).map _
    cases offsetBucket ops baseValues (toBaseValue enum) (ofDouble (scaleOrDefault scale)) n <;> rfl

theorem offsetSurvives_bigint (n : ℤ) :
    OffsetSurvives ofDouble ops baseValues (.bigint n) ↔ n = 0 := by
  constructor
  · intro h
    obtain ⟨contribution, -, hcreate, -⟩ := h "winning-bid" _ none 0 rfl (by omega)
    by_contra hn
    cases hconvert : convertToSignalBucket "winning-bid" none (some (.bigint n)) with
    | error e =>
      change (convertToSignalBucket _ none _ >>= fun _ => _) = _ at hcreate
      rw [hconvert] at hcreate
      cases hcreate
    | ok bucket => exact convertToSignalBucket_bigint hn hconvert
  · rintro rfl
    -- zero is no offset, of either type
    exact (offsetSurvives_number ofDouble ops baseValues (n := 0) (by decide)).mpr (by decide)

theorem offsetSurvives_iff {offset : ScriptInt} (hoffset : offset.IsOffset) :
    OffsetSurvives ofDouble ops baseValues offset ↔ offset.OffsetKept := by
  cases offset with
  | number n => exact offsetSurvives_number ofDouble ops baseValues hoffset
  | bigint n => exact offsetSurvives_bigint ofDouble ops baseValues n

/-! ## Values -/

/-- The value of a contribution that is read is the script's, as an `int`. -/
theorem value_of_parseAndProcessContribution {v : ℕ} (hv : v < 2 ^ 53)
    {bucket : ContributionBucket} {result : PrivateAggregateContribution F}
    (h : parseAndProcessContribution ofDouble ops baseValues
      (ScriptContribution.printed ⟨bucket, .intValue v⟩) = .ok result) :
    result.value = some (.intValue (Int32.ofInt v)) := by
  rw [parseAndProcessContribution_intValue ofDouble ops baseValues hv] at h
  cases hbucket : parseContributionBucket ofDouble bucket.printed with
  | error e =>
    rw [hbucket] at h
    cases h
  | ok bucket =>
    rw [hbucket] at h
    cases hfinal : getPrivateAggregationBucketPostAuction ops baseValues (some bucket) with
    | error e =>
      change ((getPrivateAggregationBucketPostAuction ops baseValues (some bucket)).mapError _ >>=
        fun _ => _) = _ at h
      rw [hfinal] at h
      cases h
    | ok final =>
      change ((getPrivateAggregationBucketPostAuction ops baseValues (some bucket)).mapError _ >>=
        fun _ => _) = _ at h
      rw [hfinal] at h
      cases h
      rfl

theorem value_of_createContribution {bucket : ScriptBucket} {v : ℤ}
    {contribution : ScriptContribution}
    (h : createContribution bucket (.number v) = .ok contribution) :
    contribution.value = .intValue v := by
  cases bucket with
  | int bucket =>
    cases h
    rfl
  | string bucket => cases h
  | object baseValue scale offset =>
    change (convertToSignalBucket baseValue scale offset >>= fun bucket =>
      Except.ok (ScriptContribution.mk bucket (.intValue v))) = _ at h
    cases hconvert : convertToSignalBucket baseValue scale offset with
    | error e =>
      rw [hconvert] at h
      cases h
    | ok bucket =>
      rw [hconvert] at h
      cases h
      rfl

/-- A value is kept if an `int` holds it. -/
theorem valueSurvives_iff {v : ℕ} (hv : v < 2 ^ 32) :
    ValueSurvives ofDouble ops baseValues v ↔ v < 2 ^ 31 := by
  have hint : (Int32.ofInt v).toInt = v ↔ v < 2 ^ 31 := by
    have hsize : Int32.size = 4294967296 := rfl
    rw [Int32.toInt_ofInt, hsize, Int.bmod_def]
    split <;> omega
  rw [← hint]
  constructor
  · intro h
    obtain ⟨x, hx, hsame⟩ := h (.int (.number 0)) _ _ rfl
      (parseAndProcessContribution_bucket128Bits ofDouble ops baseValues (by omega) _)
    cases hx
    exact hsame
  · intro hsame bucket contribution result hcreate hparse
    obtain ⟨bucket, value⟩ := contribution
    have hvalue := value_of_createContribution hcreate
    dsimp only at hvalue
    subst hvalue
    exact ⟨_, value_of_parseAndProcessContribution ofDouble ops baseValues (by omega) hparse,
      hsame⟩

/-- What survives the boundary: a bucket that is a number of 32 bits, or a bigint of
twice the same word whose digits are all printed; an offset that is a number of 32 bits;
a value of 31 bits. -/
theorem scriptBoundary_iff {bucket offset : ScriptInt} {v : ℕ} (hbucket : bucket.IsBucket)
    (hoffset : offset.IsOffset) (hv : v < 2 ^ 32) :
    (BucketSurvives ofDouble ops baseValues bucket ↔ bucket.BucketKept) ∧
    (OffsetSurvives ofDouble ops baseValues offset ↔ offset.OffsetKept) ∧
    (ValueSurvives ofDouble ops baseValues v ↔ v < 2 ^ 31) :=
  ⟨bucketSurvives_iff ofDouble ops baseValues hbucket,
    offsetSurvives_iff ofDouble ops baseValues hoffset,
    valueSurvives_iff ofDouble ops baseValues hv⟩

end Survives

/-- The floating-point operations on numbers they are exact on. -/
def exactNumbers : FloatOps ℚ where
  zero := 0
  isPositive x := 0 < x
  ofInt n := n.toInt
  toInt x := Int32.ofInt x.floor
  mulToUInt64 x y := UInt64.ofInt (x * y).floor
  mulToInt n x := Int32.ofInt (n.toInt * x).floor
  uninitialized := 0

/-- Three of each word, minus seven and five arrive. -/
theorem scriptBoundary_small :
    BucketSurvives id exactNumbers ⟨2, 1, none⟩ (.bigint (3 * 2 ^ 64 + 3)) ∧
      OffsetSurvives id exactNumbers ⟨2, 1, none⟩ (.number (-7)) ∧
      ValueSurvives id exactNumbers ⟨2, 1, none⟩ 5 := by
  obtain ⟨hbucket, hoffset, hvalue⟩ := scriptBoundary_iff id exactNumbers ⟨2, 1, none⟩
    (show (ScriptInt.bigint (3 * 2 ^ 64 + 3)).IsBucket by decide)
    (show (ScriptInt.number (-7)).IsOffset by decide) (show 5 < 2 ^ 32 by decide)
  exact ⟨hbucket.mpr (by decide), hoffset.mpr (by decide), hvalue.mpr (by decide)⟩

/-- A bucket of five, passed as a bigint, arrives as five times `2 ^ 64`. -/
theorem bigint_swapped :
    (∃ contribution result, createContribution (.int (.bigint 5)) (.number 1) = .ok contribution ∧
      parseAndProcessContribution id exactNumbers ⟨2, 1, none⟩ contribution.printed = .ok result ∧
      result.bucket = some (.bucket128Bit (uint128Words (5 * 2 ^ 64)))) ∧
    ScriptInt.IsBucket (.bigint 5) ∧
    ¬ BucketSurvives id exactNumbers ⟨2, 1, none⟩ (.bigint 5) := by
  have hwords : ((convertTo128BitArray (.bigint 5)).map printedNumber).mapM Json.getUint64 =
      .ok [0, 5] := by
    have hfive := mapM_getUint64_bigint 5
    rw [Nat.div_eq_of_lt (by omega), Nat.mod_eq_of_lt (by omega),
      Number.printed_of_lt (n := 0) (by omega), Number.printed_of_lt (n := 5) (by omega)] at hfive
    exact hfive
  refine ⟨⟨⟨.bucket128Bits (convertTo128BitArray (.bigint 5)), .intValue 1⟩,
    { value := some (.intValue 1), bucket := some (.bucket128Bit [0, 5]) }, rfl, ?_, rfl⟩,
    by decide, ?_⟩
  · have hprocess := parseAndProcessContribution_bucket128Bits (id : ℚ → ℚ) exactNumbers
      ⟨2, 1, none⟩ (v := 1) (by omega) (convertTo128BitArray (.bigint 5))
    rw [hwords] at hprocess
    exact hprocess
  · rw [bucketSurvives_iff_words, hwords]
    intro h
    injection h with h
    injection h with hlow
    exact absurd hlow (by decide)

end BiddingAuction

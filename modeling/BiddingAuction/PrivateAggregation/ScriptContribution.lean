import BiddingAuction.Common.Accessors
import BiddingAuction.Foundation.Number
import BiddingAuction.PrivateAggregation.Handlers

/-!
# Contributions from a script

`privateAggregationUtil` builds a contribution in the script; it is printed as JSON and
`ParseAndProcessContribution` reads it. The script passes whole numbers as numbers or as
bigints, and a 128-bit number goes over as two words.
-/

namespace BiddingAuction

open Foundation

/-! ## In the script -/

inductive ScriptInt where
  | number (n : ℤ)
  | bigint (n : ℤ)
deriving DecidableEq, Repr

def ScriptInt.toInt : ScriptInt → ℤ
  | .number n => n
  | .bigint n => n

/-- A bucket as the script passes it; of an object the members that are read. -/
inductive ScriptBucket where
  | int (bucket : ScriptInt)
  | string (bucket : String)
  | object (baseValue : String) (scale : Option ℚ) (offset : Option ScriptInt)

inductive ScriptValue where
  | number (value : ℤ)
  | object (baseValue : String) (scale : Option ℚ) (offset : Option ℤ)
  | other

structure ScriptBucketOffset where
  value : List ℤ
  isNegative : Bool
deriving DecidableEq, Repr

/-- A contribution's bucket and value, as the script builds them. -/
inductive ContributionBucket where
  | bucket128Bits (words : List ℤ)
  | signalBucket (baseValue : String) (scale : ℚ) (offset : ScriptBucketOffset)

inductive ContributionValue where
  | intValue (value : ℤ)
  | extendedValue (baseValue : String) (scale : ℚ) (offset : ℤ)

structure ScriptContribution where
  bucket : ContributionBucket
  value : ContributionValue

/-- `Number` of a bigint. -/
def numberOfBigint (n : ℤ) : ℤ := n.sign * (Number.ofNat n.natAbs : ℕ)

/-- `convertTo128BitArray`. -/
def convertTo128BitArray : ScriptInt → List ℤ
  | .number bucket =>
    [(Number.shiftRightZeroFill bucket 64 : ℕ), Number.and bucket (Number.ofNat (2 ^ 64 - 1) : ℕ)]
  | .bigint bucket => [numberOfBigint (bucket / 2 ^ 64), numberOfBigint (bucket % 2 ^ 64)]

/-- `convertToBucketOffset`: `Math.abs` takes no bigint. -/
def convertToBucketOffset : ScriptInt → Except String ScriptBucketOffset
  | .number offset => .ok ⟨convertTo128BitArray (.number |offset|), offset < 0⟩
  | .bigint _ => .error "Cannot convert a BigInt value to a number"

def convertBaseValueToEnumString : String → Except String String
  | "winning-bid" => .ok "BASE_VALUE_WINNING_BID"
  | "highest-scoring-other-bid" => .ok "BASE_VALUE_HIGHEST_SCORING_OTHER_BID"
  | "bid-rejection-reason" => .ok "BASE_VALUE_BID_REJECTION_REASON"
  | "script-run-time" => .ok "BASE_VALUE_SCRIPT_RUN_TIME"
  | "signals-fetch-time" => .ok "BASE_VALUE_SIGNALS_FETCH_TIME"
  | _ => .error "Base value type not supported."

def scaleOrDefault (scale : Option ℚ) : ℚ :=
  match scale with
  | some scale => if scale ≠ 0 then scale else 1
  | none => 1

def convertToSignalBucket (baseValue : String) (scale : Option ℚ) (offset : Option ScriptInt) :
    Except String ContributionBucket := do
  let default ← convertToBucketOffset (.number 0)
  let offset ←
    match offset with
    | some offset => if offset.toInt ≠ 0 then convertToBucketOffset offset else pure default
    | none => pure default
  return .signalBucket (← convertBaseValueToEnumString baseValue) (scaleOrDefault scale) offset

def convertToSignalValue (baseValue : String) (scale : Option ℚ) (offset : Option ℤ) :
    Except String ContributionValue := do
  return .extendedValue (← convertBaseValueToEnumString baseValue) (scaleOrDefault scale)
    (offset.getD 0)

def createContribution (bucket : ScriptBucket) (value : ScriptValue) :
    Except String ScriptContribution := do
  let bucket ←
    match bucket with
    | .object baseValue scale offset => convertToSignalBucket baseValue scale offset
    | .string _ => throw "Invalid type for Private Aggregation bucket."
    | .int bucket => pure (.bucket128Bits (convertTo128BitArray bucket))
  let value ←
    match value with
    | .number value => pure (.intValue value)
    | .object baseValue scale offset => convertToSignalValue baseValue scale offset
    | .other => throw "Invalid type for Private Aggregation value."
  return ⟨bucket, value⟩

/-! ## In print -/

def printedNumber (n : ℤ) : Json := .number (n.sign * (Number.print n.natAbs : ℕ) : ℤ)

def ContributionBucket.printed : ContributionBucket → Json
  | .bucket128Bits words => .object [("bucket_128_bit",
      .object [("bucket_128_bits", .array (words.map printedNumber))])]
  | .signalBucket baseValue scale offset => .object [("signal_bucket", .object
      [("base_value", .string baseValue), ("scale", .number scale),
        ("offset", .object [("value", .array (offset.value.map printedNumber)),
          ("is_negative", .bool offset.isNegative)])])]

def ContributionValue.printed : ContributionValue → Json
  | .intValue value => .object [("int_value", printedNumber value)]
  | .extendedValue baseValue scale offset => .object [("extended_value", .object
      [("base_value", .string baseValue), ("scale", .number scale),
        ("offset", printedNumber offset)])]

/-- The document that is read from the print of a contribution. -/
def ScriptContribution.printed (contribution : ScriptContribution) : Json :=
  .object [("bucket", contribution.bucket.printed), ("value", contribution.value.printed)]

/-! ## Reading -/

namespace Json

def type : Json → ℕ
  | .null => 0
  | .bool false => 1
  | .bool true => 2
  | .object _ => 3
  | .array _ => 4
  | .string _ => 5
  | .number _ => 6
  | .double _ => 6

def int? (lower upper : ℤ) : Json → Option ℤ
  | .number v => if v.den = 1 ∧ lower ≤ v.num ∧ v.num ≤ upper then some v.num else none
  | _ => none

/-- `GetUint64`. -/
def getUint64 (j : Json) : Except ReadError UInt64 :=
  match j.int? 0 (2 ^ 64 - 1) with
  | some n => .ok (UInt64.ofNat n.toNat)
  | none => .error .asserted

/-- A member of an expected type, through what reads that type. -/
def getMember {α : Type} (read : Json → Option α) (expected : ℕ) (document : Json)
    (memberName : String) : Except ReadError α := do
  match ← document.member? memberName with
  | none => throw (.invalidArgument ("Missing " ++ memberName ++ " in the JSON document"))
  | some value =>
    match read value with
    | some a => return a
    | none => throw (.invalidArgument ("Value of member: " ++ memberName ++
        ", has unexpected member type (expected: " ++ toString expected ++ ", observed: " ++
        toString value.type ++ ")"))

def getArrayMember : Json → String → Except ReadError (List Json) :=
  getMember (fun | .array elements => some elements | _ => none) 4

def getIntMember : Json → String → Except ReadError ℤ :=
  getMember (int? (-2 ^ 31) (2 ^ 31 - 1)) 6

def getDoubleMember : Json → String → Except ReadError ℚ := getMember number? 6

def getBoolMember : Json → String → Except ReadError Bool := getMember bool? 6

def getStringMember (document : Json) (memberName : String) : Except ReadError String := do
  let result ← getMember string? 5 document memberName
  if result = "" then
    throw (.invalidArgument ("Value of member: " ++ memberName ++
      ", is unexpectedly an empty string."))
  else return result

end Json

def toBaseValue : String → BaseValue
  | "BASE_VALUE_WINNING_BID" => .winningBid
  | "BASE_VALUE_HIGHEST_SCORING_OTHER_BID" => .highestScoringOtherBid
  | "BASE_VALUE_SCRIPT_RUN_TIME" => .scriptRunTime
  | "BASE_VALUE_SIGNALS_FETCH_TIME" => .signalsFetchTime
  | "BASE_VALUE_BID_REJECTION_REASON" => .bidRejectionReason
  | _ => .unspecified

def parseBucketOffset (bucketOffset : Json) : Except ReadError BucketOffset := do
  let valueArray ← bucketOffset.getArrayMember "value"
  let isNegative ← bucketOffset.getBoolMember "is_negative"
  match valueArray with
  | low :: high :: _ => return ⟨[← low.getUint64, ← high.getUint64], isNegative⟩
  | _ => throw .asserted

section Parse

variable {F : Type} (ofDouble : ℚ → F)

def parseSignalValue (signalValue : Json) : Except ReadError (SignalValue F) := do
  let baseValue ← signalValue.getStringMember "base_value"
  let offset ← signalValue.getIntMember "offset"
  let scale ← signalValue.getDoubleMember "scale"
  return ⟨toBaseValue baseValue, ofDouble scale, Int32.ofInt offset⟩

def parseSignalBucket (signalBucket : Json) : Except ReadError (SignalBucket F) := do
  match ← signalBucket.member? "offset" with
  | none => throw (.invalidArgument "Missing Signal Bucket's offset")
  | some bucketOffset =>
    let offset ← parseBucketOffset bucketOffset
    let baseValue ← signalBucket.getStringMember "base_value"
    let scale ← signalBucket.getDoubleMember "scale"
    return ⟨toBaseValue baseValue, ofDouble scale, offset⟩

/-- `PS_ASSIGN_OR_RETURN` with a status of its own. -/
def orReturn {α : Type} (message : String) : Except ReadError α → Except ReadError α
  | .error (.invalidArgument _) => .error (.invalidArgument message)
  | result => result

/-- The value of a contribution, processed: an `int` keeps the low 32 bits of what is read
into it. -/
def parseContributionValue (ops : FloatOps F) (baseValues : BaseValues F) (value : Json) :
    Except ReadError Int32 := do
  let intValue := (← value.member? "int_value").bind (Json.int? (-2 ^ 63) (2 ^ 63 - 1))
  match intValue with
  | some intValue => return Int32.ofInt intValue
  | none =>
    match ← value.member? "extended_value" with
    | none => throw (.invalidArgument kInvalidPrivateAggregationValueType)
    | some extendedValue =>
      let signalValue ← orReturn kInvalidPrivateAggregationValueType
        (parseSignalValue ofDouble extendedValue)
      (getPrivateAggregationValuePostAuction ops baseValues
        (some (.extendedValue signalValue))).mapError .invalidArgument

def parseContributionBucket (bucket : Json) : Except ReadError (PrivateAggregationBucket F) := do
  let signalBucket ← bucket.member? "signal_bucket"
  let bucket128Bit ← bucket.member? "bucket_128_bit"
  match signalBucket, bucket128Bit with
  | some signalBucket, _ =>
    return .signalBucket (← orReturn kInvalidPrivateAggregationBucketType
      (parseSignalBucket ofDouble signalBucket))
  | none, some (.object members) =>
    let bits ← orReturn kInvalidPrivateAggregationBucketType
      ((Json.object members).getArrayMember "bucket_128_bits")
    return .bucket128Bit (← bits.mapM Json.getUint64)
  | _, _ => throw (.invalidArgument kInvalidPrivateAggregationBucketType)

def parseAndProcessContribution (ops : FloatOps F) (baseValues : BaseValues F)
    (paggResponse : Json) : Except ReadError (PrivateAggregateContribution F) := do
  match ← paggResponse.member? "value" with
  | none => throw (.invalidArgument kInvalidPrivateAggregationValueType)
  | some value =>
    let intValue ← parseContributionValue ofDouble ops baseValues value
    match ← paggResponse.member? "bucket" with
    | none => return { value := some (.intValue intValue) }
    | some bucket =>
      let bucket ← parseContributionBucket ofDouble bucket
      let final ← (getPrivateAggregationBucketPostAuction ops baseValues
        (some bucket)).mapError .invalidArgument
      return { value := some (.intValue intValue), bucket := some (.bucket128Bit final) }

end Parse

end BiddingAuction

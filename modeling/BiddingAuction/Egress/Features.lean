import BiddingAuction.Common.Json
import BiddingAuction.Common.Status
import Mathlib.Algebra.Group.Int.Defs
import Mathlib.Algebra.Order.Monoid.WithTop
import Mathlib.Algebra.Order.Ring.Int
import Mathlib.Data.List.Forall2

/-!
# What the egress code reads

The schema and the payload of the egress features as `rapidjson` holds them, with integers
kept apart from other numbers; and what a call of the egress code can do.
-/

namespace BiddingAuction

namespace Egress

/-! ## Calls -/

/-- What a call does: it returns a value or an error status, or its behavior is undefined. -/
inductive Outcome (α : Type) where
  | ok (value : α)
  | error (code : GrpcStatusCode) (message : String)
  | undefined
deriving DecidableEq

namespace Outcome

variable {α β γ : Type}

instance : Monad Outcome where
  pure := ok
  bind o f :=
    match o with
    | ok value => f value
    | error code message => error code message
    | undefined => undefined

@[simp] theorem ok_bind (value : α) (f : α → Outcome β) : ok value >>= f = f value := rfl

@[simp] theorem error_bind (code : GrpcStatusCode) (message : String) (f : α → Outcome β) :
    error code message >>= f = error code message := rfl

@[simp] theorem undefined_bind (f : α → Outcome β) : undefined >>= f = undefined := rfl

@[simp] theorem pure_eq_ok (value : α) : (pure value : Outcome α) = ok value := rfl

theorem id_map (o : Outcome α) : id <$> o = o := by
  cases o <;> rfl

theorem bind_assoc (o : Outcome α) (f : α → Outcome β) (g : β → Outcome γ) :
    o >>= f >>= g = o >>= fun a => f a >>= g := by
  cases o <;> rfl

instance : LawfulMonad Outcome :=
  LawfulMonad.mk' Outcome id_map (fun _ _ => rfl) bind_assoc

theorem bind_eq_ok {o : Outcome α} {f : α → Outcome β} {b : β} :
    o >>= f = ok b ↔ ∃ a, o = ok a ∧ f a = ok b := by
  cases o with
  | ok value => simp
  | error code message => simp
  | undefined => simp

theorem mapM_eq_ok {l : List α} {f : α → Outcome β} {results : List β} :
    l.mapM f = ok results ↔ List.Forall₂ (fun a b => f a = ok b) l results := by
  induction l generalizing results with
  | nil =>
    cases results with
    | nil => simp
    | cons b rest => simp
  | cons a rest ih =>
    rw [List.mapM_cons]
    constructor
    · intro h
      obtain ⟨b, hb, h⟩ := bind_eq_ok.mp h
      obtain ⟨bs, hbs, h⟩ := bind_eq_ok.mp h
      cases h
      exact .cons hb (ih.mp hbs)
    · intro h
      cases h with
      | cons hb hrest =>
        rw [hb, ok_bind, ih.mpr hrest]
        rfl

theorem exists_of_mem_mapM {l : List α} {f : α → Outcome β} {results : List β}
    (h : l.mapM f = ok results) {b : β} (hb : b ∈ results) : ∃ a ∈ l, f a = ok b := by
  have hall := mapM_eq_ok.mp h
  clear h
  induction hall with
  | nil => cases hb
  | cons hfirst _ ih =>
    rcases List.mem_cons.mp hb with rfl | hrest
    · exact ⟨_, List.mem_cons_self, hfirst⟩
    · obtain ⟨a, ha, hok⟩ := ih hrest
      exact ⟨a, List.mem_cons_of_mem _ ha, hok⟩

/-- `absl::InvalidArgumentError`. -/
def invalidArgument (message : String) : Outcome α := error .invalidArgument message

end Outcome

theorem mapM_eq_some {α β : Type} {l : List α} {f : α → Option β} {results : List β} :
    l.mapM f = some results ↔ List.Forall₂ (fun a b => f a = some b) l results := by
  induction l generalizing results with
  | nil =>
    cases results with
    | nil => simp
    | cons b rest => simp
  | cons a rest ih =>
    rw [List.mapM_cons]
    constructor
    · intro h
      obtain ⟨b, hb, h⟩ := Option.bind_eq_some_iff.mp h
      obtain ⟨bs, hbs, h⟩ := Option.bind_eq_some_iff.mp h
      cases h
      exact .cons hb (ih.mp hbs)
    · intro h
      cases h with
      | cons hb hrest =>
        rw [hb, ih.mpr hrest]
        rfl

/-! ## Values -/

/-- `rapidjson::Value`. A number is an integer if its text has no fraction and no exponent,
and 64 bits hold it. -/
inductive Value where
  | null
  | bool (b : Bool)
  | int (n : ℤ)
  | double (x : ℚ)
  | string (s : String)
  | array (elements : List Value)
  | object (members : List (String × Value))

namespace Value

/-- `FindMember`: the first member of the name, none in a value without members. -/
def findMember (name : String) : Value → Option Value
  | object members => (members.find? fun member => member.1 = name).map Prod.snd
  | _ => none

def isObject : Value → Bool
  | object _ => true
  | _ => false

def getType : Value → ℕ
  | null => 0
  | bool false => 1
  | bool true => 2
  | object _ => 3
  | array _ => 4
  | string _ => 5
  | int _ | double _ => 6

/-- `GetUint`, where `IsUint`. -/
def uint? : Value → Option UInt32
  | int n => if 0 ≤ n ∧ n < 2 ^ 32 then some (UInt32.ofNat n.toNat) else none
  | _ => none

/-- `GetInt`, where `IsInt`. -/
def int? : Value → Option ℤ
  | int n => if -2 ^ 31 ≤ n ∧ n < 2 ^ 31 then some n else none
  | _ => none

/-- `GetBool`, where `IsBool`. -/
def bool? : Value → Option Bool
  | bool b => some b
  | _ => none

/-- `GetString`, where `IsString`. -/
def string? : Value → Option String
  | string s => some (cString s)
  | _ => none

def kMissingMember (memberName : String) : String :=
  "Missing " ++ memberName ++ " in the JSON document"
def kUnexpectedMemberType (memberName : String) (expected observed : ℕ) : String :=
  "Value of member: " ++ memberName ++ ", has unexpected member type (expected: " ++
    toString expected ++ ", observed: " ++ toString observed ++ ")"
def kEmptyStringMember (memberName : String) : String :=
  "Value of member: " ++ memberName ++ ", is unexpectedly an empty string."

/-- `GetArrayMember`, `GetIntMember` and the first part of `GetStringMember`: a member that
`read` takes. `FindMember` is for objects only. -/
def getMember {α : Type} (read : Value → Option α) (expected : ℕ) (memberName : String)
    (document : Value) : Outcome α :=
  if document.isObject then
    match document.findMember memberName with
    | none => .invalidArgument (kMissingMember memberName)
    | some member =>
      match read member with
      | none => .invalidArgument (kUnexpectedMemberType memberName expected member.getType)
      | some a => .ok a
  else .undefined

/-- The elements, where `IsArray`. -/
def array? : Value → Option (List Value)
  | array elements => some elements
  | _ => none

def getArrayMember (document : Value) (memberName : String) : Outcome (List Value) :=
  document.getMember array? 4 memberName

def getIntMember (document : Value) (memberName : String) : Outcome ℤ :=
  document.getMember int? 6 memberName

def getStringMember (document : Value) (memberName : String) : Outcome String := do
  let result ← document.getMember string? 5 memberName
  if result = "" then .invalidArgument (kEmptyStringMember memberName) else .ok result

/-- `PS_ASSIGN_IF_PRESENT`: what is assigned, if anything. -/
def ifPresent {α : Type} (read : Value → Option α) (src : Value) (key : String) : Option α :=
  (src.findMember key).bind read

end Value

end Egress

/-!
# Egress features

The five kinds of feature, and the bits each is serialized to. The bits of a number come
with the most significant one first; those of a bucket and the numbers of a histogram are
reversed.
-/

namespace Egress

/-! ## Bits of numbers -/

/-- The order of the values below, from the linear order of the integers. -/
instance instPreorderDouble : Preorder (WithTop ℤ) :=
  @WithTop.instPreorder ℤ Int.instLinearOrder.toPartialOrder.toPreorder

/-- `pow(2, e)`: from 1024 on, a double overflows. -/
def pow2 (e : ℕ) : WithTop ℤ := if e < 1024 then ((2 ^ e : ℤ) : WithTop ℤ) else ⊤

/-- A double converted to an `int`, where one holds it. -/
def toInt : WithTop ℤ → Outcome ℤ
  | some n => if -2 ^ 31 ≤ n ∧ n < 2 ^ 31 then .ok n else .undefined
  | none => .undefined

/-- `bit_rep[i] = true`. -/
def setBit (bitRep : List Bool) (i : ℤ) : Outcome (List Bool) :=
  if 0 ≤ i ∧ i < bitRep.length then .ok (bitRep.set i.toNat true) else .undefined

/-- The loop of `UnsignedIntToBits`. -/
def setBitsFrom (num : ℕ) (i : ℤ) (bitRep : List Bool) : Outcome (List Bool) :=
  if num = 0 then .ok bitRep
  else (if num % 2 > 0 then setBit bitRep i else .ok bitRep) >>= setBitsFrom (num / 2) (i - 1)
termination_by num

/-- `UnsignedIntToBits`. The last index is an `int`. -/
def unsignedIntToBits (num : ℕ) (bitRep : List Bool) : Outcome (List Bool) :=
  setBitsFrom num (Int.bmod (bitRep.length - 1) (2 ^ 32)) bitRep

/-! ## Features -/

inductive FeatureType where
  | booleanFeature
  | signedIntFeature
  | unsignedIntFeature
  | bucketFeature
  | histogramFeature
deriving DecidableEq, Repr

def FeatureType.type : FeatureType → String
  | booleanFeature => "boolean-feature"
  | signedIntFeature => "signed-integer-feature"
  | unsignedIntFeature => "unsigned-integer-feature"
  | bucketFeature => "bucket-feature"
  | histogramFeature => "histogram-feature"

def kFeatureTypes : List FeatureType :=
  [.booleanFeature, .signedIntFeature, .unsignedIntFeature, .bucketFeature, .histogramFeature]

/-- `EgressFeature`. The schema is that of a histogram, and the value is unset at first. -/
structure EgressFeature where
  featureType : FeatureType
  size : UInt32 := 1
  schemaValue : Value := .null
  value : Option Value := none

def createEgressFeature (name : String) (size : UInt32) (value : Value) : Outcome EgressFeature :=
  match kFeatureTypes.find? (·.type = name) with
  | some .histogramFeature => .ok { featureType := .histogramFeature, size, schemaValue := value }
  | some featureType => .ok { featureType, size }
  | none => .invalidArgument ("Unidentified feature type provided: " ++ name)

namespace EgressFeature

def setValue (feature : EgressFeature) (value : Value) (verifyType : Bool) :
    Outcome EgressFeature :=
  let observedFeatType := (value.ifPresent Value.string? "name").getD ""
  if verifyType ∧ observedFeatType ≠ feature.featureType.type then
    .invalidArgument ("Type of the feature in payload '" ++ observedFeatType ++
      "' doesn't match with the name in the schema: '" ++ feature.featureType.type ++
      "' at the same index")
  else .ok { feature with value := some value }

end EgressFeature

/-! ## Serialization -/

/-- `BooleanFeature::Serialize`. -/
def serializeBoolean : Option Value → Outcome (List Bool)
  | none => .ok [false]
  | some value =>
    match value.ifPresent Value.bool? "value" with
    | none => .invalidArgument "Value in the egress payload didn't have a bool"
    | some b => .ok [b]

def outOfBound (kind value : String) (size : UInt32) : String :=
  "Out of bound error: " ++ kind ++ " feature value: " ++ value ++
    " can not be represented in " ++ toString size.toNat ++ " bits allowed by the schema"

/-- `UnsignedIntFeature::Serialize`. -/
def serializeUnsignedInt (size : UInt32) : Option Value → Outcome (List Bool)
  | none => .ok (List.replicate size.toNat false)
  | some value =>
    match value.ifPresent Value.uint? "value" with
    | none => .invalidArgument "Int feature not found in the egress payload"
    | some n =>
      -- `*value > pow(2, size_) - 1`
      if pow2 size.toNat < ((n.toNat + 1 : ℤ) : WithTop ℤ) then
        .invalidArgument (outOfBound "Uint" (toString n.toNat) size)
      else unsignedIntToBits n.toNat (List.replicate size.toNat false)

/-- `SignedIntFeature::Serialize`. The width less one is unsigned. -/
def serializeSignedInt (size : UInt32) : Option Value → Outcome (List Bool)
  | none => .ok (List.replicate size.toNat false)
  | some value =>
    match value.ifPresent Value.int? "value" with
    | none => .invalidArgument "Int feature not found in the egress payload"
    | some n =>
      let bound := pow2 (size - 1).toNat
      if bound ≤ (n : WithTop ℤ) ∨ bound < ((-n : ℤ) : WithTop ℤ) then
        .invalidArgument (outOfBound "Int" (toString n) size)
      else if n < 0 then do
        let n ← toInt ((n : WithTop ℤ) + bound)
        let bitRep ← unsignedIntToBits n.toNat (List.replicate size.toNat false)
        -- the sign bit
        setBit bitRep 0
      else unsignedIntToBits n.toNat (List.replicate size.toNat false)

def notAnObject (index : ℕ) : String :=
  "Feature at index " ++ toString index ++ " is not an object, expected object"

/-- A turn of the loop of `BucketFeature::Serialize`. -/
def serializeBucketEntry (feat : Value × ℕ) : Outcome Bool :=
  if feat.1.isObject then do
    let boolFeat ← EgressFeature.setValue { featureType := .booleanFeature } feat.1 false
    let serializedBool ← serializeBoolean boolFeat.value
    .ok (serializedBool.headD false)
  else .invalidArgument (notAnObject feat.2)

/-- `BucketFeature::Serialize`. -/
def serializeBucket (size : UInt32) : Option Value → Outcome (List Bool)
  | none => .ok (List.replicate size.toNat false)
  | some value => do
    let buckets ← value.getArrayMember "value"
    if buckets.length ≠ size.toNat then
      .invalidArgument ("Number of buckets in feature payload (" ++ toString buckets.length ++
        ") doesn't match schema (" ++ toString size.toNat ++ ")")
    else
      let serializedFeat ← buckets.zipIdx.mapM serializeBucketEntry
      .ok serializedFeat.reverse

/-- The sizes in the schema of a histogram, as `HistogramFeature::Size` adds them up: what is
no unsigned `int` counts like the size before it. -/
def histogramSize (schemaValue : Value) : UInt32 :=
  match schemaValue.getArrayMember "value" with
  | .ok histogramSchema =>
    (histogramSchema.foldl (fun (sizes : UInt32 × UInt32) featSchema =>
      let featSize := (featSchema.ifPresent Value.uint? "size").getD sizes.1
      (featSize, sizes.2 + featSize)) (0, 0)).2
  | _ => 0

def serializeHistogramEntry (featSchema feat : Value) : Outcome (List Bool) :=
  let featName := (featSchema.ifPresent Value.string? "name").getD ""
  let featSize := (featSchema.ifPresent Value.uint? "size").getD 0
  if featName = "unsigned-integer-feature" then do
    let unsignedIntFeat ← EgressFeature.setValue
      { featureType := .unsignedIntFeature, size := featSize } feat true
    serializeUnsignedInt featSize unsignedIntFeat.value
  else if featName = "signed-integer-feature" then do
    let signedIntFeat ← EgressFeature.setValue
      { featureType := .signedIntFeature, size := featSize } feat true
    serializeSignedInt featSize signedIntFeat.value
  else .invalidArgument ("Only signed and unsigned integer feature types are " ++
    "supported for histogram, got: " ++ featName)

/-- The loop of `HistogramFeature::Serialize`. The index into the schema is counted back from
the declared size in an `int`, which may overflow. -/
def serializeHistogramFrom (size : UInt32) (histogramSchema : List Value) :
    List Value → ℤ → Outcome (List (List Bool))
  | [], _ => .ok []
  | feat :: rest, idx =>
    if idx + 1 = 2 ^ 31 then .undefined
    else
      let index := (size - UInt32.ofInt (idx + 1)).toNat
      if feat.isObject then
        match histogramSchema[index]? with
        | none => .undefined
        | some featSchema => do
          let serializedNum ← serializeHistogramEntry featSchema feat
          if idx = -2 ^ 31 then .undefined
          else
            let serializedFeat ← serializeHistogramFrom size histogramSchema rest (idx - 1)
            .ok (serializedNum :: serializedFeat)
      else .invalidArgument (notAnObject index)

/-- `HistogramFeature::Serialize`. -/
def serializeHistogram (size : UInt32) (schemaValue : Value) :
    Option Value → Outcome (List Bool)
  | none => .ok (List.replicate (histogramSize schemaValue).toNat false)
  | some value => do
    let histogramVal ← value.getArrayMember "value"
    let histogramSchema ← schemaValue.getArrayMember "value"
    if histogramVal.length ≠ histogramSchema.length then
      .invalidArgument ("Number of buckets in histogram feature payload (" ++
        toString histogramVal.length ++ ") doesn't match schema (" ++
        toString histogramSchema.length ++ ")")
    else
      let serializedFeat ← serializeHistogramFrom size histogramSchema histogramVal
        (Int.bmod (size - 1).toNat (2 ^ 32))
      .ok serializedFeat.reverse.flatten

namespace EgressFeature

/-- `Size`. -/
def getSize (feature : EgressFeature) : UInt32 :=
  match feature.featureType with
  | .histogramFeature => histogramSize feature.schemaValue
  | _ => feature.size

def serialize (feature : EgressFeature) : Outcome (List Bool) :=
  match feature.featureType with
  | .booleanFeature => serializeBoolean feature.value
  | .signedIntFeature => serializeSignedInt feature.size feature.value
  | .unsignedIntFeature => serializeUnsignedInt feature.size feature.value
  | .bucketFeature => serializeBucket feature.size feature.value
  | .histogramFeature => serializeHistogram feature.size feature.schemaValue feature.value

end EgressFeature

end Egress

end BiddingAuction

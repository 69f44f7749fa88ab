import BiddingAuction.Common.FlatHash
import BiddingAuction.Egress.Features

/-!
# Egress schemas

What a schema says by the CDDL that comes with the server, and the cache that keeps the
features of each schema that conforms.
-/

namespace BiddingAuction

namespace Egress

/-! ## The CDDL

`egress_cddl_spec/1.0.0`, as a function from a document to what it declares. -/

/-- `unsigned-integer-feature-type` and `signed-integer-feature-type`. -/
inductive NumberLayout where
  | unsigned (size : ℕ)
  | signed (size : ℕ)
deriving DecidableEq, Repr

/-- `feature_types`. -/
inductive FeatureLayout where
  | boolean
  | number (layout : NumberLayout)
  | bucket (size : ℕ)
  | histogram (entries : List NumberLayout)
deriving DecidableEq, Repr

/-- `schema`. -/
structure SchemaLayout where
  version : ℕ
  features : List FeatureLayout
deriving DecidableEq, Repr

namespace Value

def hasKeys (keys : List String) : Value → Bool
  | object members => (members.map Prod.fst).isPerm keys
  | _ => false

/-- `uint` of the CDDL. -/
def natural? : Value → Option ℕ
  | int n => if 0 ≤ n ∧ n < 2 ^ 64 then some n.toNat else none
  | _ => none

/-- `text` of the CDDL. -/
def text? : Value → Option String
  | string s => some s
  | _ => none

end Value

def numberLayout? (value : Value) : Option NumberLayout :=
  if value.hasKeys ["name", "size"] then
    match value.ifPresent Value.text? "name", value.ifPresent Value.natural? "size" with
    | some "unsigned-integer-feature", some size => some (.unsigned size)
    | some "signed-integer-feature", some size => some (.signed size)
    | _, _ => none
  else none

def booleanLayout? (value : Value) : Option FeatureLayout :=
  if value.hasKeys ["name"] ∧ value.ifPresent Value.text? "name" = some "boolean-feature" then
    some .boolean
  else none

def bucketLayout? (value : Value) : Option FeatureLayout :=
  if value.hasKeys ["name", "size"] ∧
      value.ifPresent Value.text? "name" = some "bucket-feature" then
    (value.ifPresent Value.natural? "size").map .bucket
  else none

def histogramLayout? (value : Value) : Option FeatureLayout :=
  if value.hasKeys ["name", "size", "value"] ∧
      value.ifPresent Value.text? "name" = some "histogram-feature" ∧
      (value.ifPresent Value.natural? "size").isSome then
    match value.ifPresent Value.array? "value" with
    | some (first :: rest) => ((first :: rest).mapM numberLayout?).map .histogram
    | _ => none
  else none

def featureLayout? (value : Value) : Option FeatureLayout :=
  (booleanLayout? value).or <| ((numberLayout? value).map .number).or <|
    (bucketLayout? value).or (histogramLayout? value)

def schemaLayout? (document : Value) : Option SchemaLayout :=
  if document.hasKeys ["features", "cddl_version", "version"] ∧
      document.ifPresent Value.text? "cddl_version" = some "1.0.0" then
    match document.ifPresent Value.natural? "version",
      document.ifPresent Value.array? "features" with
    | some version, some features =>
      if version ≤ 7 then (features.mapM featureLayout?).map (⟨version, ·⟩) else none
    | _, _ => none
  else none

/-! ## The cache -/

/-- What the code takes from its JSON and CDDL libraries. -/
structure Library where
  /-- `ParseJsonString`, or why the text is none. -/
  parseJsonString : String → Except String Value
  /-- `validate_json_str`: the text conforms to the specification. -/
  validateJsonStr : String → String → Bool
  /-- The text of `egress_cddl_spec/1.0.0`. -/
  cddlSpec : String

/-- A text that validates against the specification conforms to it. -/
def Library.Validates (lib : Library) : Prop :=
  ∀ schema document, lib.parseJsonString schema = .ok document →
    lib.validateJsonStr lib.cddlSpec schema = true → (schemaLayout? document).isSome = true

def parseJsonString (lib : Library) (text : String) : Outcome Value :=
  match lib.parseJsonString text with
  | .ok document => .ok document
  | .error reason => .invalidArgument reason

/-- `CddlSpecCache::Get`. -/
def getCddlSpec (lib : Library) (version : String) : Outcome String :=
  if version = "1.0.0" then .ok lib.cddlSpec
  else .error .notFound ("Unable to find the CDDL spec version in cache: " ++ version)

/-- A turn of the loop of `ExtractFeatures`. The size is that of a boolean by default. -/
def extractFeature (feat : Value × ℕ) : Outcome EgressFeature :=
  if feat.1.isObject then
    createEgressFeature ((feat.1.ifPresent Value.string? "name").getD "")
      ((feat.1.ifPresent Value.uint? "size").getD 1) feat.1
  else .invalidArgument (notAnObject feat.2)

def extractFeatures (jsonDoc : Value) : Outcome (List EgressFeature) := do
  let featureArray ← jsonDoc.getArrayMember "features"
  featureArray.zipIdx.mapM extractFeature

structure EgressSchemaData where
  version : UInt32
  features : List EgressFeature

abbrev EgressSchemaCache := FlatHashMap String EgressSchemaData

namespace EgressSchemaCache

def update (lib : Library) (cache : EgressSchemaCache) (egressSchema id : String) :
    Outcome EgressSchemaCache := do
  let jsonDoc ← parseJsonString lib egressSchema
  let schemaVersion ← jsonDoc.getIntMember "version"
  let cddlVersion ← jsonDoc.getStringMember "cddl_version"
  let cddlSpec ← getCddlSpec lib cddlVersion
  if lib.validateJsonStr cddlSpec egressSchema then
    let extractedFeatures ← extractFeatures jsonDoc
    .ok (cache.insert id ⟨UInt32.ofInt schemaVersion, extractedFeatures⟩)
  else
    .invalidArgument ("Adtech egress schema id: " ++ id ++
      " doesn't conform with the CDDL spec: " ++ cddlVersion)

/-- `EgressSchemaCache::Get`: a copy, with values unset. -/
def get (cache : EgressSchemaCache) (schemaId : String) : Outcome EgressSchemaData :=
  match cache.lookup schemaId with
  | some data => .ok data
  | none => .invalidArgument ("Adtech schema version not found in cache: " ++ schemaId)

/-- What is accepted validates against the specification, and is what the cache has for the
id then. -/
theorem update_eq_ok {lib : Library} {cache cache' : EgressSchemaCache}
    {egressSchema id : String} (h : cache.update lib egressSchema id = .ok cache') :
    ∃ jsonDoc version features, lib.parseJsonString egressSchema = .ok jsonDoc ∧
      lib.validateJsonStr lib.cddlSpec egressSchema = true ∧
      jsonDoc.getIntMember "version" = .ok version ∧ extractFeatures jsonDoc = .ok features ∧
      cache'.get id = .ok ⟨UInt32.ofInt version, features⟩ := by
  unfold update at h
  obtain ⟨jsonDoc, hdoc, h⟩ := Outcome.bind_eq_ok.mp h
  obtain ⟨version, hversion, h⟩ := Outcome.bind_eq_ok.mp h
  obtain ⟨cddlVersion, -, h⟩ := Outcome.bind_eq_ok.mp h
  obtain ⟨cddlSpec, hspec, h⟩ := Outcome.bind_eq_ok.mp h
  have hparse : lib.parseJsonString egressSchema = .ok jsonDoc := by
    unfold parseJsonString at hdoc
    split at hdoc
    · rename_i document hparse
      cases hdoc
      exact hparse
    · cases hdoc
  have hspec : cddlSpec = lib.cddlSpec := by
    unfold getCddlSpec at hspec
    split at hspec
    · cases hspec
      rfl
    · cases hspec
  rw [hspec] at h
  split at h
  · rename_i hvalid
    obtain ⟨features, hfeatures, h⟩ := Outcome.bind_eq_ok.mp h
    cases h
    refine ⟨jsonDoc, version, features, hparse, hvalid, hversion, hfeatures, ?_⟩
    unfold get
    rw [AList.lookup_insert]
  · cases h

end EgressSchemaCache

end Egress

end BiddingAuction

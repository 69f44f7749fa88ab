import BiddingAuction.Egress.Encodings
import BiddingAuction.Egress.SchemaCache
import BiddingAuction.Foundation.BitPacking
import Mathlib.Data.List.TakeWhile

/-!
# Egress payloads

The values of a payload are set on the features of a schema, and the features are
serialized one after another into an array of bytes, from the last byte to the first. The
array is sized by the declared sizes; the features decide how many bits they write.
-/

namespace BiddingAuction

namespace Egress

/-- A turn of the loop of `PopulateValuesForEgressFeatures`. -/
def populateValue (entry : (Value × EgressFeature) × ℕ) : Outcome EgressFeature :=
  if entry.1.1.isObject then entry.1.2.setValue entry.1.1 true
  else .invalidArgument ("Feature in egress payload at index " ++ toString entry.2 ++
    " is not an object, expected object")

/-- `PopulateValuesForEgressFeatures`. What the status macro adds to a text is left out. -/
def populateValuesForEgressFeatures (values : Value) (egressFeatures : List EgressFeature) :
    Outcome (List EgressFeature) := do
  let featureArray ← values.getArrayMember "features"
  if featureArray.length ≠ egressFeatures.length then
    .invalidArgument ("Number of values in the egress payload: " ++
      toString featureArray.length ++ " doesn't match with egress schema: " ++
      toString egressFeatures.length ++ " (note: nullability is not supported yet)")
  else (featureArray.zip egressFeatures).zipIdx.mapM populateValue

/-! ## Packing -/

/-- The bytes, and where the next bit goes. -/
structure Packing where
  bytesArray : List UInt8
  bytesArrayIdx : ℤ
  bitPosition : ℕ := 0
  /-- The index of the byte of each bit so far. -/
  placed : List ℤ := []

namespace Packing

def turnByte (p : Packing) : Packing :=
  if 0 < p.bitPosition ∧ p.bitPosition % 8 = 0 then
    { p with bitPosition := 0, bytesArrayIdx := p.bytesArrayIdx - 1 }
  else p

/-- A bit goes where the packing stands. The behavior is undefined if a set bit goes outside
the array; it is left out here, and `placed` tells. -/
def writeBit (p : Packing) (b : Bool) : Packing :=
  { bytesArray :=
      if b ∧ 0 ≤ p.bytesArrayIdx then
        p.bytesArray.modify p.bytesArrayIdx.toNat (· ||| 1 <<< UInt8.ofNat p.bitPosition)
      else p.bytesArray
    bytesArrayIdx := p.bytesArrayIdx
    bitPosition := p.bitPosition + 1
    placed := p.placed ++ [p.bytesArrayIdx] }

/-- A turn of the inner loop of `SerializeEgressFeatures`. -/
def putBit (p : Packing) (b : Bool) : Packing := p.turnByte.writeBit b

/-- `std::vector<uint8_t> bytes_array(size, 0)`. -/
def init (size : ℕ) : Packing :=
  { bytesArray := List.replicate size 0, bytesArrayIdx := size - 1 }

/-- The loops of `SerializeEgressFeatures`. -/
def putFeatures : List EgressFeature → Packing → Packing × Outcome Unit
  | [], p => (p, .ok ())
  | egressFeature :: rest, p =>
    match egressFeature.serialize with
    | .ok serializedFeature => putFeatures rest (serializedFeature.reverse.foldl putBit p)
    | .error code message => (p, .error code message)
    | .undefined => (p, .undefined)

end Packing

/-! ## Serialization -/

def kDefaultEgressProtocol : UInt8 := 0
def kEgressProtocolBitWidth : UInt32 := 5

def getEgressVectorHeader (schemaVersion : UInt32) : UInt8 :=
  (schemaVersion <<< kEgressProtocolBitWidth).toUInt8 ||| kDefaultEgressProtocol

def totalSize (egressFeatures : List EgressFeature) : UInt32 :=
  egressFeatures.foldl (fun total egressFeature => total + egressFeature.getSize) 0

def roundUp (totalSize : UInt32) : UInt32 :=
  if totalSize % 8 ≠ 0 then (totalSize / 8 + 1) * 8 else totalSize

/-- A call of `SerializeEgressFeatures`: what it returns, how many bytes it made room for, and
in which byte it put each bit. The result is what `Base64Escape` is given, or nothing for the
empty string. -/
structure Serialization where
  result : Outcome (List UInt8)
  size : ℕ
  placed : List ℤ

def serializeEgressFeatures (schemaVersion : UInt32) (egressFeatures : List EgressFeature)
    (egressBitLimit : UInt32) : Serialization :=
  let total := totalSize egressFeatures
  if total = 0 then ⟨.ok [], 0, []⟩
  else if total > egressBitLimit then ⟨.ok [], 0, []⟩
  else
    let size := (roundUp total / 8).toNat
    let packed := Packing.putFeatures egressFeatures (.init size)
    { result := do
        packed.2
        .ok (packed.1.bytesArray ++ [getEgressVectorHeader schemaVersion])
      size
      placed := packed.1.placed }

end Egress

/-!
# The budget of egress bits

The limit is held against the sum of the declared sizes in 32 bits, and the array is sized by
it; the features write as many bits as their sizes say one by one.
-/

open Foundation

namespace Egress

/-! ## Packing -/

/-- The packing after some bits: where it stands, where the bits went, and, while they fit,
what the bytes hold. -/
structure Packing.Packed (size : ℕ) (bits : List Bool) (p : Packing) : Prop where
  length : p.bytesArray.length = size
  stands : 8 * ((size : ℤ) - 1 - p.bytesArrayIdx) + p.bitPosition = bits.length
  position : p.bitPosition ≤ 8
  start : p.bitPosition = 0 → bits = []
  placed : p.placed = (List.range bits.length).map fun k => (size : ℤ) - 1 - (k / 8 : ℕ)
  stream : bits.length ≤ 8 * size →
    bitStream p.bytesArray = bits ++ List.replicate (8 * size - bits.length) false

namespace Packing

theorem packed_init (size : ℕ) : Packed size [] (init size) where
  length := List.length_replicate
  stands := by
    show 8 * ((size : ℤ) - 1 - (size - 1)) + 0 = 0
    omega
  position := Nat.zero_le 8
  start _ := rfl
  placed := rfl
  stream _ := bitStream_replicate_zero size

variable {size : ℕ} {bits : List Bool} {p : Packing}

theorem Packed.turnByte (h : Packed size bits p) :
    p.turnByte = { p with
      bytesArrayIdx := (size : ℤ) - 1 - (bits.length / 8 : ℕ)
      bitPosition := bits.length % 8 } := by
  obtain ⟨bytesArray, bytesArrayIdx, bitPosition, placed⟩ := p
  have hstands : 8 * ((size : ℤ) - 1 - bytesArrayIdx) + bitPosition = bits.length := h.stands
  have hposition : bitPosition ≤ 8 := h.position
  have hstart : bitPosition = 0 → bits.length = 0 := fun hzero => by
    rw [h.start hzero]
    rfl
  unfold Packing.turnByte
  dsimp only
  split
  · rename_i hturn
    congr 1
    · omega
    · omega
  · rename_i hturn
    congr 1
    · omega
    · omega

theorem Packed.putBit (h : Packed size bits p) (b : Bool) :
    Packed size (bits ++ [b]) (p.putBit b) := by
  have hlength := h.length
  have hplaced := h.placed
  have hstream := h.stream
  unfold Packing.putBit
  rw [h.turnByte]
  unfold writeBit
  refine ⟨?_, ?_, ?_, ?_, ?_, ?_⟩
  · dsimp only
    split
    · rw [List.length_modify, hlength]
    · exact hlength
  · simp only [List.length_append, List.length_singleton]
    omega
  · dsimp only
    omega
  · simp
  · dsimp only
    rw [hplaced, List.length_append, List.length_singleton, List.range_succ, List.map_append]
    rfl
  · intro hfits
    rw [List.length_append, List.length_singleton] at hfits
    have hroom : 8 * size - bits.length = (8 * size - (bits.length + 1)) + 1 := by omega
    have hlast : bits.length / 8 < size := by omega
    have hbytes := hstream (by omega)
    rw [hroom, List.replicate_succ] at hbytes
    rw [List.length_append, List.length_singleton, List.append_assoc]
    dsimp only
    cases b with
    | false =>
      rw [if_neg (by simp)]
      exact hbytes
    | true =>
      -- the bytes are filled from the last one on
      have hindex : ((size : ℤ) - 1 - (bits.length / 8 : ℕ)).toNat + bits.length / 8 + 1 =
          p.bytesArray.length := by
        rw [hlength]
        omega
      rw [if_pos ⟨rfl, by omega⟩, bitStream_modify (Nat.mod_lt _ (by omega)) hindex, hbytes,
        Nat.div_add_mod, List.set_append_right _ _ (le_refl _), Nat.sub_self]
      rfl

theorem Packed.putBits (h : Packed size bits p) (more : List Bool) :
    Packed size (bits ++ more) (more.foldl Packing.putBit p) := by
  induction more generalizing bits p with
  | nil =>
    rw [List.append_nil]
    exact h
  | cons b rest ih =>
    have hrest := ih (h.putBit b)
    rw [List.append_assoc] at hrest
    exact hrest

theorem Packed.inside_iff (h : Packed size bits p) :
    (∀ i ∈ p.placed, 0 ≤ i ∧ i < size) ↔ bits.length ≤ 8 * size := by
  rw [h.placed, List.forall_mem_map]
  simp only [List.mem_range]
  constructor
  · intro hinside
    by_contra hover
    have hlast := hinside (bits.length - 1) (by omega)
    omega
  · intro hfits k hk
    omega

theorem Packed.length_placed (h : Packed size bits p) : p.placed.length = bits.length := by
  rw [h.placed, List.length_map, List.length_range]

end Packing

/-! ## The features of a payload -/

def FromSchema (features : List EgressFeature) : Prop :=
  ∀ feature ∈ features, feature.featureType = .histogramFeature →
    feature.schemaValue.isObject = true

theorem extractFeature_eq_ok {feat : Value × ℕ} {feature : EgressFeature}
    (h : extractFeature feat = .ok feature) : feat.1.isObject = true ∧
      createEgressFeature ((feat.1.ifPresent Value.string? "name").getD "")
        ((feat.1.ifPresent Value.uint? "size").getD 1) feat.1 = .ok feature := by
  unfold extractFeature at h
  split at h
  · rename_i hobject
    exact ⟨hobject, h⟩
  · cases h

theorem createEgressFeature_schemaValue {name : String} {size : UInt32} {value : Value}
    {feature : EgressFeature} (h : createEgressFeature name size value = .ok feature)
    (htype : feature.featureType = .histogramFeature) : feature.schemaValue = value := by
  unfold createEgressFeature at h
  cases hfind : kFeatureTypes.find? fun featureType => featureType.type = name with
  | none =>
    rw [hfind] at h
    cases h
  | some featureType =>
    rw [hfind] at h
    cases featureType with
    | histogramFeature =>
      cases h
      rfl
    | _ =>
      cases h
      cases htype

theorem fromSchema_extractFeatures {jsonDoc : Value} {features : List EgressFeature}
    (h : extractFeatures jsonDoc = .ok features) : FromSchema features := by
  unfold extractFeatures at h
  obtain ⟨featureArray, -, h⟩ := Outcome.bind_eq_ok.mp h
  intro feature hmem htype
  obtain ⟨feat, -, hfeat⟩ := Outcome.exists_of_mem_mapM h hmem
  obtain ⟨hobject, hcreate⟩ := extractFeature_eq_ok hfeat
  rw [createEgressFeature_schemaValue hcreate htype]
  exact hobject

theorem mapM_populateValue {entries : List (Value × EgressFeature)} {k : ℕ}
    {features : List EgressFeature} (h : (entries.zipIdx k).mapM populateValue = .ok features) :
    features = entries.map (fun entry => { entry.2 with value := some entry.1 }) ∧
      ∀ entry ∈ entries, entry.1.isObject = true := by
  induction entries generalizing k features with
  | nil =>
    cases h
    exact ⟨rfl, nofun⟩
  | cons entry rest ih =>
    rw [List.zipIdx_cons, List.mapM_cons] at h
    obtain ⟨feature, hfirst, h⟩ := Outcome.bind_eq_ok.mp h
    obtain ⟨others, hrest, h⟩ := Outcome.bind_eq_ok.mp h
    cases h
    obtain ⟨rfl, hobjects⟩ := ih hrest
    unfold populateValue at hfirst
    split at hfirst
    · rename_i hobject
      refine ⟨?_, ?_⟩
      · rw [List.map_cons, setValue_eq_ok hfirst]
      · intro entry' hmem
        rcases List.mem_cons.mp hmem with rfl | hmem
        · exact hobject
        · exact hobjects entry' hmem
    · cases hfirst

theorem populateValuesForEgressFeatures_eq_ok {values : Value}
    {features populated : List EgressFeature}
    (h : populateValuesForEgressFeatures values features = .ok populated) :
    ∃ feats, values.ifPresent Value.array? "features" = some feats ∧
      feats.length = features.length ∧ (∀ feat ∈ feats, feat.isObject = true) ∧
      populated =
        (feats.zip features).map fun entry => { entry.2 with value := some entry.1 } := by
  unfold populateValuesForEgressFeatures at h
  obtain ⟨feats, hfeats, h⟩ := Outcome.bind_eq_ok.mp h
  split at h
  · cases h
  · rename_i hlength
    have hlength := not_not.mp hlength
    obtain ⟨rfl, hobjects⟩ := mapM_populateValue h
    refine ⟨feats, getArrayMember_eq_ok hfeats, hlength, ?_, rfl⟩
    intro feat hmem
    rw [← List.map_fst_zip hlength.le] at hmem
    obtain ⟨entry, hentry, rfl⟩ := List.mem_map.mp hmem
    exact hobjects entry hentry

theorem isPopulated_of_populate {values : Value} {features populated : List EgressFeature}
    (hschema : FromSchema features)
    (h : populateValuesForEgressFeatures values features = .ok populated) :
    ∀ feature ∈ populated, feature.IsPopulated := by
  obtain ⟨feats, -, -, hobjects, rfl⟩ := populateValuesForEgressFeatures_eq_ok h
  intro feature hmem
  obtain ⟨entry, hentry, rfl⟩ := List.mem_map.mp hmem
  obtain ⟨hfeat, hfeature⟩ := List.of_mem_zip hentry
  exact ⟨⟨entry.1, rfl, hobjects entry.1 hfeat⟩, hschema entry.2 hfeature⟩

theorem isPopulated_of_update {lib : Library} {cache cache' : EgressSchemaCache}
    {egressSchema id : String} {data : EgressSchemaData} {values : Value}
    {populated : List EgressFeature} (hupdate : cache.update lib egressSchema id = .ok cache')
    (hget : cache'.get id = .ok data)
    (hpopulate : populateValuesForEgressFeatures values data.features = .ok populated) :
    ∀ feature ∈ populated, feature.IsPopulated := by
  obtain ⟨jsonDoc, version, features, -, -, -, hextract, hcached⟩ :=
    EgressSchemaCache.update_eq_ok hupdate
  cases hget.symm.trans hcached
  exact isPopulated_of_populate (fromSchema_extractFeatures hextract) hpopulate

/-! ## What is written -/

def declaredBits (features : List EgressFeature) : ℕ :=
  (features.map fun feature => feature.getSize.toNat).sum

def writtenBits (features : List EgressFeature) : ℕ := (features.map EgressFeature.width).sum

/-- The features before the first whose value is not accepted. -/
def reached (features : List EgressFeature) : List EgressFeature :=
  features.takeWhile fun feature => feature.verdict = .accepted

/-- What becomes of the values, the first that is not accepted deciding. -/
def payloadVerdict (features : List EgressFeature) : Verdict :=
  features.foldr (fun feature v => feature.verdict.andThen v) .accepted

/-- The bits of the array, whose size is brought to the next byte in 32 bits. -/
def room (features : List EgressFeature) : ℕ :=
  8 * ((declaredBits features % 2 ^ 32 + 7) / 8) % 2 ^ 32

theorem payloadVerdict_eq_accepted {features : List EgressFeature} :
    payloadVerdict features = .accepted ↔ ∀ feature ∈ features, feature.verdict = .accepted := by
  induction features with
  | nil => exact iff_of_true rfl nofun
  | cons feature rest ih =>
    rw [List.forall_mem_cons, ← ih]
    exact Verdict.andThen_eq_accepted

theorem reached_cons (feature : EgressFeature) (rest : List EgressFeature) :
    reached (feature :: rest) =
      if feature.verdict = .accepted then feature :: reached rest else [] := by
  unfold reached
  rw [List.takeWhile_cons]
  simp

theorem reached_of_accepted {features : List EgressFeature}
    (h : payloadVerdict features = .accepted) : reached features = features := by
  unfold reached
  rw [List.takeWhile_eq_self_iff]
  intro feature hmem
  exact decide_eq_true (payloadVerdict_eq_accepted.mp h feature hmem)

theorem toNat_totalSize (features : List EgressFeature) :
    (totalSize features).toNat = declaredBits features % 2 ^ 32 := by
  have hfold (total : UInt32) :
      (features.foldl (fun total feature => total + feature.getSize) total).toNat =
        (total.toNat + declaredBits features) % 2 ^ 32 := by
    induction features generalizing total with
    | nil =>
      have htotal := total.toNat_lt
      show total.toNat = (total.toNat + 0) % 2 ^ 32
      omega
    | cons feature rest ih =>
      rw [List.foldl_cons, ih, UInt32.toNat_add]
      show _ = (total.toNat + (feature.getSize.toNat + declaredBits rest)) % 2 ^ 32
      omega
  rw [totalSize, hfold]
  show (0 + declaredBits features) % 2 ^ 32 = _
  rw [Nat.zero_add]

theorem toNat_roundUp (total : UInt32) :
    8 * (roundUp total / 8).toNat = 8 * ((total.toNat + 7) / 8) % 2 ^ 32 := by
  have htotal := total.toNat_lt
  have hzero : total % 8 ≠ 0 ↔ total.toNat % 8 ≠ 0 := by
    rw [ne_eq, ← UInt32.toNat_inj, UInt32.toNat_mod]
    exact Iff.rfl
  have hround : (roundUp total).toNat = 8 * ((total.toNat + 7) / 8) % 2 ^ 32 := by
    unfold roundUp
    simp only [hzero]
    split
    · rw [UInt32.toNat_mul, UInt32.toNat_add, UInt32.toNat_div]
      show (total.toNat / 8 + 1) % 2 ^ 32 * 8 % 2 ^ 32 = _
      omega
    · omega
  rw [UInt32.toNat_div, hround]
  show 8 * (_ / 8) = _
  omega

/-- The features up to the first whose value is not accepted are packed, each with the bits it
is serialized to from the last one on. -/
theorem putFeatures_spec {features : List EgressFeature}
    (hpopulated : ∀ feature ∈ features, feature.IsPopulated) {size : ℕ} {bits : List Bool}
    {p : Packing} (h : p.Packed size bits) :
    ∃ streams : List (List Bool),
      List.Forall₂ (fun feature stream => feature.serialize = .ok stream.reverse)
        (reached features) streams ∧
      (Packing.putFeatures features p).1.Packed size (bits ++ streams.flatten) ∧
      (Packing.putFeatures features p).2.verdict = payloadVerdict features := by
  -- the first feature that is not serialized ends the loop, with the bits before it packed
  induction features generalizing bits p with
  | nil =>
    refine ⟨[], .nil, ?_, rfl⟩
    rw [List.flatten_nil, List.append_nil]
    exact h
  | cons feature rest ih =>
    obtain ⟨hfeature, hrest⟩ := List.forall_mem_cons.mp hpopulated
    have hverdict := EgressFeature.verdict_serialize hfeature
    unfold Packing.putFeatures
    show ∃ streams, List.Forall₂ _ _ streams ∧ _ ∧
      _ = feature.verdict.andThen (payloadVerdict rest)
    rw [reached_cons, ← hverdict]
    cases hserialize : feature.serialize with
    | ok serializedFeature =>
      obtain ⟨streams, hstreams, hpacked, hrest⟩ := ih hrest (h.putBits serializedFeature.reverse)
      refine ⟨serializedFeature.reverse :: streams, ?_, ?_, hrest⟩
      · rw [if_pos (Outcome.verdict_ok serializedFeature)]
        refine .cons ?_ hstreams
        rw [List.reverse_reverse]
        exact hserialize
      · rw [List.flatten_cons, ← List.append_assoc]
        exact hpacked
    | error code message =>
      refine ⟨[], ?_, ?_, rfl⟩
      · rw [if_neg (by simp)]
        exact .nil
      · rw [List.flatten_nil, List.append_nil]
        exact h
    | undefined =>
      refine ⟨[], ?_, ?_, rfl⟩
      · rw [if_neg (by simp)]
        exact .nil
      · rw [List.flatten_nil, List.append_nil]
        exact h

theorem length_streams {features : List EgressFeature} {streams : List (List Bool)}
    (hpopulated : ∀ feature ∈ features, feature.IsPopulated)
    (h : List.Forall₂ (fun feature stream => feature.serialize = .ok stream.reverse)
      features streams) : streams.flatten.length = writtenBits features := by
  induction h with
  | nil => rfl
  | cons hfirst _ ih =>
    obtain ⟨hfeature, hrest⟩ := List.forall_mem_cons.mp hpopulated
    have hlength := EgressFeature.length_of_serialize hfeature hfirst
    rw [List.length_reverse] at hlength
    rw [List.flatten_cons, List.length_append, ih hrest, hlength]
    rfl

/-! ## The budget -/

/-- Nothing undefined happens; what is returned carries as many bits as the limit allows; and
every bit goes inside the array. -/
structure Serialization.KeepsBudget (s : Serialization) (egressBitLimit : UInt32) : Prop where
  defined : s.result ≠ .undefined
  budget : ∀ bytes, s.result = .ok bytes → bytes ≠ [] → s.placed.length ≤ egressBitLimit.toNat
  inside : ∀ i ∈ s.placed, 0 ≤ i ∧ i < s.size

/-- The sum of the declared sizes, in 32 bits, is zero or above the limit; or the values up to
the first that is rejected have defined encodings, which fit the array and, if none is
rejected, the limit. -/
def WithinBudget (features : List EgressFeature) (egressBitLimit : UInt32) : Prop :=
  declaredBits features % 2 ^ 32 = 0 ∨ egressBitLimit.toNat < declaredBits features % 2 ^ 32 ∨
  payloadVerdict features ≠ .undefined ∧ writtenBits (reached features) ≤ room features ∧
    (payloadVerdict features = .accepted → writtenBits features ≤ egressBitLimit.toNat)

theorem serializeEgressFeatures_of_passed {egressBitLimit : UInt32}
    {features : List EgressFeature} (hpopulated : ∀ feature ∈ features, feature.IsPopulated)
    (hzero : declaredBits features % 2 ^ 32 ≠ 0)
    (hlimit : declaredBits features % 2 ^ 32 ≤ egressBitLimit.toNat) (schemaVersion : UInt32) :
    ∃ (size : ℕ) (streams : List (List Bool)) (packing : Packing) (status : Outcome Unit),
      8 * size = room features ∧
      List.Forall₂ (fun feature stream => feature.serialize = .ok stream.reverse)
        (reached features) streams ∧
      packing.Packed size streams.flatten ∧ status.verdict = payloadVerdict features ∧
      serializeEgressFeatures schemaVersion features egressBitLimit =
        ⟨status >>= fun _ => .ok (packing.bytesArray ++ [getEgressVectorHeader schemaVersion]),
          size, packing.placed⟩ := by
  have htotal := toNat_totalSize features
  have hpos : totalSize features ≠ 0 := by
    intro h
    rw [h] at htotal
    exact hzero htotal.symm
  have hle : ¬ totalSize features > egressBitLimit := by
    rw [gt_iff_lt, UInt32.lt_iff_toNat_lt, htotal]
    omega
  have hroom : 8 * (roundUp (totalSize features) / 8).toNat = room features := by
    rw [toNat_roundUp, htotal]
    rfl
  obtain ⟨streams, hstreams, hpacked, hverdict⟩ :=
    putFeatures_spec hpopulated (Packing.packed_init (roundUp (totalSize features) / 8).toNat)
  refine ⟨_, streams, _, _, hroom, hstreams, hpacked, hverdict, ?_⟩
  unfold serializeEgressFeatures
  rw [if_neg hpos, if_neg hle]

theorem serializeEgressFeatures_of_stopped {schemaVersion egressBitLimit : UInt32}
    {features : List EgressFeature} (h : declaredBits features % 2 ^ 32 = 0 ∨
      egressBitLimit.toNat < declaredBits features % 2 ^ 32) :
    serializeEgressFeatures schemaVersion features egressBitLimit = ⟨.ok [], 0, []⟩ := by
  have htotal := toNat_totalSize features
  unfold serializeEgressFeatures
  dsimp only
  rcases h with hzero | hover
  · have hnone : totalSize features = 0 := UInt32.toNat_inj.mp (htotal.trans hzero)
    rw [if_pos hnone]
  · have hlarge : totalSize features > egressBitLimit := by
      rw [gt_iff_lt, UInt32.lt_iff_toNat_lt, htotal]
      exact hover
    rw [if_pos hlarge, ite_self]

theorem keepsBudget_iff {schemaVersion egressBitLimit : UInt32} {features : List EgressFeature}
    (hpopulated : ∀ feature ∈ features, feature.IsPopulated) :
    (serializeEgressFeatures schemaVersion features egressBitLimit).KeepsBudget egressBitLimit ↔
      WithinBudget features egressBitLimit := by
  by_cases hstopped : declaredBits features % 2 ^ 32 = 0 ∨
      egressBitLimit.toNat < declaredBits features % 2 ^ 32
  · rw [serializeEgressFeatures_of_stopped hstopped]
    apply iff_of_true
    · exact ⟨nofun, fun bytes hbytes hne => by cases hbytes; contradiction, nofun⟩
    · exact hstopped.imp id .inl
  · push Not at hstopped
    obtain ⟨hzero, hlimit⟩ := hstopped
    obtain ⟨size, streams, packing, status, hroom, hstreams, hpacked, hverdict, hrun⟩ :=
      serializeEgressFeatures_of_passed hpopulated hzero hlimit schemaVersion
    have hreached : ∀ feature ∈ reached features, feature.IsPopulated := fun feature hmem =>
      hpopulated feature ((List.takeWhile_sublist _).subset hmem)
    have hlength := length_streams hreached hstreams
    have hinside := hpacked.inside_iff
    have hcount := hpacked.length_placed
    rw [hlength, hroom] at hinside
    rw [hlength] at hcount
    rw [hrun]
    constructor
    · intro h
      refine .inr (.inr ⟨?_, hinside.mp h.inside, ?_⟩)
      · intro hundefined
        apply h.defined
        exact Outcome.bind_ok_eq_undefined.mpr (hverdict.trans hundefined)
      · intro haccepted
        obtain ⟨u, hok⟩ := Outcome.verdict_eq_accepted.mp (hverdict.trans haccepted)
        have hbudget := h.budget (packing.bytesArray ++ [getEgressVectorHeader schemaVersion])
          (by rw [hok]; rfl) (by simp)
        rw [reached_of_accepted haccepted] at hcount
        rwa [← hcount]
    · intro h
      rcases h with h | h | ⟨hdefined, hfits, hbudget⟩
      · exact absurd h hzero
      · exact absurd hlimit (by omega)
      · refine ⟨?_, ?_, hinside.mpr hfits⟩
        · intro hresult
          apply hdefined
          rw [← hverdict]
          exact Outcome.bind_ok_eq_undefined.mp hresult
        · intro bytes hresult _
          obtain ⟨u, hok, -⟩ := Outcome.bind_eq_ok.mp hresult
          have haccepted : payloadVerdict features = .accepted := by
            rw [← hverdict, hok]
            rfl
          rw [reached_of_accepted haccepted] at hcount
          rw [hcount]
          exact hbudget haccepted

/-- The features of an accepted schema keep the budget exactly if the declared sizes, added up
in 32 bits, stop the payload or leave room for what is written. -/
theorem serializeEgressFeatures_keepsBudget_iff (lib : Library) {cache cache' : EgressSchemaCache}
    {egressSchema id : String} {data : EgressSchemaData} {values : Value}
    {features : List EgressFeature} (hupdate : cache.update lib egressSchema id = .ok cache')
    (hget : cache'.get id = .ok data)
    (hpopulate : populateValuesForEgressFeatures values data.features = .ok features)
    (egressBitLimit : UInt32) :
    (serializeEgressFeatures data.version features egressBitLimit).KeepsBudget egressBitLimit ↔
      WithinBudget features egressBitLimit :=
  keepsBudget_iff (isPopulated_of_update hupdate hget hpopulate)

/-! ### Examples -/

def schemaLibrary (egressSchema : String) (document : Value) : Library where
  parseJsonString text := if text = egressSchema then .ok document else .error "not the schema"
  validateJsonStr _ text := text = egressSchema ∧ (schemaLayout? document).isSome
  cddlSpec := "schema"

theorem validates_schemaLibrary (egressSchema : String) (document : Value) :
    (schemaLibrary egressSchema document).Validates := by
  intro schema document' hparse hvalid
  obtain ⟨rfl, hlayout⟩ := of_decide_eq_true hvalid
  have hsame : (schemaLibrary schema document).parseJsonString schema = .ok document :=
    if_pos rfl
  cases hsame.symm.trans hparse
  exact hlayout

def unsignedType (size : ℤ) : Value :=
  .object [("name", .string "unsigned-integer-feature"), ("size", .int size)]

def schemaDocument (features : List Value) : Value :=
  .object [("cddl_version", .string "1.0.0"), ("version", .int 2), ("features", .array features)]

def unsignedValue (n : ℤ) : Value :=
  .object [("name", .string "unsigned-integer-feature"), ("value", .int n)]

def payloadDocument (features : List Value) : Value := .object [("features", .array features)]

def wrappingSchema : String :=
  "\x7b\"cddl_version\":\"1.0.0\",\"version\":2,\"features\":[" ++
    "\x7b\"name\":\"unsigned-integer-feature\",\"size\":4294967295\x7d," ++
    "\x7b\"name\":\"unsigned-integer-feature\",\"size\":9\x7d]\x7d"

def wrappingDocument : Value := schemaDocument [unsignedType 4294967295, unsignedType 9]

def wrappingFeatures : List EgressFeature :=
  [{ featureType := .unsignedIntFeature, size := 4294967295, value := some (unsignedValue 0) },
    { featureType := .unsignedIntFeature, size := 9, value := some (unsignedValue 511) }]

theorem update_wrappingSchema : ∃ cache' data,
    EgressSchemaCache.update (schemaLibrary wrappingSchema wrappingDocument) ∅ wrappingSchema "" =
      .ok cache' ∧ cache'.get "" = .ok data ∧
    populateValuesForEgressFeatures (payloadDocument [unsignedValue 0, unsignedValue 511])
      data.features = .ok wrappingFeatures :=
  ⟨_, _, rfl, rfl, rfl⟩

theorem not_withinBudget_wrappingFeatures : ¬ WithinBudget wrappingFeatures 20 := by
  have hdeclared : declaredBits wrappingFeatures = 4294967304 := rfl
  have hroom : room wrappingFeatures = 8 := rfl
  have haccepted : payloadVerdict wrappingFeatures = .accepted := by
    rw [payloadVerdict_eq_accepted]
    intro feature hmem
    simp only [wrappingFeatures, List.mem_cons, List.not_mem_nil, or_false] at hmem
    rcases hmem with rfl | rfl
    · exact unsignedVerdict_zero 4294967295
    · rfl
  have hwritten : writtenBits wrappingFeatures = 4294967304 := rfl
  rintro (hzero | hover | ⟨-, hfits, -⟩)
  · rw [hdeclared] at hzero
    cases hzero
  · rw [hdeclared] at hover
    exact absurd hover (by decide)
  · rw [reached_of_accepted haccepted, hwritten, hroom] at hfits
    omega

/-- Sizes of 4294967295 and 9 bits pass a limit of 20. -/
theorem keepsBudget_false : ¬ ∀ (lib : Library) (cache cache' : EgressSchemaCache)
    (egressSchema id : String) (data : EgressSchemaData) (values : Value)
    (features : List EgressFeature) (egressBitLimit : UInt32), lib.Validates →
    cache.update lib egressSchema id = .ok cache' → cache'.get id = .ok data →
    populateValuesForEgressFeatures values data.features = .ok features →
    (serializeEgressFeatures data.version features egressBitLimit).KeepsBudget egressBitLimit := by
  intro h
  obtain ⟨cache', data, hupdate, hget, hpopulate⟩ := update_wrappingSchema
  have hkeeps := h _ _ _ _ _ _ _ _ 20 (validates_schemaLibrary _ _) hupdate hget hpopulate
  have hpopulated := isPopulated_of_update hupdate hget hpopulate
  exact not_withinBudget_wrappingFeatures ((keepsBudget_iff hpopulated).mp hkeeps)

def smallSchema : String :=
  "\x7b\"cddl_version\":\"1.0.0\",\"version\":2,\"features\":[" ++
    "\x7b\"name\":\"boolean-feature\"\x7d," ++
    "\x7b\"name\":\"unsigned-integer-feature\",\"size\":4\x7d]\x7d"

def smallDocument : Value :=
  schemaDocument [.object [("name", .string "boolean-feature")], unsignedType 4]

def smallPayload : Value :=
  payloadDocument [.object [("name", .string "boolean-feature"), ("value", .bool true)],
    unsignedValue 9]

theorem serializeEgressFeatures_keepsBudget_iff_example : ∃ cache' data features,
    EgressSchemaCache.update (schemaLibrary smallSchema smallDocument) ∅ smallSchema "" =
      .ok cache' ∧ cache'.get "" = .ok data ∧
    populateValuesForEgressFeatures smallPayload data.features = .ok features ∧
    (serializeEgressFeatures data.version features 20).KeepsBudget 20 := by
  obtain ⟨cache', data, features, hupdate, hget, hpopulate, hwithin⟩ : ∃ cache' data features,
      EgressSchemaCache.update (schemaLibrary smallSchema smallDocument) ∅ smallSchema "" =
        .ok cache' ∧ cache'.get "" = .ok data ∧
      populateValuesForEgressFeatures smallPayload data.features = .ok features ∧
      WithinBudget features 20 := by
    refine ⟨_, _, _, rfl, rfl, rfl, .inr (.inr ⟨?_, ?_, ?_⟩)⟩
    · decide
    · decide
    · decide
  exact ⟨cache', data, features, hupdate, hget, hpopulate,
    (serializeEgressFeatures_keepsBudget_iff _ hupdate hget hpopulate 20).mpr hwithin⟩

end Egress

end BiddingAuction

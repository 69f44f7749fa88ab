import BiddingAuction.Egress.Budget

/-!
# Reading egress payloads

Who has the schema can read a payload: the bits of the last byte first, each byte from its
least significant bit, feature after feature as wide as the schema says.
-/

namespace BiddingAuction

open Foundation

namespace Egress

/-! ## Values of features -/

inductive Reading where
  | boolean (b : Bool)
  | number (n : ℤ)
  | bucket (values : List Bool)
  | histogram (numbers : List ℤ)
deriving DecidableEq, Repr

namespace Value

def integer? : Value → Option ℤ
  | int n => some n
  | _ => none

def number? (feat : Value) : Option ℤ := feat.ifPresent integer? "value"

end Value

namespace FeatureLayout

def valueOf? : FeatureLayout → Value → Option Reading
  | boolean, feat => (feat.ifPresent Value.bool? "value").map .boolean
  | number _, feat => feat.number?.map .number
  | bucket _, feat => ((feat.ifPresent Value.array? "value").bind bucketValues?).map .bucket
  | histogram entries, feat =>
    ((feat.ifPresent Value.array? "value").bind fun numbers =>
      (entries.zip numbers).mapM fun entry => entry.2.number?).map .histogram

end FeatureLayout

def SchemaLayout.valuesOf? (schema : SchemaLayout) (values : Value) : Option (List Reading) :=
  (values.ifPresent Value.array? "features").bind fun feats =>
    (schema.features.zip feats).mapM fun item => item.1.valueOf? item.2

/-! ## The reader -/

namespace NumberLayout

def size : NumberLayout → ℕ
  | unsigned size | signed size => size

def name : NumberLayout → String
  | unsigned _ => "unsigned-integer-feature"
  | signed _ => "signed-integer-feature"

/-- An unsigned number is read in binary, a signed one in two's complement. -/
def read (layout : NumberLayout) (stream : List Bool) : Option (ℤ × List Bool) :=
  (takeBits layout.size stream).map fun taken =>
    match layout with
    | unsigned _ => (ofLowBits taken.1, taken.2)
    | signed _ => (ofTwosComplement taken.1, taken.2)

end NumberLayout

namespace FeatureLayout

def bits : FeatureLayout → ℕ
  | boolean => 1
  | number layout => layout.size
  | bucket size => size
  | histogram entries => (entries.map NumberLayout.size).sum

/-- Buckets and histograms are read from the first entry on. -/
def read : FeatureLayout → List Bool → Option (Reading × List Bool)
  | boolean, stream =>
    (takeBits 1 stream).map fun taken => (.boolean (taken.1.headD false), taken.2)
  | number layout, stream => (layout.read stream).map fun taken => (.number taken.1, taken.2)
  | bucket size, stream => (takeBits size stream).map fun taken => (.bucket taken.1, taken.2)
  | histogram entries, stream =>
    (readEach NumberLayout.read entries stream).map fun taken => (.histogram taken.1, taken.2)

end FeatureLayout

namespace SchemaLayout

def bits (schema : SchemaLayout) : ℕ := (schema.features.map FeatureLayout.bits).sum

/-- The last byte is the version, shifted; the features are in the bytes before it, and what
they leave is zero. -/
def decode (schema : SchemaLayout) (payload : List UInt8) : Option (List Reading) := do
  let header ← payload.getLast?
  let (readings, padding) ←
    readEach FeatureLayout.read schema.features (bitStream payload.dropLast)
  if header.toNat = schema.version <<< 5 ∧ padding.all (! ·) then some readings else none

end SchemaLayout

/-- Nothing undefined happens; and from a payload that is returned its values are read. -/
def Serialization.Recoverable (s : Serialization) (schema : SchemaLayout) (values : Value) : Prop :=
  s.result ≠ .undefined ∧ ∀ bytes, s.result = .ok bytes → bytes ≠ [] →
    ∃ readings, schema.valuesOf? values = some readings ∧ schema.decode bytes = some readings

/-! ## Widths -/

theorem NumberLayout.length_of_read {layout : NumberLayout} {stream : List Bool}
    {taken : ℤ × List Bool} (h : layout.read stream = some taken) :
    stream.length = layout.size + taken.2.length := by
  obtain ⟨bits, hbits, rfl⟩ := Option.map_eq_some_iff.mp h
  rw [takeBits_eq_some hbits]
  cases layout <;> rfl

theorem FeatureLayout.length_of_read {layout : FeatureLayout} {stream : List Bool}
    {taken : Reading × List Bool} (h : layout.read stream = some taken) :
    stream.length = layout.bits + taken.2.length := by
  cases layout with
  | boolean =>
    obtain ⟨bits, hbits, rfl⟩ := Option.map_eq_some_iff.mp h
    exact takeBits_eq_some hbits
  | number layout =>
    obtain ⟨number, hnumber, rfl⟩ := Option.map_eq_some_iff.mp h
    exact NumberLayout.length_of_read hnumber
  | bucket size =>
    obtain ⟨bits, hbits, rfl⟩ := Option.map_eq_some_iff.mp h
    exact takeBits_eq_some hbits
  | histogram entries =>
    obtain ⟨numbers, hnumbers, rfl⟩ := Option.map_eq_some_iff.mp h
    exact length_of_readEach hnumbers NumberLayout.length_of_read

theorem SchemaLayout.bits_le_of_decode {schema : SchemaLayout} {payload : List UInt8}
    {readings : List Reading} (h : schema.decode payload = some readings) :
    schema.bits ≤ 8 * payload.dropLast.length := by
  obtain ⟨header, -, h⟩ := Option.bind_eq_some_iff.mp h
  obtain ⟨result, hresult, -⟩ := Option.bind_eq_some_iff.mp h
  have hlength := length_of_readEach hresult FeatureLayout.length_of_read
  rw [length_bitStream] at hlength
  unfold bits
  omega

/-! ## What a schema describes -/

/-- A size that an unsigned `int` holds is in the schema of the number. -/
structure NumberLayout.Describes (layout : NumberLayout) (featSchema : Value) : Prop where
  name : featName featSchema = layout.name
  size : layout.size < 2 ^ 32 →
    featSchema.ifPresent Value.uint? "size" = some (UInt32.ofNat layout.size)

/-- The feature is of the kind that the schema declares, and of the size if an unsigned `int`
holds it. -/
def FeatureLayout.Describes (feature : EgressFeature) : FeatureLayout → Prop
  | boolean => feature.featureType = .booleanFeature ∧ feature.size = 1
  | number (.unsigned size) =>
    feature.featureType = .unsignedIntFeature ∧ (size < 2 ^ 32 → feature.size.toNat = size)
  | number (.signed size) =>
    feature.featureType = .signedIntFeature ∧ (size < 2 ^ 32 → feature.size.toNat = size)
  | bucket size =>
    feature.featureType = .bucketFeature ∧ (size < 2 ^ 32 → feature.size.toNat = size)
  | histogram entries => feature.featureType = .histogramFeature ∧
      List.Forall₂ NumberLayout.Describes entries feature.histogramSchema ∧
      feature.schemaValue.ifPresent Value.array? "value" = some feature.histogramSchema

theorem findMember_eq_none {keys : List String} {value : Value} (h : value.hasKeys keys = true)
    {key : String} (hkey : key ∉ keys) : value.findMember key = none := by
  cases value with
  | object members =>
    have hperm : (members.map Prod.fst).Perm keys := List.isPerm_iff.mp h
    show (members.find? _).map Prod.snd = none
    rw [Option.map_eq_none_iff, List.find?_eq_none]
    intro member hmem
    have hin := hperm.mem_iff.mp (List.mem_map_of_mem hmem)
    rw [decide_eq_true_eq]
    rintro rfl
    exact hkey hin
  | _ => cases h

theorem string?_of_text? {value : Value} {key name : String}
    (h : value.ifPresent Value.text? key = some name) :
    value.ifPresent Value.string? key = some (cString name) := by
  obtain ⟨member, hmember, hread⟩ := Option.bind_eq_some_iff.mp h
  unfold Value.ifPresent
  rw [hmember]
  cases member with
  | string s =>
    cases hread
    rfl
  | _ => cases hread

/-- A size of the CDDL is the size that the code reads, where an unsigned `int` holds it. -/
theorem uint?_of_natural? {value : Value} {key : String} {n : ℕ}
    (h : value.ifPresent Value.natural? key = some n) (hn : n < 2 ^ 32) :
    value.ifPresent Value.uint? key = some (UInt32.ofNat n) := by
  obtain ⟨member, hmember, hread⟩ := Option.bind_eq_some_iff.mp h
  unfold Value.ifPresent
  rw [hmember]
  cases member with
  | int m =>
    simp only [Value.natural?, Option.ite_none_right_eq_some, Option.some.injEq] at hread
    obtain ⟨hbounds, rfl⟩ := hread
    exact if_pos ⟨hbounds.1, by omega⟩
  | _ => cases hread

theorem createEgressFeature_eq (size : UInt32) (value : Value) (featureType : FeatureType)
    (h : featureType ≠ .histogramFeature) :
    createEgressFeature featureType.type size value = .ok { featureType, size } := by
  cases featureType with
  | histogramFeature => exact absurd rfl h
  | _ => rfl

theorem featName_of_text? {value : Value} (featureType : FeatureType)
    (h : value.ifPresent Value.text? "name" = some featureType.type) :
    featName value = featureType.type := by
  unfold featName
  rw [string?_of_text? h]
  cases featureType <;> rfl

theorem describes_of_numberLayout? {value : Value} {layout : NumberLayout}
    (h : numberLayout? value = some layout) : layout.Describes value := by
  unfold numberLayout? at h
  split at h
  · split at h
    · rename_i size hname hsize
      cases h
      exact ⟨featName_of_text? .unsignedIntFeature hname, uint?_of_natural? hsize⟩
    · rename_i size hname hsize
      cases h
      exact ⟨featName_of_text? .signedIntFeature hname, uint?_of_natural? hsize⟩
    · cases h
  · cases h

/-- The declared size is the one of the feature, where an unsigned `int` holds it. -/
theorem toNat_getD_uint? {value : Value} {n : ℕ}
    (h : n < 2 ^ 32 → value.ifPresent Value.uint? "size" = some (UInt32.ofNat n))
    (hn : n < 2 ^ 32) (d : UInt32) :
    ((value.ifPresent Value.uint? "size").getD d).toNat = n := by
  rw [h hn, Option.getD_some]
  exact UInt32.toNat_ofNat_of_lt' hn

theorem describes_of_booleanLayout? {value : Value} {layout : FeatureLayout}
    {feature : EgressFeature} (hlayout : booleanLayout? value = some layout)
    (hcreate : createEgressFeature (featName value)
      ((value.ifPresent Value.uint? "size").getD 1) value = .ok feature) :
    layout.Describes feature := by
  unfold booleanLayout? at hlayout
  split at hlayout
  · rename_i hconforms
    cases hlayout
    -- the schema of a boolean has no size, so the default stays
    have hsize : value.ifPresent Value.uint? "size" = none := by
      unfold Value.ifPresent
      rw [findMember_eq_none hconforms.1 (by decide)]
      rfl
    rw [featName_of_text? .booleanFeature hconforms.2, hsize,
      createEgressFeature_eq _ _ _ (by decide)] at hcreate
    cases hcreate
    exact ⟨rfl, rfl⟩
  · cases hlayout

theorem NumberLayout.Describes.number {value : Value} {layout : NumberLayout}
    {feature : EgressFeature} (h : layout.Describes value)
    (hcreate : createEgressFeature (featName value)
      ((value.ifPresent Value.uint? "size").getD 1) value = .ok feature) :
    (FeatureLayout.number layout).Describes feature := by
  have hsize := toNat_getD_uint? h.size
  rw [h.name] at hcreate
  cases layout with
  | unsigned size =>
    cases hcreate
    exact ⟨rfl, fun hlt => hsize hlt 1⟩
  | signed size =>
    cases hcreate
    exact ⟨rfl, fun hlt => hsize hlt 1⟩

theorem describes_of_bucketLayout? {value : Value} {layout : FeatureLayout}
    {feature : EgressFeature} (hlayout : bucketLayout? value = some layout)
    (hcreate : createEgressFeature (featName value)
      ((value.ifPresent Value.uint? "size").getD 1) value = .ok feature) :
    layout.Describes feature := by
  unfold bucketLayout? at hlayout
  split at hlayout
  · rename_i hconforms
    obtain ⟨size, hsize, rfl⟩ := Option.map_eq_some_iff.mp hlayout
    rw [featName_of_text? .bucketFeature hconforms.2,
      createEgressFeature_eq _ _ _ (by decide)] at hcreate
    cases hcreate
    exact ⟨rfl, fun hlt => toNat_getD_uint? (uint?_of_natural? hsize) hlt 1⟩
  · cases hlayout

theorem describes_of_histogramLayout? {value : Value} {layout : FeatureLayout}
    {feature : EgressFeature} (hlayout : histogramLayout? value = some layout)
    (hcreate : createEgressFeature (featName value)
      ((value.ifPresent Value.uint? "size").getD 1) value = .ok feature) :
    layout.Describes feature := by
  unfold histogramLayout? at hlayout
  split at hlayout
  · rename_i hconforms
    rw [featName_of_text? .histogramFeature hconforms.2.1] at hcreate
    cases hcreate
    split at hlayout
    · rename_i first rest hentries
      obtain ⟨entries, hnumbers, rfl⟩ := Option.map_eq_some_iff.mp hlayout
      have hschema : (value.ifPresent Value.array? "value").getD [] = first :: rest := by
        rw [hentries]
        rfl
      refine ⟨rfl, ?_, ?_⟩
      · show List.Forall₂ _ entries ((value.ifPresent Value.array? "value").getD [])
        rw [hschema]
        exact ((mapM_eq_some.mp hnumbers).imp fun _ _ => describes_of_numberLayout?).flip
      · show value.ifPresent Value.array? "value" =
          some ((value.ifPresent Value.array? "value").getD [])
        rw [hentries]
        rfl
    · cases hlayout
  · cases hlayout

theorem describes_of_featureLayout? {feat : Value × ℕ} {layout : FeatureLayout}
    {feature : EgressFeature} (hlayout : featureLayout? feat.1 = some layout)
    (hfeature : extractFeature feat = .ok feature) : layout.Describes feature := by
  obtain ⟨-, hcreate⟩ := extractFeature_eq_ok hfeature
  unfold featureLayout? at hlayout
  rcases Option.or_eq_some_iff.mp hlayout with hboolean | ⟨-, hlayout⟩
  · exact describes_of_booleanLayout? hboolean hcreate
  rcases Option.or_eq_some_iff.mp hlayout with hkind | ⟨-, hlayout⟩
  · obtain ⟨number, hnumber, rfl⟩ := Option.map_eq_some_iff.mp hkind
    exact (describes_of_numberLayout? hnumber).number hcreate
  rcases Option.or_eq_some_iff.mp hlayout with hbucket | ⟨-, hhistogram⟩
  · exact describes_of_bucketLayout? hbucket hcreate
  · exact describes_of_histogramLayout? hhistogram hcreate

theorem describes_of_mapM {feats : List Value} {k : ℕ} {layouts : List FeatureLayout}
    {features : List EgressFeature} (hlayouts : feats.mapM featureLayout? = some layouts)
    (hfeatures : (feats.zipIdx k).mapM extractFeature = .ok features) :
    List.Forall₂ FeatureLayout.Describes features layouts := by
  induction feats generalizing k layouts features with
  | nil =>
    cases hlayouts
    cases hfeatures
    exact .nil
  | cons feat rest ih =>
    rw [List.mapM_cons] at hlayouts
    obtain ⟨layout, hlayout, hlayouts⟩ := Option.bind_eq_some_iff.mp hlayouts
    obtain ⟨layouts', hrest, hlayouts⟩ := Option.bind_eq_some_iff.mp hlayouts
    cases hlayouts
    rw [List.zipIdx_cons, List.mapM_cons] at hfeatures
    obtain ⟨feature, hfeature, hfeatures⟩ := Outcome.bind_eq_ok.mp hfeatures
    obtain ⟨features', hothers, hfeatures⟩ := Outcome.bind_eq_ok.mp hfeatures
    cases hfeatures
    exact .cons (describes_of_featureLayout? hlayout hfeature) (ih hrest hothers)

theorem int?_of_natural? {value : Value} {key : String} {n : ℕ} {m : ℤ}
    (h : value.ifPresent Value.natural? key = some n) (hm : value.getIntMember key = .ok m) :
    m = n := by
  obtain ⟨member, hmember, hread⟩ := Option.bind_eq_some_iff.mp h
  obtain ⟨member', hmember', hint⟩ := Option.bind_eq_some_iff.mp (getMember_eq_ok hm)
  cases hmember.symm.trans hmember'
  rw [(int?_eq_some hint).1] at hread
  simp only [Value.natural?, Option.ite_none_right_eq_some, Option.some.injEq] at hread
  omega

theorem describes_of_schemaLayout? {jsonDoc : Value} {schema : SchemaLayout} {version : ℤ}
    {features : List EgressFeature} (hschema : schemaLayout? jsonDoc = some schema)
    (hversion : jsonDoc.getIntMember "version" = .ok version)
    (hfeatures : extractFeatures jsonDoc = .ok features) :
    schema.version ≤ 7 ∧ version = schema.version ∧
      List.Forall₂ FeatureLayout.Describes features schema.features := by
  unfold schemaLayout? at hschema
  split at hschema
  · split at hschema
    · rename_i number feats hnumber hfeats
      split at hschema
      · rename_i hle
        obtain ⟨layouts, hlayouts, rfl⟩ := Option.map_eq_some_iff.mp hschema
        unfold extractFeatures at hfeatures
        rw [getArrayMember_of_some hfeats, Outcome.ok_bind] at hfeatures
        exact ⟨hle, int?_of_natural? hnumber hversion, describes_of_mapM hlayouts hfeatures⟩
      · cases hschema
    · cases hschema
  · cases hschema

/-! ## Sizes -/

theorem NumberLayout.Describes.entrySize_eq {layout : NumberLayout} {featSchema : Value}
    (h : layout.Describes featSchema) (hsmall : layout.size < 2 ^ 32) :
    entrySize featSchema = layout.size :=
  toNat_getD_uint? h.size hsmall 0

theorem toNat_foldl_sizes {entries : List NumberLayout} {schemas : List Value}
    (h : List.Forall₂ NumberLayout.Describes entries schemas) {sizes : UInt32 × UInt32}
    (hsmall : sizes.2.toNat + (entries.map NumberLayout.size).sum < 2 ^ 32) :
    (schemas.foldl (fun (sizes : UInt32 × UInt32) featSchema =>
      let featSize := (featSchema.ifPresent Value.uint? "size").getD sizes.1
      (featSize, sizes.2 + featSize)) sizes).2.toNat =
        sizes.2.toNat + (entries.map NumberLayout.size).sum := by
  induction h generalizing sizes with
  | nil => rfl
  | @cons layout featSchema entries schemas hfirst _ ih =>
    rw [List.map_cons, List.sum_cons] at hsmall ⊢
    -- the size is there, so that of the number before it does not matter
    have hsize := toNat_getD_uint? hfirst.size (by omega) sizes.1
    have hadd : (sizes.2 + (featSchema.ifPresent Value.uint? "size").getD sizes.1).toNat =
        sizes.2.toNat + layout.size := by
      rw [UInt32.toNat_add, hsize]
      omega
    rw [List.foldl_cons]
    dsimp only
    rw [ih]
    · dsimp only
      rw [hadd]
      omega
    · dsimp only
      rw [hadd]
      omega

theorem sum_entrySize {entries : List NumberLayout} {schemas : List Value}
    (h : List.Forall₂ NumberLayout.Describes entries schemas)
    (hsmall : (entries.map NumberLayout.size).sum < 2 ^ 32) :
    (schemas.map entrySize).sum = (entries.map NumberLayout.size).sum := by
  induction h with
  | nil => rfl
  | @cons layout featSchema entries schemas hfirst _ ih =>
    rw [List.map_cons, List.sum_cons] at hsmall
    rw [List.map_cons, List.sum_cons, List.map_cons, List.sum_cons, ih (by omega),
      hfirst.entrySize_eq (by omega)]

namespace FeatureLayout

variable {layout : FeatureLayout} {feature : EgressFeature}

theorem Describes.getSize (h : layout.Describes feature) (hsmall : layout.bits < 2 ^ 32) :
    feature.getSize.toNat = layout.bits := by
  unfold EgressFeature.getSize
  cases layout with
  | boolean =>
    rw [h.1, h.2]
    rfl
  | number number =>
    cases number with
    | unsigned size =>
      rw [h.1]
      exact h.2 hsmall
    | signed size =>
      rw [h.1]
      exact h.2 hsmall
  | bucket size =>
    rw [h.1]
    exact h.2 hsmall
  | histogram entries =>
    obtain ⟨htype, hentries, hschema⟩ := h
    rw [htype]
    show (histogramSize feature.schemaValue).toNat = _
    unfold histogramSize
    rw [getArrayMember_of_some hschema]
    have hsum := @toNat_foldl_sizes _ _ hentries (0, 0)
    rw [UInt32.toNat_zero, Nat.zero_add] at hsum
    exact hsum hsmall

theorem Describes.width (h : layout.Describes feature) (hsmall : layout.bits < 2 ^ 32) :
    feature.width = layout.bits := by
  unfold EgressFeature.width
  cases layout with
  | boolean =>
    rw [h.1]
    rfl
  | number number =>
    cases number with
    | unsigned size =>
      rw [h.1]
      exact h.2 hsmall
    | signed size =>
      rw [h.1]
      exact h.2 hsmall
  | bucket size =>
    rw [h.1]
    exact h.2 hsmall
  | histogram entries =>
    obtain ⟨htype, hentries, -⟩ := h
    rw [htype]
    exact sum_entrySize hentries hsmall

end FeatureLayout

theorem sizes_of_describes {features : List EgressFeature} {layouts : List FeatureLayout}
    (h : List.Forall₂ FeatureLayout.Describes features layouts)
    (hsmall : (layouts.map FeatureLayout.bits).sum < 2 ^ 32) :
    declaredBits features = (layouts.map FeatureLayout.bits).sum ∧
      writtenBits features = (layouts.map FeatureLayout.bits).sum := by
  induction h with
  | nil => exact ⟨rfl, rfl⟩
  | @cons feature layout features layouts hfirst _ ih =>
    rw [List.map_cons, List.sum_cons] at hsmall
    obtain ⟨hdeclared, hwritten⟩ := ih (by omega)
    have hsize := hfirst.getSize (by omega)
    have hwidth := hfirst.width (by omega)
    rw [List.map_cons, List.sum_cons, ← hsize]
    constructor
    · rw [← hdeclared]
      rfl
    · rw [← hwritten, hsize, ← hwidth]
      rfl

/-! ## Reading back -/

theorem NumberLayout.read_of_unsigned {size : ℕ} {stream : List Bool} {n : ℕ}
    (hn : n < 2 ^ size) (hstream : stream = lowBits size n) (rest : List Bool) :
    (NumberLayout.unsigned size).read (stream ++ rest) = some ((n : ℤ), rest) := by
  have hlength : stream.length = size := by
    rw [hstream, length_lowBits]
  unfold NumberLayout.read
  show (takeBits size (stream ++ rest)).map _ = _
  rw [takeBits_append hlength, Option.map_some, hstream, ofLowBits_lowBits hn]

theorem NumberLayout.read_of_signed {size : ℕ} {stream : List Bool} {n : ℤ}
    (hlength : stream.length = size) (hn : ofTwosComplement stream = n) (rest : List Bool) :
    (NumberLayout.signed size).read (stream ++ rest) = some (n, rest) := by
  unfold NumberLayout.read
  show (takeBits size (stream ++ rest)).map _ = _
  rw [takeBits_append hlength, Option.map_some, hn]

theorem number?_eq_some {feat : Value} {n : ℤ} (h : feat.findMember "value" = some (.int n)) :
    feat.number? = some n := by
  unfold Value.number? Value.ifPresent
  rw [h]
  rfl

theorem read_serializeUnsignedInt {size : UInt32} {feat : Value} {stream : List Bool}
    (h : serializeUnsignedInt size (some feat) = .ok stream.reverse) :
    ∃ n, feat.number? = some n ∧ ∀ rest,
      (NumberLayout.unsigned size.toNat).read (stream ++ rest) = some (n, rest) := by
  obtain ⟨n, hvalue, hn, hbits⟩ := serializeUnsignedInt_eq_ok h
  rw [List.reverse_reverse] at hbits
  exact ⟨n, number?_eq_some hvalue, NumberLayout.read_of_unsigned hn hbits⟩

theorem read_serializeSignedInt {size : UInt32} {feat : Value} {stream : List Bool}
    (h : serializeSignedInt size (some feat) = .ok stream.reverse) :
    ∃ n, feat.number? = some n ∧ ∀ rest,
      (NumberLayout.signed size.toNat).read (stream ++ rest) = some (n, rest) := by
  obtain ⟨n, hvalue, hlength, hn⟩ := serializeSignedInt_eq_ok h
  rw [List.length_reverse] at hlength
  rw [List.reverse_reverse] at hn
  exact ⟨n, number?_eq_some hvalue, NumberLayout.read_of_signed hlength hn⟩

theorem read_serializeHistogramEntry {layout : NumberLayout} {featSchema feat : Value}
    {stream : List Bool} (hdescribes : layout.Describes featSchema)
    (hsmall : layout.size < 2 ^ 32)
    (h : serializeHistogramEntry featSchema feat = .ok stream.reverse) :
    ∃ n, feat.number? = some n ∧ ∀ rest, layout.read (stream ++ rest) = some (n, rest) := by
  have hentry := hdescribes.entrySize_eq hsmall
  have hname := hdescribes.name
  rcases serializeHistogramEntry_eq_ok h with
    ⟨hunsigned, size, hsize, hok⟩ | ⟨hsigned, size, hsize, hok⟩
  · cases layout with
    | unsigned width =>
      have hread := read_serializeUnsignedInt hok
      rw [hsize, hentry] at hread
      exact hread
    | signed width =>
      rw [hunsigned] at hname
      change "unsigned-integer-feature" = "signed-integer-feature" at hname
      exact absurd hname (by decide)
  · cases layout with
    | unsigned width =>
      rw [hsigned] at hname
      change "signed-integer-feature" = "unsigned-integer-feature" at hname
      exact absurd hname (by decide)
    | signed width =>
      have hread := read_serializeSignedInt hok
      rw [hsize, hentry] at hread
      exact hread

theorem read_histogramEntries {entries : List NumberLayout} {schemas feats : List Value}
    {bitss : List (List Bool)} (hdescribes : List.Forall₂ NumberLayout.Describes entries schemas)
    (hsmall : (entries.map NumberLayout.size).sum < 2 ^ 32)
    (hlength : feats.length = schemas.length)
    (h : List.Forall₂ (fun entry bits => serializeHistogramEntry entry.1 entry.2 = .ok bits)
      (schemas.zip feats) bitss) :
    List.Forall₂ (fun item piece => ∃ n, item.2.number? = some n ∧
      ∀ rest, item.1.read (piece ++ rest) = some (n, rest))
      (entries.zip feats) (bitss.map List.reverse) := by
  induction hdescribes generalizing feats bitss with
  | nil =>
    cases h
    exact .nil
  | @cons layout featSchema entries schemas hfirst _ ih =>
    rw [List.map_cons, List.sum_cons] at hsmall
    cases feats with
    | nil => cases hlength
    | cons feat feats =>
      rw [List.zip_cons_cons] at h
      cases h with
      | cons hentry hrest =>
        refine .cons ?_ (ih (by omega) (Nat.succ.inj hlength) hrest)
        apply read_serializeHistogramEntry hfirst (by omega)
        rw [List.reverse_reverse]
        exact hentry

theorem read_serializeBoolean {feat : Value} {stream : List Bool}
    (h : serializeBoolean (some feat) = .ok stream.reverse) :
    ∃ reading, FeatureLayout.boolean.valueOf? feat = some reading ∧
      ∀ rest, FeatureLayout.boolean.read (stream ++ rest) = some (reading, rest) := by
  unfold serializeBoolean at h
  dsimp only at h
  cases hbool : feat.ifPresent Value.bool? "value" with
  | none =>
    rw [hbool] at h
    cases h
  | some b =>
    rw [hbool] at h
    have hstream : stream = [b] := by
      have hreverse := congrArg List.reverse (Outcome.ok.inj h)
      rw [List.reverse_reverse] at hreverse
      exact hreverse.symm
    refine ⟨.boolean b, ?_, fun rest => ?_⟩
    · show (feat.ifPresent Value.bool? "value").map _ = _
      rw [hbool]
      rfl
    · show (takeBits 1 (stream ++ rest)).map _ = _
      rw [takeBits_append (by rw [hstream]; rfl), hstream]
      rfl

theorem FeatureLayout.read_number {layout : NumberLayout} {feat : Value} {stream : List Bool}
    (h : ∃ n, feat.number? = some n ∧ ∀ rest, layout.read (stream ++ rest) = some (n, rest)) :
    ∃ reading, (number layout).valueOf? feat = some reading ∧
      ∀ rest, (number layout).read (stream ++ rest) = some (reading, rest) := by
  obtain ⟨n, hn, hread⟩ := h
  refine ⟨.number n, ?_, fun rest => ?_⟩
  · show feat.number?.map _ = _
    rw [hn]
    rfl
  · show (layout.read (stream ++ rest)).map _ = _
    rw [hread]
    rfl

theorem read_serializeBucket {size : UInt32} {feat : Value} {stream : List Bool}
    (h : serializeBucket size (some feat) = .ok stream.reverse) :
    ∃ reading, (FeatureLayout.bucket size.toNat).valueOf? feat = some reading ∧
      ∀ rest, (FeatureLayout.bucket size.toNat).read (stream ++ rest) = some (reading, rest) := by
  obtain ⟨buckets, hbuckets, hlength, hvalues⟩ := serializeBucket_eq_ok h
  rw [List.length_reverse] at hlength
  rw [List.reverse_reverse] at hvalues
  refine ⟨.bucket stream, ?_, fun rest => ?_⟩
  · show ((feat.ifPresent Value.array? "value").bind bucketValues?).map _ = _
    rw [hbuckets, Option.bind_some, hvalues]
    rfl
  · show (takeBits size.toNat (stream ++ rest)).map _ = _
    rw [takeBits_append hlength]
    rfl

theorem read_serializeHistogram {size : UInt32} {schemaValue feat : Value}
    {schemas : List Value} {entries : List NumberLayout} {stream : List Bool}
    (hentries : List.Forall₂ NumberLayout.Describes entries schemas)
    (hschema : schemaValue.ifPresent Value.array? "value" = some schemas)
    (hsmall : (entries.map NumberLayout.size).sum < 2 ^ 32)
    (h : serializeHistogram size schemaValue (some feat) = .ok stream.reverse) :
    ∃ reading, (FeatureLayout.histogram entries).valueOf? feat = some reading ∧
      ∀ rest, (FeatureLayout.histogram entries).read (stream ++ rest) = some (reading, rest) := by
  obtain ⟨histogramVal, schemas', bitss, hval, hschemas, hlength, hok, hbits⟩ :=
    serializeHistogram_eq_ok h
  cases hschema.symm.trans hschemas
  -- all bits were reversed at once, so the first number is written last
  have hstream : stream = (bitss.map List.reverse).flatten := by
    have hreverse := congrArg List.reverse hbits
    rw [List.reverse_reverse] at hreverse
    rw [hreverse, List.reverse_flatten, List.map_reverse, List.reverse_reverse]
  have hcount : entries.length = histogramVal.length := hentries.length_eq.trans hlength.symm
  obtain ⟨numbers, hnumbers, hread⟩ := readEach_flatten (fun _ feat => Value.number? feat) hcount
    (read_histogramEntries hentries hsmall hlength hok)
  refine ⟨.histogram numbers, ?_, fun rest => ?_⟩
  · show ((feat.ifPresent Value.array? "value").bind _).map _ = _
    rw [hval, Option.bind_some, hnumbers]
    rfl
  · show (readEach NumberLayout.read entries (stream ++ rest)).map _ = _
    rw [hstream, hread]
    rfl

theorem read_serialize {layout : FeatureLayout} {feature : EgressFeature} {feat : Value}
    {stream : List Bool} (hdescribes : layout.Describes feature)
    (hsmall : layout.bits < 2 ^ 32) (hvalue : feature.value = some feat)
    (h : feature.serialize = .ok stream.reverse) :
    ∃ reading, layout.valueOf? feat = some reading ∧
      ∀ rest, layout.read (stream ++ rest) = some (reading, rest) := by
  unfold EgressFeature.serialize at h
  rw [hvalue] at h
  cases layout with
  | boolean =>
    rw [hdescribes.1] at h
    exact read_serializeBoolean h
  | number number =>
    apply FeatureLayout.read_number
    cases number with
    | unsigned size =>
      rw [hdescribes.1] at h
      rw [← hdescribes.2 hsmall]
      exact read_serializeUnsignedInt h
    | signed size =>
      rw [hdescribes.1] at h
      rw [← hdescribes.2 hsmall]
      exact read_serializeSignedInt h
  | bucket size =>
    rw [hdescribes.1] at h
    rw [← hdescribes.2 hsmall]
    exact read_serializeBucket h
  | histogram entries =>
    obtain ⟨htype, hentries, hschema⟩ := hdescribes
    rw [htype] at h
    exact read_serializeHistogram hentries hschema hsmall h

theorem FeatureLayout.Describes.withValue {layout : FeatureLayout} {feature : EgressFeature}
    (h : layout.Describes feature) (value : Option Value) :
    layout.Describes { feature with value } := by
  cases layout with
  | number number => cases number <;> exact h
  | _ => exact h

theorem describes_populated {features : List EgressFeature} {layouts : List FeatureLayout}
    (h : List.Forall₂ FeatureLayout.Describes features layouts) {feats : List Value}
    (hlength : feats.length = features.length) :
    List.Forall₂ FeatureLayout.Describes
      ((feats.zip features).map fun entry => { entry.2 with value := some entry.1 }) layouts ∧
    List.Forall₂ (fun feature feat => feature.value = some feat)
      ((feats.zip features).map fun entry => { entry.2 with value := some entry.1 }) feats := by
  induction h generalizing feats with
  | nil =>
    cases feats with
    | nil => exact ⟨.nil, .nil⟩
    | cons feat feats => cases hlength
  | cons hfirst _ ih =>
    cases feats with
    | nil => cases hlength
    | cons feat feats =>
      obtain ⟨hdescribes, hvalues⟩ := ih (Nat.succ.inj hlength)
      exact ⟨.cons (hfirst.withValue _) hdescribes, .cons rfl hvalues⟩

theorem read_features {populated : List EgressFeature} {layouts : List FeatureLayout}
    {feats : List Value} {streams : List (List Bool)}
    (hdescribes : List.Forall₂ FeatureLayout.Describes populated layouts)
    (hvalues : List.Forall₂ (fun feature feat => feature.value = some feat) populated feats)
    (hstreams : List.Forall₂ (fun feature stream => feature.serialize = .ok stream.reverse)
      populated streams)
    (hsmall : (layouts.map FeatureLayout.bits).sum < 2 ^ 32) :
    List.Forall₂ (fun item piece => ∃ reading, item.1.valueOf? item.2 = some reading ∧
      ∀ rest, item.1.read (piece ++ rest) = some (reading, rest)) (layouts.zip feats) streams := by
  induction hdescribes generalizing feats streams with
  | nil =>
    cases hstreams
    exact .nil
  | cons hfirst _ ih =>
    rw [List.map_cons, List.sum_cons] at hsmall
    cases hvalues with
    | cons hvalue hvalues =>
      cases hstreams with
      | cons hstream hstreams =>
        have hread := read_serialize hfirst (by omega) hvalue hstream
        exact .cons hread (ih hvalues hstreams (by omega))

end Egress

end BiddingAuction

import BiddingAuction.Egress.Decoding

/-!
# Egress payloads are read back

What an accepted schema declares is what its features are read by, so the values of a payload
come back from the bytes; unless 32 bits do not hold the declared sizes together.
-/

namespace BiddingAuction

open Foundation

namespace Egress

/-! ## The payload -/

theorem toNat_getEgressVectorHeader : ∀ version : ℕ, version ≤ 7 →
    (getEgressVectorHeader (UInt32.ofInt version)).toNat = version <<< 5 := by
  decide

theorem decode_append {schema : SchemaLayout} {bytesArray : List UInt8} {header : UInt8}
    (hheader : header.toNat = schema.version <<< 5) {readings : List Reading}
    {padding : List Bool} (hpadding : padding.all (! ·) = true)
    (hread : readEach FeatureLayout.read schema.features (bitStream bytesArray) =
      some (readings, padding)) :
    schema.decode (bytesArray ++ [header]) = some readings := by
  unfold SchemaLayout.decode
  rw [List.getLast?_concat, List.dropLast_concat, hread]
  exact if_pos ⟨hheader, hpadding⟩

/-- The sum of the declared sizes, in 32 bits, is zero or above the limit; or a value is
rejected, all before it having defined encodings; or all values are accepted, and their sizes
add up to no more than bytes of which 32 bits can count the bits. -/
def Decodable (schema : SchemaLayout) (features : List EgressFeature) (egressBitLimit : UInt32) :
    Prop :=
  declaredBits features % 2 ^ 32 = 0 ∨ egressBitLimit.toNat < declaredBits features % 2 ^ 32 ∨
  payloadVerdict features = .rejected ∨
  payloadVerdict features = .accepted ∧ schema.bits ≤ 2 ^ 32 - 8

theorem bits_le_room {schema : SchemaLayout} {features : List EgressFeature}
    (hdescribes : List.Forall₂ FeatureLayout.Describes features schema.features)
    (hsmall : schema.bits ≤ 2 ^ 32 - 8) : schema.bits ≤ room features := by
  have hlt : (schema.features.map FeatureLayout.bits).sum < 2 ^ 32 := by
    show schema.bits < 2 ^ 32
    omega
  obtain ⟨hdeclared, -⟩ := sizes_of_describes hdescribes hlt
  change declaredBits features = schema.bits at hdeclared
  unfold room
  rw [hdeclared]
  omega

theorem recoverable_iff {schema : SchemaLayout} {values : Value} {feats : List Value}
    {features : List EgressFeature} (hpopulated : ∀ feature ∈ features, feature.IsPopulated)
    (hfeats : values.ifPresent Value.array? "features" = some feats)
    (hdescribes : List.Forall₂ FeatureLayout.Describes features schema.features)
    (hvalues : List.Forall₂ (fun feature feat => feature.value = some feat) features feats)
    (hversion : schema.version ≤ 7) {egressBitLimit : UInt32} :
    (serializeEgressFeatures (UInt32.ofInt schema.version) features
        egressBitLimit).Recoverable schema values ↔
      Decodable schema features egressBitLimit := by
  by_cases hstopped : declaredBits features % 2 ^ 32 = 0 ∨
      egressBitLimit.toNat < declaredBits features % 2 ^ 32
  · rw [serializeEgressFeatures_of_stopped hstopped]
    apply iff_of_true
    · exact ⟨nofun, fun bytes hbytes hne => by cases hbytes; contradiction⟩
    · exact hstopped.imp id .inl
  · push Not at hstopped
    obtain ⟨hzero, hlimit⟩ := hstopped
    obtain ⟨size, streams, packing, status, hroom, hstreams, hpacked, hverdict, hrun⟩ :=
      serializeEgressFeatures_of_passed hpopulated hzero hlimit (UInt32.ofInt schema.version)
    rw [hrun]
    constructor
    · rintro ⟨hdefined, hrecovers⟩
      right
      right
      cases hcase : payloadVerdict features with
      | rejected => exact .inl rfl
      | undefined =>
        exact absurd (Outcome.bind_ok_eq_undefined.mpr (hverdict.trans hcase)) hdefined
      | accepted =>
        right
        refine ⟨rfl, ?_⟩
        obtain ⟨u, hok⟩ := Outcome.verdict_eq_accepted.mp (hverdict.trans hcase)
        obtain ⟨readings, -, hdecode⟩ :=
          hrecovers (packing.bytesArray ++ [_]) (by rw [hok]; rfl) (by simp)
        have hbits := SchemaLayout.bits_le_of_decode hdecode
        rw [List.dropLast_concat, hpacked.length, hroom] at hbits
        unfold room at hbits
        omega
    · rintro (h | h | hrejected | ⟨haccepted, hsmall⟩)
      · exact absurd h hzero
      · exact absurd hlimit (by omega)
      · refine ⟨?_, fun bytes hresult => ?_⟩
        · intro hundefined
          have hnone := Outcome.bind_ok_eq_undefined.mp hundefined
          rw [hverdict, hrejected] at hnone
          cases hnone
        · obtain ⟨u, hok, -⟩ := Outcome.bind_eq_ok.mp hresult
          rw [hok, hrejected] at hverdict
          cases hverdict
      · obtain ⟨u, hok⟩ := Outcome.verdict_eq_accepted.mp (hverdict.trans haccepted)
        rw [reached_of_accepted haccepted] at hstreams
        have hbits : (schema.features.map FeatureLayout.bits).sum = schema.bits := rfl
        obtain ⟨-, hwritten⟩ := sizes_of_describes hdescribes (by omega)
        have hlength := length_streams hpopulated hstreams
        have hfits := bits_le_room hdescribes hsmall
        have hcount : schema.features.length = feats.length :=
          hdescribes.length_eq.symm.trans hvalues.length_eq
        obtain ⟨readings, hreadings, hread⟩ := readEach_flatten FeatureLayout.valueOf? hcount
          (read_features hdescribes hvalues hstreams (by omega))
        have hstream := hpacked.stream (by omega)
        rw [hok]
        refine ⟨nofun, fun bytes hresult _ => ⟨readings, ?_, ?_⟩⟩
        · unfold SchemaLayout.valuesOf?
          rw [hfeats]
          exact hreadings
        · have hheader := toNat_getEgressVectorHeader schema.version hversion
          have hpadding : (List.replicate (8 * size - streams.flatten.length) false).all (! ·) =
              true := by simp
          cases hresult
          exact decode_append hheader hpadding (by rw [hstream, hread])

theorem describes_of_update {lib : Library} {cache cache' : EgressSchemaCache}
    {egressSchema id : String} {data : EgressSchemaData} {document : Value} {schema : SchemaLayout}
    (hupdate : cache.update lib egressSchema id = .ok cache') (hget : cache'.get id = .ok data)
    (hparse : lib.parseJsonString egressSchema = .ok document)
    (hschema : schemaLayout? document = some schema) :
    schema.version ≤ 7 ∧ data.version = UInt32.ofInt schema.version ∧
      List.Forall₂ FeatureLayout.Describes data.features schema.features := by
  obtain ⟨jsonDoc, version, extracted, hparse', -, hversion, hextract, hcached⟩ :=
    EgressSchemaCache.update_eq_ok hupdate
  cases hparse.symm.trans hparse'
  obtain ⟨hle, rfl, hdescribes⟩ := describes_of_schemaLayout? hschema hversion hextract
  cases hget.symm.trans hcached
  exact ⟨hle, rfl, hdescribes⟩

theorem recoverable_iff_of_update {lib : Library} {cache cache' : EgressSchemaCache}
    {egressSchema id : String} {data : EgressSchemaData} {values document : Value}
    {features : List EgressFeature} {schema : SchemaLayout}
    (hupdate : cache.update lib egressSchema id = .ok cache') (hget : cache'.get id = .ok data)
    (hpopulate : populateValuesForEgressFeatures values data.features = .ok features)
    (hparse : lib.parseJsonString egressSchema = .ok document)
    (hschema : schemaLayout? document = some schema) (egressBitLimit : UInt32) :
    (serializeEgressFeatures data.version features egressBitLimit).Recoverable schema values ↔
      Decodable schema features egressBitLimit := by
  obtain ⟨hle, hversion, hdescribes⟩ := describes_of_update hupdate hget hparse hschema
  obtain ⟨feats, hfeats, hlength, -, hfeatures⟩ := populateValuesForEgressFeatures_eq_ok hpopulate
  obtain ⟨hpopulated, hvalues⟩ := describes_populated hdescribes hlength
  rw [← hfeatures] at hpopulated hvalues
  rw [hversion]
  exact recoverable_iff (isPopulated_of_update hupdate hget hpopulate) hfeats hpopulated hvalues hle

/-- The values of a payload are read from what it is serialized to exactly if it is stopped by
the sum of the declared sizes or by a value, or the values are accepted and 32 bits hold the
declared sizes together. -/
theorem serializeEgressFeatures_recoverable_iff (lib : Library) (hvalidates : lib.Validates)
    {cache cache' : EgressSchemaCache} {egressSchema id : String} {data : EgressSchemaData}
    {values : Value} {features : List EgressFeature}
    (hupdate : cache.update lib egressSchema id = .ok cache')
    (hget : cache'.get id = .ok data)
    (hpopulate : populateValuesForEgressFeatures values data.features = .ok features)
    (egressBitLimit : UInt32) :
    ∃ document schema, lib.parseJsonString egressSchema = .ok document ∧
      schemaLayout? document = some schema ∧
      ((serializeEgressFeatures data.version features egressBitLimit).Recoverable schema values ↔
        Decodable schema features egressBitLimit) := by
  obtain ⟨document, -, -, hparse, hvalid, -, -, -⟩ := EgressSchemaCache.update_eq_ok hupdate
  obtain ⟨schema, hschema⟩ := Option.isSome_iff_exists.mp (hvalidates _ _ hparse hvalid)
  refine ⟨document, schema, hparse, hschema, ?_⟩
  exact recoverable_iff_of_update hupdate hget hpopulate hparse hschema egressBitLimit

/-! ### Examples -/

/-- A boolean and the number 9 are read from the bits 1, 1, 0, 0, 1. -/
example : (SchemaLayout.mk 2 [.boolean, .number (.unsigned 4)]).decode [0b10011, 0b01000000] =
    some [.boolean true, .number 9] := by
  decide

theorem serializeEgressFeatures_recoverable_iff_example : ∃ cache' data features schema,
    EgressSchemaCache.update (schemaLibrary smallSchema smallDocument) ∅ smallSchema "" =
      .ok cache' ∧ cache'.get "" = .ok data ∧
    populateValuesForEgressFeatures smallPayload data.features = .ok features ∧
    schemaLayout? smallDocument = some schema ∧
    (serializeEgressFeatures data.version features 20).Recoverable schema smallPayload := by
  obtain ⟨cache', data, features, hupdate, hget, hpopulate, haccepted⟩ :
      ∃ cache' data features,
      EgressSchemaCache.update (schemaLibrary smallSchema smallDocument) ∅ smallSchema "" =
        .ok cache' ∧ cache'.get "" = .ok data ∧
      populateValuesForEgressFeatures smallPayload data.features = .ok features ∧
      payloadVerdict features = .accepted := by
    refine ⟨_, _, _, rfl, rfl, rfl, ?_⟩
    decide
  obtain ⟨document, schema, hparse, hschema, hrecoverable⟩ :=
    serializeEgressFeatures_recoverable_iff _ (validates_schemaLibrary _ _) hupdate hget
      hpopulate 20
  cases hparse
  have hlayout : schemaLayout? smallDocument =
      some ⟨2, [.boolean, .number (.unsigned 4)]⟩ := by decide
  cases hschema.symm.trans hlayout
  exact ⟨cache', data, features, _, hupdate, hget, hpopulate, hlayout,
    hrecoverable.mpr (.inr (.inr (.inr ⟨haccepted, by decide⟩)))⟩

/-- A size that an unsigned `int` does not hold. -/
def wideSchema : String :=
  "\x7b\"cddl_version\":\"1.0.0\",\"version\":2,\"features\":[" ++
    "\x7b\"name\":\"unsigned-integer-feature\",\"size\":4294967296\x7d]\x7d"

def wideDocument : Value := schemaDocument [unsignedType 4294967296]

/-- The number 1 takes one bit where the schema gives it 2³². -/
theorem recoverable_false : ¬ ∀ (lib : Library) (cache cache' : EgressSchemaCache)
    (egressSchema id : String) (data : EgressSchemaData) (values : Value)
    (features : List EgressFeature) (document : Value) (schema : SchemaLayout)
    (egressBitLimit : UInt32), lib.Validates →
    cache.update lib egressSchema id = .ok cache' → cache'.get id = .ok data →
    populateValuesForEgressFeatures values data.features = .ok features →
    lib.parseJsonString egressSchema = .ok document → schemaLayout? document = some schema →
    (serializeEgressFeatures data.version features egressBitLimit).Recoverable schema values := by
  intro h
  obtain ⟨cache', data, hupdate, hget, hpopulate⟩ : ∃ cache' data,
      EgressSchemaCache.update (schemaLibrary wideSchema wideDocument) ∅ wideSchema "" =
        .ok cache' ∧ cache'.get "" = .ok data ∧
      populateValuesForEgressFeatures (payloadDocument [unsignedValue 1]) data.features =
        .ok [{ featureType := .unsignedIntFeature, size := 1, value := some (unsignedValue 1) }] :=
    ⟨_, _, rfl, rfl, rfl⟩
  have hlayout : schemaLayout? wideDocument =
      some ⟨2, [.number (.unsigned 4294967296)]⟩ := by decide
  have hrecoverable := h _ _ _ _ _ _ _ _ wideDocument _ 20 (validates_schemaLibrary _ _) hupdate
    hget hpopulate rfl hlayout
  have hdecodable :=
    (recoverable_iff_of_update hupdate hget hpopulate rfl hlayout 20).mp hrecoverable
  rcases hdecodable with h | h | h | ⟨-, h⟩
  · exact absurd h (by decide)
  · exact absurd h (by decide)
  · exact absurd h (by decide)
  · exact absurd h (by decide)

end Egress

end BiddingAuction

import BiddingAuction.Egress.Numbers

/-!
# What a feature is serialized to

Buckets and histograms, and the features of all kinds: what becomes of a value, and how many
bits are written for it.
-/

namespace BiddingAuction

open Foundation

namespace Egress

/-! ## Buckets -/

def bucketValues? (buckets : List Value) : Option (List Bool) :=
  buckets.mapM fun bucket => bucket.ifPresent Value.bool? "value"

def bucketVerdict (size : ℕ) (feat : Value) : Verdict :=
  match feat.ifPresent Value.array? "value" with
  | some buckets =>
    if buckets.length = size ∧ (bucketValues? buckets).isSome then .accepted else .rejected
  | none => .rejected

theorem getArrayMember_of_some {value : Value} {name : String} {elements : List Value}
    (h : value.ifPresent Value.array? name = some elements) :
    value.getArrayMember name = .ok elements := by
  obtain ⟨member, hmember, hread⟩ := Option.bind_eq_some_iff.mp h
  have hobject : value.isObject = true := by
    cases value with
    | object members => rfl
    | _ => cases hmember
  unfold Value.getArrayMember Value.getMember
  rw [if_pos hobject, hmember]
  simp only [hread]

theorem getArrayMember_of_none {value : Value} {name : String} (hobject : value.isObject = true)
    (h : value.ifPresent Value.array? name = none) :
    ∃ message, value.getArrayMember name = .invalidArgument message := by
  unfold Value.getArrayMember Value.getMember
  rw [if_pos hobject]
  unfold Value.ifPresent at h
  cases hmember : value.findMember name with
  | none => exact ⟨_, rfl⟩
  | some member =>
    rw [hmember, Option.bind_some] at h
    simp only [h]
    exact ⟨_, rfl⟩

theorem getMember_eq_ok {α : Type} {read : Value → Option α} {expected : ℕ} {name : String}
    {value : Value} {a : α} (h : value.getMember read expected name = .ok a) :
    value.ifPresent read name = some a := by
  unfold Value.getMember at h
  split at h
  · unfold Value.ifPresent
    cases hmember : value.findMember name with
    | none =>
      rw [hmember] at h
      cases h
    | some member =>
      rw [hmember] at h
      cases hread : read member with
      | none =>
        simp only [hread] at h
        cases h
      | some a' =>
        simp only [hread] at h
        cases h
        exact hread
  · cases h

theorem getArrayMember_eq_ok {value : Value} {name : String} {elements : List Value}
    (h : value.getArrayMember name = .ok elements) :
    value.ifPresent Value.array? name = some elements :=
  getMember_eq_ok h

theorem serializeBucketEntry_of_some (feat : Value × ℕ) {b : Bool}
    (h : feat.1.ifPresent Value.bool? "value" = some b) : serializeBucketEntry feat = .ok b := by
  have hobject : feat.1.isObject = true := by
    obtain ⟨member, hmember, -⟩ := Option.bind_eq_some_iff.mp h
    cases hvalue : feat.1 with
    | object members => rfl
    | _ =>
      rw [hvalue] at hmember
      cases hmember
  unfold serializeBucketEntry EgressFeature.setValue serializeBoolean
  rw [if_pos hobject]
  simp [h]

theorem verdict_serializeBucketEntry_of_none (feat : Value × ℕ)
    (h : feat.1.ifPresent Value.bool? "value" = none) :
    (serializeBucketEntry feat).verdict = .rejected := by
  unfold serializeBucketEntry EgressFeature.setValue serializeBoolean
  split
  · simp [h, Outcome.invalidArgument]
  · rfl

theorem serializeBucketEntries (buckets : List Value) (k : ℕ) :
    (∃ values, bucketValues? buckets = some values ∧
      (buckets.zipIdx k).mapM serializeBucketEntry = .ok values) ∨
    (bucketValues? buckets = none ∧
      ((buckets.zipIdx k).mapM serializeBucketEntry).verdict = .rejected) := by
  unfold bucketValues?
  induction buckets generalizing k with
  | nil => exact .inl ⟨[], rfl, rfl⟩
  | cons bucket rest ih =>
    rw [List.mapM_cons, List.zipIdx_cons, List.mapM_cons]
    cases hvalue : bucket.ifPresent Value.bool? "value" with
    | none =>
      right
      refine ⟨rfl, ?_⟩
      have hnone := verdict_serializeBucketEntry_of_none (bucket, k) hvalue
      rw [Outcome.verdict_bind (v := .accepted), hnone]
      · rfl
      · intro b hb
        rw [hb] at hnone
        cases hnone
    | some b =>
      rw [serializeBucketEntry_of_some (bucket, k) hvalue, Outcome.ok_bind]
      rcases ih (k + 1) with ⟨values, hvalues, hok⟩ | ⟨hnone, hrejected⟩
      · left
        refine ⟨b :: values, ?_, ?_⟩
        · rw [hvalues]
          rfl
        · rw [hok]
          rfl
      · right
        refine ⟨?_, ?_⟩
        · rw [hnone]
          rfl
        · rw [Outcome.verdict_bind (v := .accepted) fun _ _ => rfl, hrejected]
          rfl

theorem verdict_serializeBucket (size : UInt32) {feat : Value} (hobject : feat.isObject = true) :
    (serializeBucket size (some feat)).verdict = bucketVerdict size.toNat feat := by
  unfold serializeBucket bucketVerdict
  cases hvalue : feat.ifPresent Value.array? "value" with
  | none =>
    obtain ⟨message, harray⟩ := getArrayMember_of_none hobject hvalue
    simp only [harray]
    rfl
  | some buckets =>
    simp only [getArrayMember_of_some hvalue, Outcome.ok_bind]
    by_cases hlength : buckets.length = size.toNat
    · rw [if_neg (not_not_intro hlength)]
      rcases serializeBucketEntries buckets 0 with ⟨values, hvalues, hok⟩ | ⟨hnone, hrejected⟩
      · rw [hok, hvalues, if_pos ⟨hlength, rfl⟩]
        rfl
      · rw [Outcome.verdict_bind (v := .accepted) fun _ _ => rfl, hrejected, hnone,
          if_neg (by simp)]
        rfl
    · rw [if_pos hlength, if_neg fun h => hlength h.1]
      rfl

theorem serializeBucket_eq_ok {size : UInt32} {feat : Value} {bits : List Bool}
    (h : serializeBucket size (some feat) = .ok bits) :
    ∃ buckets, feat.ifPresent Value.array? "value" = some buckets ∧
      bits.length = size.toNat ∧ bucketValues? buckets = some bits.reverse := by
  unfold serializeBucket at h
  obtain ⟨buckets, hbuckets, h⟩ := Outcome.bind_eq_ok.mp h
  refine ⟨buckets, getArrayMember_eq_ok hbuckets, ?_⟩
  split at h
  · cases h
  · rename_i hlength
    have hlength := not_not.mp hlength
    obtain ⟨values, hvalues, h⟩ := Outcome.bind_eq_ok.mp h
    cases h
    rcases serializeBucketEntries buckets 0 with ⟨values', hread, hok⟩ | ⟨-, hrejected⟩
    · cases hvalues.symm.trans hok
      have hsame : buckets.length = values.length := (mapM_eq_some.mp hread).length_eq
      rw [List.length_reverse, List.reverse_reverse]
      exact ⟨by omega, hread⟩
    · rw [hvalues] at hrejected
      cases hrejected

/-! ## Histograms -/

/-- The size that a number of a histogram is written with: none for what is no unsigned
`int`. -/
def entrySize (featSchema : Value) : ℕ :=
  ((featSchema.ifPresent Value.uint? "size").getD 0).toNat

def featName (value : Value) : String := (value.ifPresent Value.string? "name").getD ""

def histogramEntryVerdict (featSchema feat : Value) : Verdict :=
  if featName featSchema = "unsigned-integer-feature" then
    if featName feat = "unsigned-integer-feature" then
      unsignedIntVerdict (entrySize featSchema) feat
    else .rejected
  else if featName featSchema = "signed-integer-feature" then
    if featName feat = "signed-integer-feature" then signedIntVerdict (entrySize featSchema) feat
    else .rejected
  else .rejected

theorem setValue_bind {β : Type} (feature : EgressFeature) (feat : Value)
    (f : EgressFeature → Outcome β) :
    (feature.setValue feat true >>= f).verdict =
      if featName feat = feature.featureType.type then
        (f { feature with value := some feat }).verdict
      else .rejected := by
  unfold EgressFeature.setValue
  show ((if true = true ∧ featName feat ≠ feature.featureType.type then _ else _) >>= f).verdict = _
  by_cases hname : featName feat = feature.featureType.type
  · rw [if_neg (by simp [hname]), if_pos hname]
    rfl
  · rw [if_pos ⟨rfl, hname⟩, if_neg hname]
    rfl

theorem verdict_serializeHistogramEntry (featSchema feat : Value) :
    (serializeHistogramEntry featSchema feat).verdict =
      histogramEntryVerdict featSchema feat := by
  unfold serializeHistogramEntry histogramEntryVerdict
  show (if featName featSchema = "unsigned-integer-feature" then _
    else if featName featSchema = "signed-integer-feature" then _ else _ : Outcome _).verdict = _
  split
  · rw [setValue_bind]
    apply if_congr Iff.rfl _ rfl
    exact verdict_serializeUnsignedInt _ feat
  · split
    · rw [setValue_bind]
      apply if_congr Iff.rfl _ rfl
      exact verdict_serializeSignedInt _ feat
    · rfl

theorem setValue_eq_ok {feature feature' : EgressFeature} {feat : Value}
    (h : feature.setValue feat true = .ok feature') :
    feature' = { feature with value := some feat } := by
  unfold EgressFeature.setValue at h
  dsimp only at h
  split at h
  · cases h
  · cases h
    rfl

theorem serializeHistogramEntry_eq_ok {featSchema feat : Value} {bits : List Bool}
    (h : serializeHistogramEntry featSchema feat = .ok bits) :
    (featName featSchema = "unsigned-integer-feature" ∧ ∃ size : UInt32,
      size.toNat = entrySize featSchema ∧ serializeUnsignedInt size (some feat) = .ok bits) ∨
    (featName featSchema = "signed-integer-feature" ∧ ∃ size : UInt32,
      size.toNat = entrySize featSchema ∧ serializeSignedInt size (some feat) = .ok bits) := by
  unfold serializeHistogramEntry at h
  dsimp only at h
  split at h
  · rename_i hunsigned
    obtain ⟨feature, hset, h⟩ := Outcome.bind_eq_ok.mp h
    rw [setValue_eq_ok hset] at h
    exact .inl ⟨hunsigned, _, rfl, h⟩
  · split at h
    · rename_i hsigned
      obtain ⟨feature, hset, h⟩ := Outcome.bind_eq_ok.mp h
      rw [setValue_eq_ok hset] at h
      exact .inr ⟨hsigned, _, rfl, h⟩
    · cases h

/-- The numbers of a histogram one after another. The counter of the loop has gone through the
whole range of an `int` where it started as far above as there are numbers. -/
def histogramVerdictFrom (size : ℕ) : ℕ → List (Value × Value) → Verdict
  | _, [] => .accepted
  | k, entry :: rest =>
    (histogramEntryVerdict entry.1 entry.2).andThen <|
      if (2 ^ 31 + 1 + k) % 2 ^ 32 = size then .undefined
      else histogramVerdictFrom size (k + 1) rest

def histogramVerdict (size : ℕ) (schemaValue feat : Value) : Verdict :=
  match feat.ifPresent Value.array? "value", schemaValue.ifPresent Value.array? "value" with
  | some histogramVal, some histogramSchema =>
    if histogramVal.length ≠ histogramSchema.length then .rejected
    else if size = 2 ^ 31 ∧ histogramVal ≠ [] then .undefined
    else histogramVerdictFrom size 0 (histogramSchema.zip histogramVal)
  | _, _ => .rejected

/-- The counter stands at the declared size less one, brought into the range of an `int`, less
the numbers so far. -/
structure CountsBack (size : UInt32) (idx : ℤ) (k : ℕ) : Prop where
  low : -2 ^ 31 ≤ idx
  high : idx + 1 < 2 ^ 31
  congr : (idx + 1 + k - size.toNat) % 2 ^ 32 = 0
  start : idx + k < 2 ^ 31

theorem CountsBack.index {size : UInt32} {idx : ℤ} {k : ℕ} (h : CountsBack size idx k) :
    (size - UInt32.ofInt (idx + 1)).toNat = k := by
  have hcongr := h.congr
  have hlow := h.low
  have hstart := h.start
  have hsize := size.toNat_lt
  have hcounter : (UInt32.ofInt (idx + 1)).toNat = ((idx + 1) % 2 ^ 32).toNat := by
    apply UInt32.toNat_ofNat_of_lt'
    unfold UInt32.size
    omega
  rw [UInt32.toNat_sub, hcounter]
  omega

theorem CountsBack.last_iff {size : UInt32} {idx : ℤ} {k : ℕ} (h : CountsBack size idx k) :
    idx = -2 ^ 31 ↔ (2 ^ 31 + 1 + k) % 2 ^ 32 = size.toNat := by
  have hcongr := h.congr
  have hlow := h.low
  have hhigh := h.high
  have hsize := size.toNat_lt
  omega

theorem CountsBack.succ {size : UInt32} {idx : ℤ} {k : ℕ} (h : CountsBack size idx k)
    (hlast : idx ≠ -2 ^ 31) : CountsBack size (idx - 1) (k + 1) := by
  have hcongr := h.congr
  have hlow := h.low
  have hhigh := h.high
  have hstart := h.start
  refine ⟨by omega, by omega, ?_, by push_cast; omega⟩
  rw [← hcongr]
  congr 1
  push_cast
  ring

theorem serializeHistogramFrom_cons {size : UInt32} {schemas rest : List Value}
    {featSchema feat : Value} {idx : ℤ} {k : ℕ} (h : CountsBack size idx k)
    (hschema : schemas[k]? = some featSchema) :
    serializeHistogramFrom size schemas (feat :: rest) idx =
      if feat.isObject then
        serializeHistogramEntry featSchema feat >>= fun bits =>
          if idx = -2 ^ 31 then .undefined
          else serializeHistogramFrom size schemas rest (idx - 1) >>= fun bitss =>
            .ok (bits :: bitss)
      else .invalidArgument (notAnObject k) := by
  have hhigh := h.high
  rw [serializeHistogramFrom, if_neg (by omega)]
  simp only [h.index, hschema]

theorem histogramEntryVerdict_of_not_isObject {feat : Value} (h : feat.isObject = false)
    (featSchema : Value) : histogramEntryVerdict featSchema feat = .rejected := by
  have hname : featName feat = "" := by
    cases feat with
    | object members => cases h
    | _ => rfl
  unfold histogramEntryVerdict
  rw [hname, if_neg (by decide : ("" : String) ≠ "unsigned-integer-feature"),
    if_neg (by decide : ("" : String) ≠ "signed-integer-feature")]
  simp

theorem verdict_serializeHistogramFrom {size : UInt32} {schemas : List Value} {idx : ℤ} {k : ℕ}
    (h : CountsBack size idx k) {feats : List Value} (hlength : feats.length + k = schemas.length) :
    (serializeHistogramFrom size schemas feats idx).verdict =
      histogramVerdictFrom size.toNat k ((schemas.drop k).zip feats) := by
  induction feats generalizing idx k with
  | nil =>
    rw [List.zip_nil_right]
    rfl
  | cons feat rest ih =>
    rw [List.length_cons] at hlength
    have hk : k < schemas.length := by omega
    rw [serializeHistogramFrom_cons h (List.getElem?_eq_getElem hk),
      List.drop_eq_getElem_cons hk, List.zip_cons_cons]
    show _ = (histogramEntryVerdict schemas[k] feat).andThen _
    by_cases hobject : feat.isObject = true
    · rw [if_pos hobject, ← verdict_serializeHistogramEntry]
      apply Outcome.verdict_bind
      intro bits _
      by_cases hlast : idx = -2 ^ 31
      · rw [if_pos hlast, if_pos (h.last_iff.mp hlast)]
        rfl
      · rw [if_neg hlast, if_neg (hlast ∘ h.last_iff.mpr),
          Outcome.verdict_bind (v := .accepted) fun _ _ => rfl, Verdict.andThen_accepted]
        exact ih (h.succ hlast) (by omega)
    · rw [if_neg hobject, histogramEntryVerdict_of_not_isObject (Bool.not_eq_true _ ▸ hobject)]
      rfl

theorem serializeHistogramFrom_eq_ok {size : UInt32} {schemas : List Value} {idx : ℤ} {k : ℕ}
    (h : CountsBack size idx k) {feats : List Value} (hlength : feats.length + k = schemas.length)
    {bitss : List (List Bool)} (hok : serializeHistogramFrom size schemas feats idx = .ok bitss) :
    List.Forall₂ (fun entry bits => serializeHistogramEntry entry.1 entry.2 = .ok bits)
      ((schemas.drop k).zip feats) bitss := by
  induction feats generalizing idx k bitss with
  | nil =>
    cases hok
    rw [List.zip_nil_right]
    exact .nil
  | cons feat rest ih =>
    rw [List.length_cons] at hlength
    have hk : k < schemas.length := by omega
    rw [serializeHistogramFrom_cons h (List.getElem?_eq_getElem hk)] at hok
    rw [List.drop_eq_getElem_cons hk, List.zip_cons_cons]
    split at hok
    · obtain ⟨bits, hbits, hok⟩ := Outcome.bind_eq_ok.mp hok
      split at hok
      · cases hok
      · rename_i hlast
        obtain ⟨bitss', hrest, hok⟩ := Outcome.bind_eq_ok.mp hok
        cases hok
        exact .cons hbits (ih (h.succ hlast) (by omega) hrest)
    · cases hok

/-- The counter at first, where it does not start at the largest `int`. -/
theorem countsBack_zero {size : UInt32} (h : size.toNat ≠ 2 ^ 31) :
    CountsBack size (Int.bmod (size - 1).toNat (2 ^ 32)) 0 := by
  have hsize := size.toNat_lt
  have hless : (size - 1).toNat = (size.toNat + (2 ^ 32 - 1)) % 2 ^ 32 := by
    rw [UInt32.toNat_sub]
    show (2 ^ 32 - 1 + size.toNat) % 2 ^ 32 = _
    rw [Nat.add_comm]
  rw [hless, Int.bmod_def]
  constructor
  · split <;> omega
  · split <;> omega
  · split <;> omega
  · split <;> omega

theorem verdict_serializeHistogram (size : UInt32) {schemaValue feat : Value}
    (hschema : schemaValue.isObject = true) (hfeat : feat.isObject = true) :
    (serializeHistogram size schemaValue (some feat)).verdict =
      histogramVerdict size.toNat schemaValue feat := by
  unfold serializeHistogram histogramVerdict
  cases hvalue : feat.ifPresent Value.array? "value" with
  | none =>
    obtain ⟨message, harray⟩ := getArrayMember_of_none hfeat hvalue
    simp only [harray]
    rfl
  | some histogramVal =>
    simp only [getArrayMember_of_some hvalue, Outcome.ok_bind]
    cases hschemas : schemaValue.ifPresent Value.array? "value" with
    | none =>
      obtain ⟨message, harray⟩ := getArrayMember_of_none hschema hschemas
      simp only [harray]
      rfl
    | some histogramSchema =>
      simp only [getArrayMember_of_some hschemas, Outcome.ok_bind]
      by_cases hlength : histogramVal.length = histogramSchema.length
      · rw [if_neg (not_not_intro hlength), if_neg (not_not_intro hlength),
          Outcome.verdict_bind (v := .accepted) fun _ _ => rfl, Verdict.andThen_accepted]
        by_cases hsize : size.toNat = 2 ^ 31
        · cases histogramVal with
          | nil =>
            rw [if_neg (by simp), List.zip_nil_right]
            rfl
          | cons first rest =>
            -- the counter starts at the largest `int`, and the first index adds one to it
            have hstart : Int.bmod (size - 1).toNat (2 ^ 32) + 1 = 2 ^ 31 := by
              rw [UInt32.toNat_sub, hsize]
              decide
            rw [if_pos ⟨hsize, by simp⟩, serializeHistogramFrom, if_pos hstart]
            rfl
        · rw [if_neg fun h => hsize h.1]
          exact verdict_serializeHistogramFrom (countsBack_zero hsize) hlength
      · rw [if_pos hlength, if_pos hlength]
        rfl

theorem serializeHistogram_eq_ok {size : UInt32} {schemaValue feat : Value} {bits : List Bool}
    (h : serializeHistogram size schemaValue (some feat) = .ok bits) :
    ∃ histogramVal histogramSchema bitss,
      feat.ifPresent Value.array? "value" = some histogramVal ∧
      schemaValue.ifPresent Value.array? "value" = some histogramSchema ∧
      histogramVal.length = histogramSchema.length ∧
      List.Forall₂ (fun entry bits => serializeHistogramEntry entry.1 entry.2 = .ok bits)
        (histogramSchema.zip histogramVal) bitss ∧ bits = bitss.reverse.flatten := by
  unfold serializeHistogram at h
  obtain ⟨histogramVal, hval, h⟩ := Outcome.bind_eq_ok.mp h
  obtain ⟨histogramSchema, hschema, h⟩ := Outcome.bind_eq_ok.mp h
  split at h
  · cases h
  · rename_i hlength
    have hlength := not_not.mp hlength
    obtain ⟨bitss, hbitss, h⟩ := Outcome.bind_eq_ok.mp h
    cases h
    refine ⟨histogramVal, histogramSchema, bitss, getArrayMember_eq_ok hval,
      getArrayMember_eq_ok hschema, hlength, ?_, rfl⟩
    by_cases hsize : size.toNat = 2 ^ 31
    · cases histogramVal with
      | nil =>
        cases hbitss
        rw [List.zip_nil_right]
        exact .nil
      | cons first rest =>
        have hstart : Int.bmod (size - 1).toNat (2 ^ 32) + 1 = 2 ^ 31 := by
          rw [UInt32.toNat_sub, hsize]
          decide
        rw [serializeHistogramFrom, if_pos hstart] at hbitss
        cases hbitss
    · exact serializeHistogramFrom_eq_ok (countsBack_zero hsize) hlength hbitss

/-! ## Features -/

namespace EgressFeature

def verdict (feature : EgressFeature) : Verdict :=
  match feature.value with
  | none => .accepted
  | some feat =>
    match feature.featureType with
    | .booleanFeature =>
      if (feat.ifPresent Value.bool? "value").isSome then .accepted else .rejected
    | .signedIntFeature => signedIntVerdict feature.size.toNat feat
    | .unsignedIntFeature => unsignedIntVerdict feature.size.toNat feat
    | .bucketFeature => bucketVerdict feature.size.toNat feat
    | .histogramFeature => histogramVerdict feature.size.toNat feature.schemaValue feat

def histogramSchema (feature : EgressFeature) : List Value :=
  (feature.schemaValue.ifPresent Value.array? "value").getD []

/-- How many bits are written for the value: the sizes count one by one, and the size of a
boolean not at all. -/
def width (feature : EgressFeature) : ℕ :=
  match feature.featureType with
  | .booleanFeature => 1
  | .histogramFeature => (feature.histogramSchema.map entrySize).sum
  | _ => feature.size.toNat

structure IsPopulated (feature : EgressFeature) : Prop where
  value : ∃ feat, feature.value = some feat ∧ feat.isObject = true
  schema : feature.featureType = .histogramFeature → feature.schemaValue.isObject = true

theorem verdict_serialize {feature : EgressFeature} (h : feature.IsPopulated) :
    feature.serialize.verdict = feature.verdict := by
  obtain ⟨feat, hvalue, hobject⟩ := h.value
  unfold serialize verdict
  rw [hvalue]
  cases htype : feature.featureType with
  | booleanFeature =>
    unfold serializeBoolean
    cases hbool : feat.ifPresent Value.bool? "value" with
    | none => simp [hbool]
    | some b => simp [hbool]
  | signedIntFeature => exact verdict_serializeSignedInt _ feat
  | unsignedIntFeature => exact verdict_serializeUnsignedInt _ feat
  | bucketFeature => exact verdict_serializeBucket _ hobject
  | histogramFeature => exact verdict_serializeHistogram _ (h.schema htype) hobject

end EgressFeature

theorem length_of_serializeUnsignedInt {size : UInt32} {feat : Value} {bits : List Bool}
    (h : serializeUnsignedInt size (some feat) = .ok bits) : bits.length = size.toNat := by
  obtain ⟨n, -, -, hbits⟩ := serializeUnsignedInt_eq_ok h
  rw [← List.length_reverse, hbits, length_lowBits]

theorem length_of_serializeSignedInt {size : UInt32} {feat : Value} {bits : List Bool}
    (h : serializeSignedInt size (some feat) = .ok bits) : bits.length = size.toNat := by
  obtain ⟨n, -, hlength, -⟩ := serializeSignedInt_eq_ok h
  exact hlength

theorem length_of_serializeHistogramEntry {featSchema feat : Value} {bits : List Bool}
    (h : serializeHistogramEntry featSchema feat = .ok bits) :
    bits.length = entrySize featSchema := by
  rcases serializeHistogramEntry_eq_ok h with ⟨-, size, hsize, hok⟩ | ⟨-, size, hsize, hok⟩
  · rw [← hsize]
    exact length_of_serializeUnsignedInt hok
  · rw [← hsize]
    exact length_of_serializeSignedInt hok

theorem length_flatten_of_entries {entries : List (Value × Value)} {bitss : List (List Bool)}
    (h : List.Forall₂ (fun entry bits => serializeHistogramEntry entry.1 entry.2 = .ok bits)
      entries bitss) :
    bitss.flatten.length = ((entries.map Prod.fst).map entrySize).sum := by
  induction h with
  | nil => rfl
  | cons hentry _ ih =>
    rw [List.flatten_cons, List.length_append, ih, length_of_serializeHistogramEntry hentry]
    rfl

theorem EgressFeature.length_of_serialize {feature : EgressFeature} (h : feature.IsPopulated)
    {bits : List Bool} (hok : feature.serialize = .ok bits) : bits.length = feature.width := by
  obtain ⟨feat, hvalue, -⟩ := h.value
  unfold serialize at hok
  rw [hvalue] at hok
  unfold width
  cases htype : feature.featureType with
  | booleanFeature =>
    rw [htype] at hok
    dsimp only [serializeBoolean] at hok
    split at hok
    · cases hok
    · cases hok
      rfl
  | signedIntFeature =>
    rw [htype] at hok
    exact length_of_serializeSignedInt hok
  | unsignedIntFeature =>
    rw [htype] at hok
    exact length_of_serializeUnsignedInt hok
  | bucketFeature =>
    rw [htype] at hok
    obtain ⟨buckets, -, hlength, -⟩ := serializeBucket_eq_ok hok
    exact hlength
  | histogramFeature =>
    rw [htype] at hok
    obtain ⟨histogramVal, schemas, bitss, -, hschemas, hlength, hentries, rfl⟩ :=
      serializeHistogram_eq_ok hok
    have hsum := length_flatten_of_entries hentries
    rw [List.map_fst_zip hlength.ge] at hsum
    unfold histogramSchema
    rw [hschemas, Option.getD_some, ← hsum, List.length_flatten, List.length_flatten,
      List.map_reverse, List.sum_reverse]

end Egress

end BiddingAuction

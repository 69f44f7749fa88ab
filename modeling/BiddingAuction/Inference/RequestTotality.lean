import BiddingAuction.Inference.RequestParser

/-!
# What the parsers of inference requests can read

Members are looked up before it is checked that there is an object to look in: in the
document, in each request, in each tensor. The entries of a shape are taken for `int`s. A
batch that has something else in one of these places ends the process, if its parser gets
there; every other batch is parsed request by request.
-/

namespace BiddingAuction

open Foundation

namespace InferencePayload

/-! ## Requests -/

/-- A request that can be read: its tensors are reached if it has a model path, and a tensor
if those before it are accepted. -/
structure IsReadableRequest (converts : DataTypeProto → String → Prop) (inferenceRequest : Json) :
    Prop where
  isObject : IsObject inferenceRequest
  tensors : ∀ s, inferenceRequest.findMember "model_path" = some (.string s) → cString s ≠ "" →
    ∀ tensors, inferenceRequest.findMember "tensors" = some (.array tensors) →
      ∀ tensorValue, Foundation.Reached (IsTensor converts) tensors tensorValue →
        IsReadableTensor tensorValue

/-- A document that can be read: a batch in it has requests that can. -/
structure IsReadableDocument (converts : DataTypeProto → String → Prop) (document : Json) :
    Prop where
  isObject : IsObject document
  requests : ∀ batch, document.findMember "request" = some (.array batch) →
    ∀ inferenceRequest ∈ batch, IsReadableRequest converts inferenceRequest

section Tensors

variable {τ ρ : Type} {parse : Json → Except ReadError τ} {build : List τ → ρ}
  {converts : DataTypeProto → String → Prop} {inferenceRequest : Json}

theorem readTensors_eq_asserted (hok : ∀ t, (∃ tensor, parse t = .ok tensor) ↔ IsTensor converts t)
    (hasserted : ∀ t, parse t = .error .asserted ↔ ¬ IsReadableTensor t) {modelPath : String}
    (hpath : getStringMember inferenceRequest "model_path" = .ok modelPath) :
    (do
      let tensors ← inferenceRequest.getArrayMember "tensors"
      return build (← tensors.mapM parse)) = (.error .asserted : Except ReadError ρ) ↔
      ¬ IsReadableRequest converts inferenceRequest := by
  obtain ⟨s, hs, -, hnonempty⟩ := getStringMember_eq_ok.mp hpath
  have hobject := isObject_of_findMember hs
  have hmapM {tensors : List Json} : tensors.mapM parse = .error .asserted ↔
      ∃ t, Foundation.Reached (IsTensor converts) tensors t ∧ ¬ IsReadableTensor t := by
    rw [except_mapM_eq_error]
    simp only [hok, hasserted]
  constructor
  · intro h hreadable
    rcases except_bind_eq_error.mp h with h | ⟨tensors, htensors, h⟩
    · exact getMember_eq_asserted.mp h hobject
    rcases except_bind_eq_error.mp h with h | ⟨results, -, h⟩
    · obtain ⟨t, hreached, hnot⟩ := hmapM.mp h
      exact hnot (hreadable.tensors s hs hnonempty tensors (getArrayMember_eq_ok.mp htensors) t
        hreached)
    · cases h
  · intro hnot
    by_contra h
    refine hnot ⟨hobject, fun s' hs' hnonempty' tensors htensors t hreached => ?_⟩
    by_contra hunreadable
    refine h (except_bind_eq_error.mpr (.inr ⟨tensors, getArrayMember_eq_ok.mpr htensors, ?_⟩))
    exact except_bind_eq_error.mpr (.inl (hmapM.mpr ⟨t, hreached, hunreadable⟩))

theorem isReadableRequest_of_error {e : ReadError}
    (hpath : getStringMember inferenceRequest "model_path" = .error e) :
    e = .asserted ↔ ¬ IsReadableRequest converts inferenceRequest := by
  constructor
  · rintro rfl hreadable
    exact getStringMember_eq_asserted.mp hpath hreadable.isObject
  · intro hnot
    by_contra hne
    have hobject : IsObject inferenceRequest := by
      by_contra hnotObject
      rw [getStringMember_eq_asserted.mpr hnotObject] at hpath
      cases hpath
      exact hne rfl
    refine hnot ⟨hobject, fun s hs hnonempty => ?_⟩
    rw [getStringMember_eq_ok.mpr ⟨s, hs, rfl, hnonempty⟩] at hpath
    cases hpath

end Tensors

theorem parseInternal_eq_asserted {inferenceRequest : Json} {error : ErrorProto} :
    (RequestParser.parseInternal inferenceRequest error).2 = .error .asserted ↔
      ¬ IsReadableRequest (fun _ _ => True) inferenceRequest := by
  unfold RequestParser.parseInternal
  cases hpath : getStringMember inferenceRequest "model_path" with
  | error e =>
    rw [← isReadableRequest_of_error hpath]
    simp
  | ok modelPath =>
    exact readTensors_eq_asserted (fun _ => parseTensor_isOk_iff)
      (fun _ => parseTensor_eq_asserted) hpath

theorem parseInternalProto_eq_asserted {parsing : Parsing} {inferenceRequest : Json}
    {error : ErrorProto} :
    (parsing.parseInternal inferenceRequest error).2 = .error .asserted ↔
      ¬ IsReadableRequest parsing.Converts inferenceRequest := by
  unfold Parsing.parseInternal
  cases hpath : getStringMember inferenceRequest "model_path" with
  | error e =>
    rw [← isReadableRequest_of_error hpath]
    simp
  | ok modelPath =>
    exact readTensors_eq_asserted (fun _ => parseTensorProto_isOk_iff)
      (fun _ => parseTensorProto_eq_asserted) hpath

/-! ## Batches -/

theorem parseRequest_eq_error {inferenceRequest : Json} {e : ReadError} :
    RequestParser.parseRequest inferenceRequest = .error e ↔
      e = .asserted ∧ ¬ IsReadableRequest (fun _ _ => True) inferenceRequest := by
  rw [← @parseInternal_eq_asserted _ {}]
  unfold RequestParser.parseRequest
  split
  · rename_i hparsed
    simp [hparsed]
  · rename_i hparsed
    simp [hparsed]
  · rename_i hparsed
    simp [hparsed, eq_comm]

theorem parseRequest_isOk_iff {inferenceRequest : Json} :
    (∃ result, RequestParser.parseRequest inferenceRequest = .ok result) ↔
      IsReadableRequest (fun _ _ => True) inferenceRequest := by
  cases hparsed : RequestParser.parseRequest inferenceRequest with
  | error e => exact iff_of_false (fun ⟨_, h⟩ => nomatch h) (parseRequest_eq_error.mp hparsed).2
  | ok result =>
    refine iff_of_true ⟨result, rfl⟩ ?_
    by_contra hnot
    rw [parseRequest_eq_error.mpr ⟨rfl, hnot⟩] at hparsed
    cases hparsed

theorem outcome_eq_error {parsing : Parsing} {inferenceRequest : Json} {e : ReadError} :
    parsing.outcome inferenceRequest = .error e ↔
      e = .asserted ∧ ¬ IsReadableRequest parsing.Converts inferenceRequest := by
  rw [← @parseInternalProto_eq_asserted _ _ {}]
  unfold Parsing.outcome
  split
  · rename_i hparsed
    simp [hparsed]
  · rename_i hparsed
    simp [hparsed]
  · rename_i hparsed
    simp [hparsed, eq_comm]

/-! ## Texts -/

theorem batchInferenceRequest_eq_ok {parsing : Parsing} {jsonString : String}
    {batch : List Json} :
    parsing.batchInferenceRequest jsonString = .ok batch ↔
      ∃ document, parsing.parseJsonString jsonString = .ok document ∧
        document.findMember "request" = some (.array batch) := by
  unfold Parsing.batchInferenceRequest
  cases parsing.parseJsonString jsonString with
  | error message => exact iff_of_false (fun h => nomatch h) fun ⟨_, h, _⟩ => nomatch h
  | ok document =>
    dsimp only
    rw [getArrayMember_eq_ok]
    constructor
    · intro h
      exact ⟨document, rfl, h⟩
    · rintro ⟨document', hdocument, h⟩
      cases hdocument
      exact h

theorem batchInferenceRequest_eq_asserted {parsing : Parsing} {jsonString : String} :
    parsing.batchInferenceRequest jsonString = .error .asserted ↔
      ∃ document, parsing.parseJsonString jsonString = .ok document ∧ ¬ IsObject document := by
  unfold Parsing.batchInferenceRequest
  cases parsing.parseJsonString jsonString with
  | error message => exact iff_of_false (fun h => nomatch h) fun ⟨_, h, _⟩ => nomatch h
  | ok document =>
    dsimp only
    rw [Json.getArrayMember, getMember_eq_asserted]
    constructor
    · intro h
      exact ⟨document, rfl, h⟩
    · rintro ⟨document', hdocument, h⟩
      cases hdocument
      exact h

/-- The text is no batch, which is an error, or each of its requests has a result, which is
that of the request alone. -/
def ParsesEach (parsing : Parsing) (jsonString : String) : Prop :=
  (∃ message, parsing.batchInferenceRequest jsonString = .error (.invalidArgument message) ∧
    RequestParser.parseJsonInferenceRequest parsing jsonString =
      .error (.invalidArgument message)) ∨
  ∃ batch results, parsing.batchInferenceRequest jsonString = .ok batch ∧
    RequestParser.parseJsonInferenceRequest parsing jsonString = .ok results ∧
    List.Forall₂ (fun r result => RequestParser.parseRequest r = .ok result) batch results

/-- The same of the batch for the sidecar: the requests that are parsed are in order, and the
errors have their positions. -/
def ConvertsEach (parsing : Parsing) (jsonString : String) : Prop :=
  (∃ message, parsing.batchInferenceRequest jsonString = .error (.invalidArgument message) ∧
    parsing.convertJsonToProto jsonString = .error (.invalidArgument message)) ∨
  ∃ batch outcomes, parsing.batchInferenceRequest jsonString = .ok batch ∧
    parsing.Outcomes batch outcomes ∧
    parsing.convertJsonToProto jsonString =
      if Slots.successes outcomes = [] then .error (.invalidArgument "All requests are invalid")
      else .ok (Slots.successes outcomes, (Slots.failures 0 outcomes).map ordered)

theorem readable_iff {parsing : Parsing} {jsonString : String}
    {converts : DataTypeProto → String → Prop} :
    (∀ document, parsing.parseJsonString jsonString = .ok document →
      IsReadableDocument converts document) ↔
    parsing.batchInferenceRequest jsonString ≠ .error .asserted ∧
      ∀ batch, parsing.batchInferenceRequest jsonString = .ok batch →
        ∀ r ∈ batch, IsReadableRequest converts r := by
  rw [Ne, batchInferenceRequest_eq_asserted]
  constructor
  · intro h
    refine ⟨?_, ?_⟩
    · rintro ⟨document, hdocument, hnot⟩
      exact hnot (h document hdocument).isObject
    · intro batch hbatch
      obtain ⟨document, hdocument, hrequest⟩ := batchInferenceRequest_eq_ok.mp hbatch
      exact (h document hdocument).requests batch hrequest
  · rintro ⟨hobject, hbatch⟩ document hdocument
    refine ⟨?_, ?_⟩
    · by_contra hnot
      exact hobject ⟨document, hdocument, hnot⟩
    · intro batch hrequest
      exact hbatch batch (batchInferenceRequest_eq_ok.mpr ⟨document, hdocument, hrequest⟩)

theorem parsesEach_iff (parsing : Parsing) (jsonString : String) :
    ParsesEach parsing jsonString ↔
      ∀ document, parsing.parseJsonString jsonString = .ok document →
        IsReadableDocument (fun _ _ => True) document := by
  rw [readable_iff]
  unfold ParsesEach RequestParser.parseJsonInferenceRequest
  cases hbatch : parsing.batchInferenceRequest jsonString with
  | error e =>
    cases e with
    | asserted => simp
    | invalidArgument message =>
      refine iff_of_true (.inl ⟨message, rfl, rfl⟩) ⟨?_, ?_⟩
      · simp
      · intro batch h
        cases h
  | ok batch =>
    constructor
    · rintro (⟨message, h, -⟩ | ⟨batch', results, hbatch', -, hresults⟩)
      · cases h
      · cases hbatch'
        refine ⟨by simp, fun batch' hbatch' r hr => ?_⟩
        cases hbatch'
        exact parseRequest_isOk_iff.mp (except_mapM_isOk_iff.mp
          ⟨results, except_mapM_eq_ok.mpr hresults⟩ r hr)
    · rintro ⟨-, hreadable⟩
      obtain ⟨results, hresults⟩ := except_mapM_isOk_iff.mpr fun r hr =>
        parseRequest_isOk_iff.mpr (hreadable batch rfl r hr)
      exact .inr ⟨batch, results, rfl, hresults, except_mapM_eq_ok.mp hresults⟩

theorem convertsEach_iff (parsing : Parsing) (jsonString : String) :
    ConvertsEach parsing jsonString ↔
      ∀ document, parsing.parseJsonString jsonString = .ok document →
        IsReadableDocument parsing.Converts document := by
  rw [readable_iff]
  unfold ConvertsEach Parsing.convertJsonToProto
  cases hbatch : parsing.batchInferenceRequest jsonString with
  | error e =>
    cases e with
    | asserted => simp
    | invalidArgument message =>
      refine iff_of_true (.inl ⟨message, rfl, rfl⟩) ⟨?_, ?_⟩
      · simp
      · intro batch h
        cases h
  | ok batch =>
    constructor
    · rintro (⟨message, h, -⟩ | ⟨batch', outcomes, hbatch', houtcomes, -⟩)
      · cases h
      · cases hbatch'
        refine ⟨by simp, fun batch' hbatch' r hr => ?_⟩
        cases hbatch'
        by_contra hnot
        obtain ⟨i, hi⟩ := List.mem_iff_getElem?.mp hr
        obtain ⟨result, -, hresult⟩ := exists_getElem?_of_forall₂ houtcomes hi
        rw [outcome_eq_error.mpr ⟨rfl, hnot⟩] at hresult
        cases hresult
    · rintro ⟨-, hreadable⟩
      right
      rcases parsing.exists_outcomes batch with ⟨r, hr, hasserted⟩ | ⟨outcomes, houtcomes⟩
      · exact absurd (hreadable batch rfl r hr) (parseInternalProto_eq_asserted.mp hasserted)
      · refine ⟨batch, outcomes, rfl, houtcomes, ?_⟩
        show (parsing.convertRequests batch 0 [] [] >>= _) = _
        rw [Parsing.convertRequests_eq houtcomes]
        by_cases hnone : Slots.successes outcomes = []
        · rw [if_pos hnone]
          show (if [] ++ Slots.successes outcomes = [] then _ else _) = _
          rw [List.nil_append, if_pos hnone]
          rfl
        · rw [if_neg hnone]
          show (if [] ++ Slots.successes outcomes = [] then _ else _) = _
          rw [List.nil_append, if_neg hnone]
          rfl

/-- Either parser has a result for each request of a batch, or an error for the text, if and
only if the document it is can be read. -/
theorem parsers_total_iff (parsing : Parsing) (jsonString : String) :
    (ParsesEach parsing jsonString ↔
      ∀ document, parsing.parseJsonString jsonString = .ok document →
        IsReadableDocument (fun _ _ => True) document) ∧
    (ConvertsEach parsing jsonString ↔
      ∀ document, parsing.parseJsonString jsonString = .ok document →
        IsReadableDocument parsing.Converts document) :=
  ⟨parsesEach_iff parsing jsonString, convertsEach_iff parsing jsonString⟩

/-- A library that reads the text `[1]`. -/
def arrayParsing : Parsing where
  parseJsonString _ := .ok (.array [.number 1])
  simpleAtof _ := none
  simpleAtod _ := none
  simpleAtoi32 _ := none
  simpleAtoi64 _ := none

theorem not_parsesEach_example :
    ¬ ParsesEach arrayParsing "[1]" ∧ ¬ ConvertsEach arrayParsing "[1]" := by
  constructor
  · rintro (⟨message, h, -⟩ | ⟨batch, results, h, -⟩)
    · cases h
    · cases h
  · rintro (⟨message, h, -⟩ | ⟨batch, outcomes, h, -⟩)
    · cases h
    · cases h

end InferencePayload

end BiddingAuction

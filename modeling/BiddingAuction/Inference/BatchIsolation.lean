import BiddingAuction.Foundation.FirstFailure
import BiddingAuction.Foundation.Guarded
import BiddingAuction.Inference.Prediction

/-!
# Each request of a batch has its own response

A batch is to be answered as its requests would be one by one. It is as long as the first
dimension that is counted is there and, for a document, every output can be written: a single
one that cannot leaves one response to all.
-/

namespace BiddingAuction

open Foundation

namespace InferencePayload

variable {Model Request Out : Type}

/-! ## Places -/

namespace Predictor

variable (P : Predictor Model Request Out)

/-- The batch size that is counted for a registered model is there. -/
def isIndexed (request : Request) : Bool :=
  match P.getModel (P.modelPath request) with
  | .error _ => true
  | .ok _ => (batchCount (P.shapes request)).toBool

def launched (request : Request) : Launched Model Request :=
  match P.getModel (P.modelPath request) with
  | .error status => .failed (P.modelPath request)
      { errorType := .modelNotFound, description := status.message }
  | .ok model => .running model request

def place (request : Request) : String × Except ErrorProto Out := P.gather (P.launched request)

theorem launch_eq (request : Request) :
    P.launch request = guarded .missingElement (P.isIndexed request) (P.launched request) := by
  unfold launch isIndexed launched
  cases P.getModel (P.modelPath request) with
  | error status => rfl
  | ok model =>
    dsimp only
    unfold batchCount
    split <;> rfl

end Predictor

def isIndexedParsed (P : Predictor Model Request Out) : Except ErrorProto Request → Bool
  | .error _ => true
  | .ok request => P.isIndexed request

def placeParsed (P : Predictor Model Request Out) :
    Except ErrorProto Request → String × Except ErrorProto Out
  | .error error => (error.modelPath, .error error)
  | .ok request => P.place request

theorem mapM_launchParsed_bind {β : Type} (P : Predictor Model Request Out)
    (batch : List (Except ErrorProto Request))
    (write : List (String × Except ErrorProto Out) → Except Crash β) :
    (batch.mapM (launchParsed P) >>= fun launched => write (launched.map P.gather)) =
      if batch.all (isIndexedParsed P) then write (batch.map (placeParsed P))
      else .error .missingElement := by
  have heach : launchParsed P = fun parsed => guarded .missingElement (isIndexedParsed P parsed)
      (match parsed with
        | .error error => .failed error.modelPath error
        | .ok request => P.launched request) := by
    funext parsed
    cases parsed with
    | error error => rfl
    | ok request => exact P.launch_eq request
  rw [heach, mapM_guarded]
  cases batch.all (isIndexedParsed P) with
  | false => rfl
  | true =>
    rw [guarded_true_bind, if_pos rfl, List.map_map]
    congr 2
    funext parsed
    cases parsed <;> rfl

/-! ## Documents -/

def Writes (write : Writer Out) (place : String × Except ErrorProto Out)
    (response : InferenceResponseProto) : Prop :=
  writePlace write place = .ok (.ok response) ∧
    response.tensors.all TensorProto.isFinite = true

def Throws (write : Writer Out) (place : String × Except ErrorProto Out) : Prop :=
  ∃ crash, writePlace write place = .error crash

section Document

variable {write : Writer Out} {places : List (String × Except ErrorProto Out)}
  {place : String × Except ErrorProto Out} {responses : List InferenceResponseProto}

theorem writePlaces_eq_ok : writePlaces write places = .ok (.ok responses) ↔
    List.Forall₂ (fun place response => writePlace write place = .ok (.ok response)) places
      responses := by
  induction places generalizing responses with
  | nil =>
    rw [List.forall₂_nil_left_iff]
    exact ⟨fun h => (Except.ok.inj (Except.ok.inj h)).symm, fun h => h ▸ rfl⟩
  | cons place rest ih =>
    rw [List.forall₂_cons_left_iff]
    unfold writePlaces
    rcases hplace : writePlace write place with crash | status | response
    · exact iff_of_false nofun fun ⟨_, _, h, _⟩ => nomatch h
    · exact iff_of_false nofun fun ⟨_, _, h, _⟩ => nomatch h
    · dsimp only
      rcases hrest : writePlaces write rest with crash | status | written
      · refine iff_of_false nofun ?_
        rintro ⟨_, _, -, h, -⟩
        rw [← ih, hrest] at h
        cases h
      · refine iff_of_false nofun ?_
        rintro ⟨_, _, -, h, -⟩
        rw [← ih, hrest] at h
        cases h
      · constructor
        · intro h
          cases h
          exact ⟨response, written, rfl, ih.mp hrest, rfl⟩
        · rintro ⟨response', written', hresponse, h, rfl⟩
          cases hresponse
          cases hrest.symm.trans (ih.mpr h)
          rfl

theorem convertTensorsOrErrorToJson_eq_ok :
    convertTensorsOrErrorToJson write places = .ok (.ok responses) ↔
      List.Forall₂ (Writes write) places responses := by
  have hand : List.Forall₂ (Writes write) places responses ↔
      writePlaces write places = .ok (.ok responses) ∧
        (responses.all fun response => response.tensors.all TensorProto.isFinite) = true := by
    rw [writePlaces_eq_ok, List.all_eq_true]
    constructor
    · intro h
      refine ⟨h.imp fun _ _ h => h.1, ?_⟩
      induction h with
      | nil => exact nofun
      | cons hfirst _ ih => exact List.forall_mem_cons.mpr ⟨hfirst.2, ih⟩
    · rintro ⟨h, hall⟩
      induction h with
      | nil => exact .nil
      | cons hfirst _ ih =>
        rw [List.forall_mem_cons] at hall
        exact .cons ⟨hfirst, hall.1⟩ (ih hall.2)
  rw [hand]
  unfold convertTensorsOrErrorToJson
  rcases writePlaces write places with crash | status | written
  · exact iff_of_false nofun fun h => nomatch h.1
  · exact iff_of_false nofun fun h => nomatch h.1
  · show Except.ok (if _ then _ else _) = _ ↔ _
    split
    · rename_i hall
      constructor
      · intro h
        cases h
        exact ⟨rfl, hall⟩
      · rintro ⟨h, -⟩
        cases h
        rfl
    · rename_i hall
      refine iff_of_false nofun ?_
      rintro ⟨h, hall'⟩
      cases h
      exact hall hall'

theorem throws_of_convert {crash : Crash}
    (h : convertTensorsOrErrorToJson write places = .error crash) :
    ∃ place ∈ places, Throws write place := by
  have hplaces : writePlaces write places = .error crash := by
    unfold convertTensorsOrErrorToJson at h
    cases hwritten : writePlaces write places with
    | error crash' =>
      rw [hwritten] at h
      exact congrArg _ (Except.error.inj h)
    | ok written =>
      rw [hwritten] at h
      cases h
  clear h
  induction places with
  | nil => cases hplaces
  | cons place rest ih =>
    unfold writePlaces at hplaces
    split at hplaces
    · rename_i crash' hthrows
      exact ⟨place, List.mem_cons_self, crash', hthrows⟩
    · cases hplaces
    · cases hrest : writePlaces write rest with
      | error crash' =>
        rw [hrest] at hplaces
        cases hplaces
        obtain ⟨place', hmem, hthrows⟩ := ih hrest
        exact ⟨place', List.mem_cons_of_mem _ hmem, hthrows⟩
      | ok written =>
        rw [hrest] at hplaces
        cases hplaces

theorem convert_singleton_of_throws (h : Throws write place) :
    ∃ crash, convertTensorsOrErrorToJson write [place] = .error crash := by
  obtain ⟨crash, hcrash⟩ := h
  refine ⟨crash, ?_⟩
  unfold convertTensorsOrErrorToJson writePlaces
  rw [hcrash]
  rfl

/-- The response to a document that is built of some places. -/
def document (write : Writer Out) (places : List (String × Except ErrorProto Out)) :
    Except Crash (List InferenceResponseProto) :=
  (convertTensorsOrErrorToJson write places).map fun written =>
    match written with
    | .error _ => createBatchErrorString outputError
    | .ok responses => responses

theorem document_eq_ok : document write places = .ok responses ↔
    List.Forall₂ (Writes write) places responses ∨
      (∃ status, convertTensorsOrErrorToJson write places = .ok (.error status)) ∧
        responses = createBatchErrorString outputError := by
  rw [← convertTensorsOrErrorToJson_eq_ok]
  unfold document
  rcases convertTensorsOrErrorToJson write places with crash | status | written
  · exact iff_of_false nofun (by rintro (h | ⟨⟨_, h⟩, -⟩) <;> cases h)
  · constructor
    · intro h
      exact .inr ⟨⟨status, rfl⟩, (Except.ok.inj h).symm⟩
    · rintro (h | ⟨-, rfl⟩)
      · cases h
      · rfl
  · constructor
    · intro h
      cases h
      exact .inl rfl
    · rintro (h | ⟨⟨_, h⟩, -⟩)
      · cases h
        rfl
      · cases h

end Document

/-- The outputs that a writer writes, with numbers that JSON has, and those on which it throws. -/
structure WritesExactly (write : Writer Out) (isWritable throws : Out → Bool) : Prop where
  writes : ∀ modelPath out, isWritable out = true ↔
    ∃ tensors, write modelPath out = .ok (.ok tensors) ∧ tensors.all TensorProto.isFinite = true
  throws : ∀ modelPath out, throws out = true ↔ ∃ crash, write modelPath out = .error crash

namespace WritesExactly

variable {write : Writer Out} {isWritable throws : Out → Bool}
  (hwrite : WritesExactly write isWritable throws) (place : String × Except ErrorProto Out)

include hwrite

theorem writes_iff : (∃ response, Writes write place response) ↔
    ∀ out, place.2 = .ok out → isWritable out = true := by
  obtain ⟨modelPath, error | out⟩ := place
  · exact iff_of_true ⟨_, rfl, rfl⟩ nofun
  · have hout : (∀ out', Except.ok out = Except.ok (ε := ErrorProto) out' →
        isWritable out' = true) ↔ isWritable out = true :=
      ⟨fun h => h out rfl, fun h out' heq => Except.ok.inj heq ▸ h⟩
    rw [hout, hwrite.writes modelPath]
    unfold Writes writePlace
    dsimp only
    constructor
    · rintro ⟨response, hplace, hfinite⟩
      rcases hwritten : write modelPath out with crash | status | tensors
      all_goals rw [hwritten] at hplace
      · cases hplace
      · cases hplace
      · cases hplace
        exact ⟨tensors, rfl, hfinite⟩
    · rintro ⟨tensors, hwritten, hfinite⟩
      refine ⟨{ modelPath := modelPath, tensors := tensors }, ?_, hfinite⟩
      rw [hwritten]
      rfl

theorem not_throws_iff : ¬ Throws write place ↔
    ∀ out, place.2 = .ok out → throws out = false := by
  obtain ⟨modelPath, error | out⟩ := place
  · exact iff_of_true (by rintro ⟨_, h⟩; cases h) nofun
  · have hout : (∀ out', Except.ok out = Except.ok (ε := ErrorProto) out' →
        throws out' = false) ↔ ¬ throws out = true := by
      rw [Bool.not_eq_true]
      exact ⟨fun h => h out rfl, fun h out' heq => Except.ok.inj heq ▸ h⟩
    rw [hout, hwrite.throws modelPath]
    unfold Throws writePlace
    dsimp only
    cases write modelPath out <;> simp only [Except.map, reduceCtorEq, Except.error.injEq]

end WritesExactly

theorem predictFromJson_eq (P : Predictor Model Request Out) (write : Writer Out)
    (batch : List (Except ErrorProto Request)) :
    predictFromJson P write batch =
      if batch.all (isIndexedParsed P) then document write (batch.map (placeParsed P))
      else .error .missingElement := by
  rw [← mapM_launchParsed_bind]
  refine congrArg (batch.mapM (launchParsed P) >>= ·) (funext fun launched => ?_)
  unfold document
  rcases convertTensorsOrErrorToJson write (launched.map P.gather) with crash | status | responses
  <;> rfl

theorem predictFromProto_eq (P : Predictor Model Request (List OutputTensor))
    (batch : List Request) :
    predictFromProto P batch =
      guarded .missingElement (batch.all P.isIndexed)
        (batch.map fun request => protoResponse (P.place request)) := by
  have hbind := mapM_launchParsed_bind P (batch.map .ok) fun places =>
    .ok (places.map protoResponse)
  rw [List.mapM_map, List.all_map, List.map_map, List.map_map] at hbind
  refine Eq.trans ?_ hbind
  unfold predictFromProto
  simp only [List.map_map]
  rfl

/-! ## Isolation -/

/-- Each request of the batch is answered as if it was alone, with an error if it failed. -/
def IsIsolated {R : Type} (predict : List R → Except Crash (List InferenceResponseProto))
    (fails : R → Prop) (batch : List R) : Prop :=
  ∃ responses, predict batch = .ok responses ∧
    List.Forall₂ (fun r response => predict [r] = .ok [response] ∧
      (fails r → response.error ≠ none)) batch responses

/-- Reading, launching or running a request failed, or its output cannot be written. -/
def FailsAsJson (P : Predictor Model Request Out) (write : Writer Out)
    (parsed : Except ErrorProto Request) : Prop :=
  (∃ error, (placeParsed P parsed).2 = .error error) ∨
    ¬ ∃ response, Writes write (placeParsed P parsed) response

/-- The first dimensions are there, and all outputs can be written. A request that is alone may
have one that cannot, if that does not throw. -/
def IsAnswerable (P : Predictor Model Request Out) (isWritable throws : Out → Bool)
    (batch : List (Except ErrorProto Request)) : Prop :=
  (∀ parsed ∈ batch, isIndexedParsed P parsed = true) ∧
    ((∀ parsed ∈ batch, ∀ out, (placeParsed P parsed).2 = .ok out → isWritable out = true) ∨
      ∃ parsed, batch = [parsed] ∧
        ∀ out, (placeParsed P parsed).2 = .ok out → throws out = false)

section Json

variable {P : Predictor Model Request Out} {write : Writer Out}
  {parsed : Except ErrorProto Request} {batch : List (Except ErrorProto Request)}
  {response : InferenceResponseProto} {isWritable throws : Out → Bool}

theorem predictFromJson_of_writes {responses : List InferenceResponseProto}
    (hindexed : ∀ parsed ∈ batch, isIndexedParsed P parsed = true)
    (h : List.Forall₂ (fun parsed response => Writes write (placeParsed P parsed) response) batch
      responses) : predictFromJson P write batch = .ok responses := by
  rw [predictFromJson_eq, if_pos (List.all_eq_true.mpr hindexed)]
  exact document_eq_ok.mpr (.inl (List.forall₂_map_left_iff.mpr h))

theorem error_of_writes {place : String × Except ErrorProto Out} {error : ErrorProto}
    (herror : place.2 = .error error) (h : Writes write place response) :
    response.error = some { error with modelPath := "" } := by
  obtain ⟨modelPath, output⟩ := place
  cases herror
  cases h.1
  rfl

theorem predictFromJson_of_not_writes (hindexed : isIndexedParsed P parsed = true)
    (hnot : ¬ ∃ response, Writes write (placeParsed P parsed) response)
    (hthrows : ¬ Throws write (placeParsed P parsed)) :
    predictFromJson P write [parsed] = .ok (createBatchErrorString outputError) := by
  rw [predictFromJson_eq, if_pos (by simpa using hindexed), document_eq_ok]
  refine .inr ⟨?_, rfl⟩
  rw [List.map_singleton]
  rcases hconvert : convertTensorsOrErrorToJson write [placeParsed P parsed] with
    crash | status | responses
  · obtain ⟨place, hplace, h⟩ := throws_of_convert hconvert
    rw [List.mem_singleton.mp hplace] at h
    exact absurd h hthrows
  · exact ⟨status, rfl⟩
  · obtain ⟨response, -, h⟩ := exists_mem_of_forall₂
      (convertTensorsOrErrorToJson_eq_ok.mp hconvert) List.mem_cons_self
    exact absurd ⟨response, h⟩ hnot

theorem isIsolated_of_writes (hindexed : ∀ parsed ∈ batch, isIndexedParsed P parsed = true)
    (hwrites : ∀ parsed ∈ batch, ∃ response, Writes write (placeParsed P parsed) response) :
    IsIsolated (predictFromJson P write) (FailsAsJson P write) batch := by
  have hboth : ∀ parsed ∈ batch, ∃ response, isIndexedParsed P parsed = true ∧
      Writes write (placeParsed P parsed) response := by
    intro parsed hmem
    obtain ⟨response, h⟩ := hwrites parsed hmem
    exact ⟨response, hindexed parsed hmem, h⟩
  obtain ⟨responses, h⟩ := exists_forall₂_iff.mpr hboth
  refine ⟨responses, predictFromJson_of_writes hindexed (h.imp fun _ _ h => h.2), ?_⟩
  refine h.imp fun parsed response h => ⟨?_, ?_⟩
  · exact predictFromJson_of_writes (by simpa using h.1) (.cons h.2 .nil)
  · rintro (⟨error, herror⟩ | hnot)
    · rw [error_of_writes herror h.2]
      exact Option.some_ne_none _
    · exact absurd ⟨response, h.2⟩ hnot

theorem isIsolated_json_iff (hwrite : WritesExactly write isWritable throws) :
    IsIsolated (predictFromJson P write) (FailsAsJson P write) batch ↔
      IsAnswerable P isWritable throws batch := by
  unfold IsAnswerable
  simp only [← hwrite.writes_iff, ← hwrite.not_throws_iff]
  constructor
  · rintro ⟨responses, hpredict, halone⟩
    rw [predictFromJson_eq] at hpredict
    split at hpredict
    · rename_i hindexed
      refine ⟨List.all_eq_true.mp hindexed, ?_⟩
      rcases document_eq_ok.mp hpredict with hwrites | ⟨⟨status, hstatus⟩, rfl⟩
      · refine .inl fun parsed hmem => ?_
        obtain ⟨response, -, h⟩ := exists_mem_of_forall₂ hwrites (List.mem_map_of_mem hmem)
        exact ⟨response, h⟩
      · -- one response, so one request
        obtain ⟨parsed, rest, -, hrest, rfl⟩ := List.forall₂_cons_right_iff.mp halone
        rw [List.forall₂_nil_right_iff] at hrest
        subst hrest
        refine .inr ⟨parsed, rfl, fun hthrows => ?_⟩
        obtain ⟨crash, hcrash⟩ := convert_singleton_of_throws hthrows
        cases hcrash.symm.trans hstatus
    · cases hpredict
  · rintro ⟨hindexed, hwrites | ⟨parsed, rfl, hthrows⟩⟩
    · exact isIsolated_of_writes hindexed hwrites
    · by_cases hwrites : ∃ response, Writes write (placeParsed P parsed) response
      · exact isIsolated_of_writes hindexed (by simpa using hwrites)
      · have h := predictFromJson_of_not_writes (hindexed parsed List.mem_cons_self) hwrites hthrows
        exact ⟨_, h, .cons ⟨h, fun _ => Option.some_ne_none _⟩ .nil⟩

end Json

/-! ### Messages -/

def OutputTensor.isSupported (tensor : OutputTensor) : Bool := tensor.dataType.toBool

def HasUnsupported (place : String × Except ErrorProto (List OutputTensor)) : Prop :=
  ∃ tensors, place.2 = .ok tensors ∧ tensors.all OutputTensor.isSupported = false

/-- Launching or running a request failed, or a tensor of its output cannot be written. -/
def FailsAsProto (P : Predictor Model Request (List OutputTensor)) (request : Request) : Prop :=
  (∃ error, (P.place request).2 = .error error) ∨ HasUnsupported (P.place request)

def OutputTensor.isWritable (tensor : OutputTensor) : Bool :=
  tensor.isSupported && (tensor.tensorContent.tensorContentFloat.all Float32.isFinite &&
    tensor.tensorContent.tensorContentDouble.all Float.isFinite)

theorem OutputTensor.isWritable_iff (unsupported : String) (tensor : OutputTensor) :
    tensor.isWritable = true ↔
      ∃ proto, tensor.convert unsupported = .ok proto ∧ proto.isFinite = true := by
  unfold isWritable isSupported convert
  cases tensor.dataType with
  | error dataType => exact iff_of_false nofun (by rintro ⟨_, h, -⟩; cases h)
  | ok dataType =>
    constructor
    · exact fun h => ⟨_, rfl, h⟩
    · rintro ⟨proto, h, hfinite⟩
      cases h
      exact hfinite

theorem writesExactly_tensors : WritesExactly writeTensors
    (fun tensors => tensors.all OutputTensor.isWritable) fun _ => false where
  throws modelPath out := iff_of_false Bool.false_ne_true (by rintro ⟨_, h⟩; cases h)
  writes modelPath out := by
    unfold writeTensors
    induction out with
    | nil => exact iff_of_true rfl ⟨[], rfl, rfl⟩
    | cons tensor rest ih =>
      rw [List.all_cons, Bool.and_eq_true, ih, List.mapM_cons,
        OutputTensor.isWritable_iff "Unsupported data type "]
      constructor
      · rintro ⟨⟨proto, hproto, hfinite⟩, protos, hprotos, hall⟩
        refine ⟨proto :: protos, ?_, by rw [List.all_cons, hfinite, hall]; rfl⟩
        unfold OutputTensor.tensorToJsonValue at hprotos ⊢
        rw [hproto, Except.ok.inj hprotos]
        rfl
      · rintro ⟨written, hwritten, hall⟩
        obtain ⟨proto, hproto, hrest⟩ := except_bind_eq_ok.mp (Except.ok.inj hwritten)
        obtain ⟨protos, hprotos, hcons⟩ := except_bind_eq_ok.mp hrest
        obtain rfl : proto :: protos = written := Except.ok.inj hcons
        rw [List.all_cons, Bool.and_eq_true] at hall
        exact ⟨⟨proto, hproto, hall.1⟩, protos, congrArg _ hprotos, hall.2⟩

def IValue.isWritable : IValue → Bool
  | .tensor output => output.isWritable
  | .tuple elements => elements.all (·.any OutputTensor.isWritable)
  | .other => false

/-- The first element that is no tensor of a type that can be written is no tensor. -/
def IValue.throws : IValue → Bool
  | .tuple elements => (elements.find? fun element =>
      !element.any OutputTensor.isSupported).any Option.isNone
  | _ => false

theorem tupleToJsonValue_cons (tensor : OutputTensor) (rest : List (Option OutputTensor)) :
    tupleToJsonValue (some tensor :: rest) =
      match tensor.convert "Unsupported type " with
      | .error status => .ok (.error { status with code := .internal })
      | .ok json => (tupleToJsonValue rest).map fun jsons => jsons.map (json :: ·) := rfl

theorem tupleToJsonValue_writes (elements : List (Option OutputTensor)) :
    elements.all (·.any OutputTensor.isWritable) = true ↔
      ∃ protos, tupleToJsonValue elements = .ok (.ok protos) ∧
        protos.all TensorProto.isFinite = true := by
  induction elements with
  | nil => exact iff_of_true rfl ⟨[], rfl, rfl⟩
  | cons element rest ih =>
    rw [List.all_cons, Bool.and_eq_true, ih]
    cases element with
    | none => exact iff_of_false (fun h => nomatch h.1) (by rintro ⟨_, h, -⟩; cases h)
    | some tensor =>
      rw [Option.any_some, OutputTensor.isWritable_iff "Unsupported type ", tupleToJsonValue_cons]
      cases tensor.convert "Unsupported type " with
      | error status =>
        exact iff_of_false (by rintro ⟨⟨_, h, -⟩, -⟩; cases h) (by rintro ⟨_, h, -⟩; cases h)
      | ok proto =>
        dsimp only
        constructor
        · rintro ⟨⟨_, hproto, hfinite⟩, protos, hrest, hall⟩
          cases hproto
          exact ⟨proto :: protos, by rw [hrest]; rfl, by rw [List.all_cons, hfinite, hall]; rfl⟩
        · rintro ⟨written, hwritten, hall⟩
          rcases hrest : tupleToJsonValue rest with crash | status | protos
          all_goals rw [hrest] at hwritten; cases hwritten
          rw [List.all_cons, Bool.and_eq_true] at hall
          exact ⟨⟨proto, rfl, hall.1⟩, protos, rfl, hall.2⟩

theorem tupleToJsonValue_throws (elements : List (Option OutputTensor)) :
    (IValue.tuple elements).throws = true ↔
      ∃ crash, tupleToJsonValue elements = .error crash := by
  induction elements with
  | nil => exact iff_of_false nofun (by rintro ⟨_, h⟩; cases h)
  | cons element rest ih =>
    unfold IValue.throws at ih ⊢
    dsimp only at ih ⊢
    rw [List.find?_cons]
    cases element with
    | none => exact iff_of_true rfl ⟨_, rfl⟩
    | some tensor =>
      rw [Option.any_some, tupleToJsonValue_cons]
      unfold OutputTensor.convert
      unfold OutputTensor.isSupported at ih ⊢
      cases tensor.dataType with
      | error dataType => exact iff_of_false nofun (by rintro ⟨_, h⟩; cases h)
      | ok dataType =>
        refine ih.trans (exists_congr fun crash => ?_)
        cases tupleToJsonValue rest <;>
          simp only [Except.map, reduceCtorEq, Except.error.injEq]

theorem writesExactly_iValue : WritesExactly iValueToJsonValue IValue.isWritable IValue.throws where
  writes modelPath out := by
    cases out with
    | tensor tensor =>
      have hsingle := tupleToJsonValue_writes [some tensor]
      rwa [List.all_cons, List.all_nil, Bool.and_true] at hsingle
    | tuple elements => exact tupleToJsonValue_writes elements
    | other => exact iff_of_false nofun (by rintro ⟨_, h, -⟩; cases h)
  throws modelPath out := by
    cases out with
    | tensor tensor =>
      refine iff_of_false nofun fun hthrows => ?_
      have h := (tupleToJsonValue_throws [some tensor]).mpr hthrows
      unfold IValue.throws at h
      dsimp only at h
      rw [List.find?_cons] at h
      split at h <;> cases h
    | tuple elements => exact tupleToJsonValue_throws elements
    | other => exact iff_of_false nofun (by rintro ⟨_, h⟩; cases h)

theorem errorType_foldl_addOutput (tensors : List OutputTensor)
    (response : InferenceResponseProto) :
    (tensors.foldl addOutput response).error.map ErrorProto.errorType =
      if tensors.all OutputTensor.isSupported then response.error.map ErrorProto.errorType
      else some .outputParsing := by
  induction tensors generalizing response with
  | nil => rfl
  | cons tensor rest ih =>
    rw [List.foldl_cons, ih, List.all_cons]
    unfold addOutput OutputTensor.convertTensorToProto OutputTensor.convert
      OutputTensor.isSupported
    cases tensor.dataType with
    | error dataType =>
      show _ = if (false && _) = true then _ else _
      rw [Bool.false_and, if_neg Bool.false_ne_true]
      split <;> rfl
    | ok dataType => rfl

theorem foldl_addOutput_of_mapM {tensors : List OutputTensor} {protos : List TensorProto}
    (h : tensors.mapM OutputTensor.tensorToJsonValue = .ok protos)
    (response : InferenceResponseProto) :
    tensors.foldl addOutput response =
      { response with tensors := response.tensors ++ protos } := by
  induction tensors generalizing response protos with
  | nil =>
    obtain rfl : [] = protos := Except.ok.inj h
    rw [List.append_nil]
    rfl
  | cons tensor rest ih =>
    rw [List.mapM_cons] at h
    obtain ⟨written, hwritten, h⟩ := except_bind_eq_ok.mp h
    obtain ⟨others, hothers, h⟩ := except_bind_eq_ok.mp h
    obtain rfl : written :: others = protos := Except.ok.inj h
    have hadd : addOutput response tensor =
        { response with tensors := response.tensors ++ [written] } := by
      unfold OutputTensor.tensorToJsonValue OutputTensor.convert at hwritten
      unfold addOutput OutputTensor.convertTensorToProto OutputTensor.convert
      cases hdata : tensor.dataType with
      | error dataType =>
        rw [hdata] at hwritten
        cases hwritten
      | ok dataType =>
        rw [hdata] at hwritten
        cases hwritten
        rfl
    rw [List.foldl_cons, hadd, ih hothers, List.append_assoc]
    rfl

theorem error_protoResponse_of_fails {P : Predictor Model Request (List OutputTensor)}
    {request : Request} (h : FailsAsProto P request) :
    (protoResponse (P.place request)).error ≠ none := by
  unfold FailsAsProto at h
  generalize P.place request = place at h ⊢
  obtain ⟨modelPath, output⟩ := place
  rcases h with ⟨error, rfl⟩ | ⟨tensors, rfl, hunsupported⟩
  · exact Option.some_ne_none _
  · intro hnone
    have herror := errorType_foldl_addOutput tensors { modelPath := modelPath }
    rw [hunsupported, if_neg Bool.false_ne_true] at herror
    unfold protoResponse at hnone
    rw [hnone] at herror
    cases herror

theorem isIsolated_proto_iff (P : Predictor Model Request (List OutputTensor))
    (batch : List Request) :
    IsIsolated (predictFromProto P) (FailsAsProto P) batch ↔
      ∀ request ∈ batch, P.isIndexed request = true := by
  rw [← List.all_eq_true]
  constructor
  · rintro ⟨responses, hpredict, -⟩
    rw [predictFromProto_eq, guarded_eq_ok] at hpredict
    exact hpredict.1
  · intro hindexed
    refine ⟨_, by rw [predictFromProto_eq, hindexed, guarded_true], ?_⟩
    rw [List.forall₂_map_right_iff, List.forall₂_same]
    intro request hmem
    refine ⟨?_, error_protoResponse_of_fails⟩
    rw [predictFromProto_eq, guarded_eq_ok]
    exact ⟨by simpa using List.all_eq_true.mp hindexed request hmem, rfl⟩

/-! ### Both forms -/

/-- The two responses have an error of one type, or the same tensors. -/
def SameOutcome (json proto : InferenceResponseProto) : Prop :=
  json.error.map ErrorProto.errorType = proto.error.map ErrorProto.errorType ∧
    (json.error = none → json = proto)

section Both

variable {T : Type} (tf : TensorFlowRuntime Model T (List OutputTensor))
  (getModel : String → Except Inference.Status Model)

def jsonPredictor : Predictor Model InferenceRequest (List OutputTensor) where
  modelPath := InferenceRequest.modelPath
  shapes request := request.inputs.map Tensor.tensorShape
  getModel := getModel
  run := predictPerModelFromJson tf

def protoPredictor : Predictor Model InferenceRequestProto (List OutputTensor) where
  modelPath := InferenceRequestProto.modelPath
  shapes request := request.tensors.map TensorProto.tensorShape
  getModel := getModel
  run := predictPerModelFromProto tf

def torchPredictor (torch : PyTorchRuntime Model T IValue) :
    Predictor Model InferenceRequest IValue where
  modelPath := InferenceRequest.modelPath
  shapes request := request.inputs.map Tensor.tensorShape
  getModel := getModel
  run := predictInternal torch

def Agrees (batch : List (InferenceRequest × InferenceRequestProto)) : Prop :=
  ∃ json proto, predictFromJson (jsonPredictor tf getModel) writeTensors
      (batch.map fun request => .ok request.1) = .ok json ∧
    predictFromProto (protoPredictor tf getModel) (batch.map Prod.snd) = .ok proto ∧
    List.Forall₂ SameOutcome json proto

variable {tf getModel} {batch : List (InferenceRequest × InferenceRequestProto)}

theorem SameRequest.isIndexed {json : InferenceRequest} {proto : InferenceRequestProto}
    (h : SameRequest tf json proto) :
    (jsonPredictor tf getModel).isIndexed json = (protoPredictor tf getModel).isIndexed proto := by
  unfold Predictor.isIndexed jsonPredictor protoPredictor
  dsimp only
  rw [h.modelPath, h.shapes]

theorem SameRequest.place {json : InferenceRequest} {proto : InferenceRequestProto}
    (h : SameRequest tf json proto) :
    (jsonPredictor tf getModel).place json = (protoPredictor tf getModel).place proto := by
  unfold Predictor.place Predictor.launched jsonPredictor protoPredictor
  dsimp only
  rw [h.modelPath]
  cases getModel proto.modelPath with
  | error status => rfl
  | ok model =>
    unfold Predictor.gather
    dsimp only
    rw [h.modelPath, h.predictPerModel]

theorem predictFromJson_of_same (hsame : ∀ request ∈ batch, SameRequest tf request.1 request.2) :
    predictFromJson (jsonPredictor tf getModel) writeTensors
        (batch.map fun request => .ok request.1) =
      if (batch.map Prod.snd).all (protoPredictor tf getModel).isIndexed then
        document writeTensors ((batch.map Prod.snd).map (protoPredictor tf getModel).place)
      else .error .missingElement := by
  have hindexed : (batch.map fun request => Except.ok (ε := ErrorProto) request.1).all
        (isIndexedParsed (jsonPredictor tf getModel)) =
      (batch.map Prod.snd).all (protoPredictor tf getModel).isIndexed := by
    rw [List.all_map, List.all_map, Bool.eq_iff_iff, List.all_eq_true, List.all_eq_true]
    exact forall₂_congr fun request hmem => iff_of_eq (congrArg (· = true)
      (hsame request hmem).isIndexed)
  have hplaces : (batch.map fun request => Except.ok (ε := ErrorProto) request.1).map
        (placeParsed (jsonPredictor tf getModel)) =
      (batch.map Prod.snd).map (protoPredictor tf getModel).place := by
    rw [List.map_map, List.map_map]
    exact List.map_congr_left fun request hmem => (hsame request hmem).place
  rw [predictFromJson_eq, hindexed, hplaces]

end Both

theorem writePlace_tensors (modelPath : String) (tensors : List OutputTensor) :
    writePlace writeTensors (modelPath, .ok tensors) =
      .ok ((tensors.mapM OutputTensor.tensorToJsonValue).map fun tensors =>
        { modelPath := modelPath, tensors := tensors }) := rfl

theorem sameOutcome_of_writes {place : String × Except ErrorProto (List OutputTensor)}
    {response : InferenceResponseProto} (h : Writes writeTensors place response) :
    SameOutcome response (protoResponse place) := by
  obtain ⟨modelPath, error | tensors⟩ := place
  · cases h.1
    exact ⟨rfl, nofun⟩
  · have hwrite := h.1
    rw [writePlace_tensors] at hwrite
    cases hprotos : tensors.mapM OutputTensor.tensorToJsonValue with
    | error status =>
      rw [hprotos] at hwrite
      cases hwrite
    | ok protos =>
      rw [hprotos] at hwrite
      cases hwrite
      unfold protoResponse
      dsimp only
      rw [foldl_addOutput_of_mapM hprotos]
      exact ⟨rfl, fun _ => rfl⟩

theorem sameOutcome_outputError_iff {place : String × Except ErrorProto (List OutputTensor)}
    (hconvert : ∃ status, convertTensorsOrErrorToJson writeTensors [place] = .ok (.error status)) :
    SameOutcome { error := some outputError } (protoResponse place) ↔ HasUnsupported place := by
  obtain ⟨status, hstatus⟩ := hconvert
  obtain ⟨modelPath, error | tensors⟩ := place
  · cases hstatus
  · have herror := errorType_foldl_addOutput tensors { modelPath := modelPath }
    unfold SameOutcome HasUnsupported protoResponse
    dsimp only
    rw [herror]
    cases hall : tensors.all OutputTensor.isSupported with
    | false => exact iff_of_true ⟨rfl, nofun⟩ ⟨tensors, rfl, hall⟩
    | true =>
      refine iff_of_false (fun h => nomatch h.1) ?_
      rintro ⟨tensors', htensors, hunsupported⟩
      rw [← Except.ok.inj htensors, hall] at hunsupported
      cases hunsupported

theorem convert_of_hasUnsupported {place : String × Except ErrorProto (List OutputTensor)}
    (h : HasUnsupported place) :
    ∃ status, convertTensorsOrErrorToJson writeTensors [place] = .ok (.error status) := by
  obtain ⟨modelPath, output⟩ := place
  obtain ⟨tensors, rfl, hunsupported⟩ := h
  cases hprotos : tensors.mapM OutputTensor.tensorToJsonValue with
  | error status =>
    refine ⟨status, ?_⟩
    unfold convertTensorsOrErrorToJson writePlaces
    rw [writePlace_tensors, hprotos]
    rfl
  | ok protos =>
    have herror := errorType_foldl_addOutput tensors {}
    rw [foldl_addOutput_of_mapM hprotos, hunsupported] at herror
    cases herror

theorem document_agrees_iff (places : List (String × Except ErrorProto (List OutputTensor))) :
    (∃ json, document writeTensors places = .ok json ∧
        List.Forall₂ SameOutcome json (places.map protoResponse)) ↔
      (∀ place ∈ places, ∃ response, Writes writeTensors place response) ∨
        ∃ place, places = [place] ∧ HasUnsupported place := by
  constructor
  · rintro ⟨json, hdocument, hsame⟩
    rcases document_eq_ok.mp hdocument with hwrites | ⟨hconvert, rfl⟩
    · refine .inl fun place hmem => ?_
      obtain ⟨response, -, h⟩ := exists_mem_of_forall₂ hwrites hmem
      exact ⟨response, h⟩
    · -- one response, so one place
      obtain ⟨response, rest, houtcome, hrest, hplaces⟩ := List.forall₂_cons_left_iff.mp hsame
      rw [List.forall₂_nil_left_iff] at hrest
      subst hrest
      obtain ⟨place, rfl, rfl⟩ := List.map_eq_singleton_iff.mp hplaces
      exact .inr ⟨place, rfl, (sameOutcome_outputError_iff hconvert).mp houtcome⟩
  · rintro (hwrites | ⟨place, rfl, hunsupported⟩)
    · obtain ⟨json, h⟩ := exists_forall₂_iff.mpr hwrites
      refine ⟨json, document_eq_ok.mpr (.inl h), ?_⟩
      rw [List.forall₂_map_right_iff]
      exact h.flip.imp fun _ _ h => sameOutcome_of_writes h
    · have hconvert := convert_of_hasUnsupported hunsupported
      exact ⟨_, document_eq_ok.mpr (.inr ⟨hconvert, rfl⟩),
        .cons ((sameOutcome_outputError_iff hconvert).mpr hunsupported) .nil⟩

/-- The forms agree on a batch where its first dimensions are there and all outputs can be
written. Requests that are alone may have one of a type that cannot. -/
theorem formsAgree_iff {T : Type} {tf : TensorFlowRuntime Model T (List OutputTensor)}
    {getModel : String → Except Inference.Status Model}
    {batch : List (InferenceRequest × InferenceRequestProto)}
    (hsame : ∀ request ∈ batch, SameRequest tf request.1 request.2) :
    Agrees tf getModel batch ↔
      (∀ request ∈ batch.map Prod.snd, (protoPredictor tf getModel).isIndexed request = true) ∧
        ((∀ request ∈ batch.map Prod.snd, ∀ tensors,
            ((protoPredictor tf getModel).place request).2 = .ok tensors →
              tensors.all OutputTensor.isWritable = true) ∨
          ∃ request, batch.map Prod.snd = [request] ∧
            HasUnsupported ((protoPredictor tf getModel).place request)) := by
  unfold Agrees
  rw [predictFromJson_of_same hsame, ← List.all_eq_true]
  simp only [predictFromProto_eq, guarded_eq_ok]
  generalize batch.map Prod.snd = requests
  by_cases hindexed : requests.all (protoPredictor tf getModel).isIndexed = true
  · have hagrees := document_agrees_iff (requests.map (protoPredictor tf getModel).place)
    simp only [List.forall_mem_map, writesExactly_tensors.writes_iff, List.map_map,
      List.map_eq_singleton_iff] at hagrees
    rw [if_pos hindexed]
    constructor
    · rintro ⟨json, _, hdocument, ⟨-, rfl⟩, houtcomes⟩
      refine ⟨hindexed, (hagrees.mp ⟨json, hdocument, houtcomes⟩).imp id ?_⟩
      rintro ⟨_, ⟨request, rfl, rfl⟩, hunsupported⟩
      exact ⟨request, rfl, hunsupported⟩
    · rintro ⟨-, hwrites⟩
      obtain ⟨json, hdocument, houtcomes⟩ := hagrees.mpr (hwrites.imp id fun
        ⟨request, hrequest, hunsupported⟩ => ⟨_, ⟨request, hrequest, rfl⟩, hunsupported⟩)
      exact ⟨json, _, hdocument, ⟨hindexed, rfl⟩, houtcomes⟩
  · rw [if_neg hindexed]
    exact iff_of_false (by rintro ⟨_, _, h, -⟩; cases h) fun h => hindexed h.1

def stringRuntime : TensorFlowRuntime Unit Unit (List OutputTensor) where
  convertFlatArrayToTensor _ := .ok ()
  convertProtoToTensor _ := .ok ()
  predictPerModelInternal _ modelPath _ :=
    .ok (if modelPath = "strings" then [{ dataType := .error "DT_STRING" }] else [])

end InferencePayload

end BiddingAuction

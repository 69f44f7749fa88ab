import BiddingAuction.Common.Accessors

/-!
# What the bidding scripts return

A script returns a text. With logging `generateBid` returns its logs beside its bids, without
it the bids alone; `prepareDataForAdRetrieval` always returns an object. The members of what is
returned are read with the accessors of the JSON library, so a text that is JSON of another
shape ends the process.
-/

namespace BiddingAuction

open Foundation

/-- The JSON library, between texts and documents. -/
structure JsonTexts where
  parseJsonString : String → Except String Json
  serializeJsonDoc : Json → Except String String

namespace Json

/-- `document[name]`, of an object with that member. -/
def subscript (name : String) (document : Json) : Except ReadError Json := do
  match ← document.member? name with
  | some value => return value
  | none => .error .asserted

/-- `MayVlogAdTechCodeLogs` of one type of log: what is logged. -/
def mayVlogLogs (document : Json) (logType : String) : Except ReadError (List String) := do
  return (← document.readStrings logType).map fun log => logType ++ ": " ++ log

def mayVlogAdTechCodeLogs (enableAdTechCodeLogging : Bool) (document : Json) :
    Except ReadError (List String) :=
  if !enableAdTechCodeLogging then .ok []
  else do
    let logs ← document.mayVlogLogs "logs"
    let warnings ← document.mayVlogLogs "warnings"
    let errors ← document.mayVlogLogs "errors"
    return logs ++ warnings ++ errors

end Json

namespace JsonTexts

variable (lib : JsonTexts)

def serializeJsonArrayDocToVector (document : Json) : Except String (List String) :=
  match document with
  | .array elements => elements.mapM lib.serializeJsonDoc
  | _ => .error "Expected a JSON array."

def parseAndGetResponseJsonArray (enableAdTechCodeLogging : Bool) (response : String) :
    Except ReadError (Except String (List String)) :=
  match lib.parseJsonString response with
  | .error status => .ok (.error status)
  | .ok document =>
    if enableAdTechCodeLogging then do
      let _ ← document.mayVlogAdTechCodeLogs enableAdTechCodeLogging
      return lib.serializeJsonArrayDocToVector (← document.subscript "response")
    else
      .ok (lib.serializeJsonArrayDocToVector document)

/-- What `StartNonContextualAdsRetrieval` makes of the response of the script. -/
def parsePreparedData (response : String) : Except ReadError (Except String String) :=
  match lib.parseJsonString response with
  | .error status => .ok (.error status)
  | .ok document => do
    return lib.serializeJsonDoc (← document.subscript "response")

end JsonTexts

/-! ## Documents that are read to their end -/

namespace Json

/-- The document has a member `response`. -/
def hasResponse (document : Json) : Bool := (document.findMember "response").isSome

/-- The member `response`. -/
def responseRead (document : Json) : Json := (document.findMember "response").getD .null

/-- A response with logs: an object with a member `response`, and lists of strings for logs. -/
def isLoggedResponse (document : Json) : Bool :=
  document.absentOr "logs" areStrings && document.absentOr "warnings" areStrings &&
    document.absentOr "errors" areStrings && document.hasResponse

theorem isObject_of_hasResponse {document : Json} (h : document.hasResponse = true) :
    document.isObject = true := by
  cases document with
  | object members => rfl
  | _ => cases h

theorem subscript_guarded (document : Json) :
    document.subscript "response" =
      guarded .asserted document.hasResponse document.responseRead := by
  cases document with
  | object members =>
    unfold subscript hasResponse responseRead
    rw [member?_object]
    cases (object members).findMember "response" <;> rfl
  | _ => rfl

def logsRead (document : Json) (logType : String) : List String :=
  (document.stringsUnder logType).map fun log => logType ++ ": " ++ log

theorem mayVlogLogs_guarded (document : Json) (logType : String) :
    document.mayVlogLogs logType =
      guarded .asserted (document.isObject && document.absentOr logType areStrings)
        (document.logsRead logType) := by
  unfold mayVlogLogs
  rw [readStrings_guarded]
  exact guarded_bind_pure _

theorem mayVlogAdTechCodeLogs_guarded (document : Json) :
    document.mayVlogAdTechCodeLogs true =
      guarded .asserted
        ((document.isObject && document.absentOr "logs" areStrings) &&
          ((document.isObject && document.absentOr "warnings" areStrings) &&
            (document.isObject && document.absentOr "errors" areStrings)))
        (document.logsRead "logs" ++ document.logsRead "warnings" ++
          document.logsRead "errors") := by
  unfold mayVlogAdTechCodeLogs
  rw [mayVlogLogs_guarded, mayVlogLogs_guarded, mayVlogLogs_guarded]
  refine guarded_bind fun _ => ?_
  refine guarded_bind fun _ => ?_
  exact guarded_bind_pure _

end Json

namespace JsonTexts

variable {lib : JsonTexts} {response : String} {document : Json}

theorem parseAndGetResponseJsonArray_guarded
    (hdocument : lib.parseJsonString response = .ok document) :
    lib.parseAndGetResponseJsonArray true response =
      guarded .asserted document.isLoggedResponse
        (lib.serializeJsonArrayDocToVector document.responseRead) := by
  unfold parseAndGetResponseJsonArray
  rw [hdocument]
  dsimp only
  rw [if_pos rfl, Json.mayVlogAdTechCodeLogs_guarded, Json.subscript_guarded]
  -- an object is asked for by each accessor
  have hshape : document.isLoggedResponse =
      (((document.isObject && document.absentOr "logs" Json.areStrings) &&
        ((document.isObject && document.absentOr "warnings" Json.areStrings) &&
          (document.isObject && document.absentOr "errors" Json.areStrings))) &&
        document.hasResponse) := by
    unfold Json.isLoggedResponse
    cases hresponse : document.hasResponse with
    | false => simp
    | true =>
      rw [Json.isObject_of_hasResponse hresponse]
      simp [Bool.and_assoc]
  rw [hshape]
  refine guarded_bind fun _ => ?_
  exact guarded_bind_pure _

theorem parseAndGetResponseJsonArray_without_logging
    (hdocument : lib.parseJsonString response = .ok document) :
    lib.parseAndGetResponseJsonArray false response =
      .ok (lib.serializeJsonArrayDocToVector document) := by
  unfold parseAndGetResponseJsonArray
  rw [hdocument]
  rfl

theorem parsePreparedData_guarded (hdocument : lib.parseJsonString response = .ok document) :
    lib.parsePreparedData response =
      guarded .asserted document.hasResponse (lib.serializeJsonDoc document.responseRead) := by
  unfold parsePreparedData
  rw [hdocument]
  dsimp only
  rw [Json.subscript_guarded]
  exact guarded_bind_pure _

/-- Where it is JSON the response has the shape that is read. -/
def Readable (lib : JsonTexts) (enableAdTechCodeLogging : Bool) (response : String) : Prop :=
  enableAdTechCodeLogging = true → ∀ document, lib.parseJsonString response = .ok document →
    document.isLoggedResponse = true

/-- Where it is JSON the response has a member `response`. -/
def ReadablePrepared (lib : JsonTexts) (response : String) : Prop :=
  ∀ document, lib.parseJsonString response = .ok document → document.hasResponse = true

theorem readable_iff (lib : JsonTexts) (enableAdTechCodeLogging : Bool) (response : String) :
    lib.parseAndGetResponseJsonArray enableAdTechCodeLogging response ≠ .error .asserted ↔
      lib.Readable enableAdTechCodeLogging response := by
  unfold Readable
  cases hparse : lib.parseJsonString response with
  | error status =>
    unfold parseAndGetResponseJsonArray
    rw [hparse]
    exact iff_of_true (fun h => nomatch h) nofun
  | ok document =>
    cases enableAdTechCodeLogging with
    | false =>
      rw [parseAndGetResponseJsonArray_without_logging hparse]
      exact iff_of_true (fun h => nomatch h) nofun
    | true =>
      rw [parseAndGetResponseJsonArray_guarded hparse, guarded_ne_error]
      constructor
      · rintro h - _ hdocument
        cases hdocument
        exact h
      · intro h
        exact h rfl document rfl

theorem readablePrepared_iff (lib : JsonTexts) (response : String) :
    lib.parsePreparedData response ≠ .error .asserted ↔ lib.ReadablePrepared response := by
  unfold ReadablePrepared
  cases hparse : lib.parseJsonString response with
  | error status =>
    unfold parsePreparedData
    rw [hparse]
    exact iff_of_true (fun h => nomatch h) nofun
  | ok document =>
    rw [parsePreparedData_guarded hparse, guarded_ne_error]
    constructor
    · rintro h _ hdocument
      cases hdocument
      exact h
    · intro h
      exact h document rfl

theorem parseAndGetResponseJsonArray_error {enableAdTechCodeLogging : Bool} {e : ReadError}
    (h : lib.parseAndGetResponseJsonArray enableAdTechCodeLogging response = .error e) :
    e = .asserted := by
  cases hparse : lib.parseJsonString response with
  | error status =>
    unfold parseAndGetResponseJsonArray at h
    rw [hparse] at h
    cases h
  | ok document =>
    cases enableAdTechCodeLogging with
    | false =>
      rw [parseAndGetResponseJsonArray_without_logging hparse] at h
      cases h
    | true =>
      rw [parseAndGetResponseJsonArray_guarded hparse, guarded_eq_error] at h
      exact h.2.symm

theorem parsePreparedData_error {e : ReadError} (h : lib.parsePreparedData response = .error e) :
    e = .asserted := by
  cases hparse : lib.parseJsonString response with
  | error status =>
    unfold parsePreparedData at h
    rw [hparse] at h
    cases h
  | ok document =>
    rw [parsePreparedData_guarded hparse, guarded_eq_error] at h
    exact h.2.symm

/-- What was prepared is the member `response`, as text. -/
theorem parsePreparedData_eq_ok {prepared : String} :
    lib.parsePreparedData response = .ok (.ok prepared) ↔
      ∃ document value, lib.parseJsonString response = .ok document ∧
        document.findMember "response" = some value ∧
        lib.serializeJsonDoc value = .ok prepared := by
  cases hparse : lib.parseJsonString response with
  | error status =>
    unfold parsePreparedData
    rw [hparse]
    exact iff_of_false (fun h => nomatch Except.ok.inj h) fun ⟨_, _, h, _⟩ => nomatch h
  | ok document =>
    rw [parsePreparedData_guarded hparse, guarded_eq_ok]
    unfold Json.hasResponse Json.responseRead
    constructor
    · rintro ⟨hsome, hprepared⟩
      obtain ⟨value, hvalue⟩ := Option.isSome_iff_exists.mp hsome
      rw [hvalue] at hprepared
      exact ⟨document, value, rfl, hvalue, hprepared⟩
    · rintro ⟨_, value, hdocument, hvalue, hprepared⟩
      cases hdocument
      rw [hvalue]
      exact ⟨rfl, hprepared⟩

end JsonTexts

end BiddingAuction

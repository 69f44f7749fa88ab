import BiddingAuction.Common.Accessors
import BiddingAuction.Common.CString
import BiddingAuction.Common.Reporting
import BiddingAuction.Common.Status
import BiddingAuction.PrivateAggregation.ScriptDocument

/-!
# Responses of the reporting scripts

`reportResult` and `reportWin` run in one script or in two. What they return is read with the
accessors of the JSON library, of which few are guarded by a check of the type. The responses
that are read to their end are told apart by their shape; in them the URLs are those of the
text if no name or URL has a null character and no event is there twice.
-/

namespace BiddingAuction

open Foundation

/-! ## Responses -/

structure ReportResultResponse where
  reportResultUrl : String := ""
  interactionReportingUrls : FlatHashMap String String := ∅
  sendReportToInvoked : Bool := false
  registerAdBeaconInvoked : Bool := false
  signalsForWinner : String := ""
  paggResponse : PrivateAggregateReportingResponse ℚ := {}

structure ReportWinResponse where
  reportWinUrl : String := ""
  interactionReportingUrls : FlatHashMap String String := ∅
  sendReportToInvoked : Bool := false
  registerAdBeaconInvoked : Bool := false
  paggResponse : PrivateAggregateReportingResponse ℚ := {}

/-- `ReportingResponse`: of the script that runs both. -/
structure ReportingResponse where
  reportResultResponse : ReportResultResponse := {}
  sellerLogs : List String := []
  sellerErrorLogs : List String := []
  sellerWarningLogs : List String := []
  reportWinResponse : ReportWinResponse := {}
  buyerLogs : List String := []
  buyerErrorLogs : List String := []
  buyerWarningLogs : List String := []

abbrev StatusOr (ρ : Type) := Except (GrpcStatusCode × String) ρ

/-! ## Reading -/

/-- `PS_ASSIGN_IF_PRESENT` of a string. -/
def assignString (dst : String) (src : Json) (key : String) : Except ReadError String := do
  match ← src.member? key with
  | some (.string s) => return cString s
  | _ => return dst

/-- `PS_ASSIGN_IF_PRESENT` of a boolean. -/
def assignBool (dst : Bool) (src : Json) (key : String) : Except ReadError Bool := do
  match ← src.member? key with
  | some (.bool b) => return b
  | _ => return dst

/-- `PS_ASSIGN_IF_PRESENT` of an object. -/
def assignObject (dst : Json) (src : Json) (key : String) : Except ReadError Json := do
  match ← src.member? key with
  | some (.object members) => return .object members
  | _ => return dst

def readUrl (member : String × Json) : Except ReadError (String × String) := do
  return (cString member.1, ← member.2.getString)

/-- The interaction URLs. The value that the loop goes over stays null if none is assigned. -/
def readInteractionUrls (responseObj : Json) : Except ReadError (FlatHashMap String String) := do
  let interactionReportingUrlsMap ← assignObject .null responseObj "interactionReportingUrls"
  let members ← interactionReportingUrlsMap.getMembers
  let urls ← members.mapM readUrl
  return urls.foldl (fun m url => FlatHashMap.emplace m url.1 url.2) ∅

def parseLogs (document : Json) (logType : String) (out : List String) :
    Except ReadError (List String) := do
  return out ++ (← document.readStrings logType)

def parseAllLogs (document : Json) (response : ReportingResponse) :
    Except ReadError ReportingResponse := do
  let sellerLogs ← parseLogs document "sellerLogs" response.sellerLogs
  let sellerErrorLogs ← parseLogs document "sellerErrors" response.sellerErrorLogs
  let sellerWarningLogs ← parseLogs document "sellerWarnings" response.sellerWarningLogs
  let buyerLogs ← parseLogs document "buyerLogs" response.buyerLogs
  let buyerErrorLogs ← parseLogs document "buyerErrors" response.buyerErrorLogs
  let buyerWarningLogs ← parseLogs document "buyerWarnings" response.buyerWarningLogs
  return { response with
    sellerLogs := sellerLogs
    sellerErrorLogs := sellerErrorLogs
    sellerWarningLogs := sellerWarningLogs
    buyerLogs := buyerLogs
    buyerErrorLogs := buyerErrorLogs
    buyerWarningLogs := buyerWarningLogs }

/-- The part of `reportResult` in the combined response. -/
def readReportResult (responseObj : Json) : Except ReadError ReportResultResponse := do
  let reportResultUrl ← assignString "" responseObj "reportResultUrl"
  let sendReportToInvoked ← assignBool false responseObj "sendReportToInvoked"
  let registerAdBeaconInvoked ← assignBool false responseObj "registerAdBeaconInvoked"
  let interactionReportingUrls ← readInteractionUrls responseObj
  return {
    reportResultUrl := reportResultUrl
    interactionReportingUrls := interactionReportingUrls
    sendReportToInvoked := sendReportToInvoked
    registerAdBeaconInvoked := registerAdBeaconInvoked }

/-- The part of `reportWin` in the combined response. -/
def readReportWin (reportWinObj : Json) : Except ReadError ReportWinResponse := do
  let reportWinUrl ← assignString "" reportWinObj "reportWinUrl"
  let sendReportToInvoked ← assignBool false reportWinObj "sendReportToInvoked"
  let registerAdBeaconInvoked ← assignBool false reportWinObj "registerAdBeaconInvoked"
  let interactionReportingUrls ← readInteractionUrls reportWinObj
  return {
    reportWinUrl := reportWinUrl
    interactionReportingUrls := interactionReportingUrls
    sendReportToInvoked := sendReportToInvoked
    registerAdBeaconInvoked := registerAdBeaconInvoked }

section Parse

variable (parseJsonString : String → Except String Json)

/-- `ParseAndGetReportingResponse`: without a part of `reportResult` nothing else is read. -/
def parseAndGetReportingResponse (enableAdtechCodeLogging : Bool) (response : String) :
    Except ReadError (StatusOr ReportingResponse) :=
  match parseJsonString response with
  | .error message => .ok (.error (.invalidArgument, message))
  | .ok document => do
    match ← document.member? "reportResultResponse" with
    | none => return .ok {}
    | some responseObj =>
      -- `document[kReportResultResponse]`, of whatever type it is
      let reportResultResponse ← readReportResult responseObj
      let reportingResponse : ReportingResponse := { reportResultResponse := reportResultResponse }
      let reportingResponse ← if enableAdtechCodeLogging then
          parseAllLogs document reportingResponse
        else
          .ok reportingResponse
      match ← document.member? "reportWinResponse" with
      | none => return .ok reportingResponse
      | some reportWinObj =>
        return .ok { reportingResponse with
          reportWinResponse := ← readReportWin reportWinObj }

/-- `HandleUdfLogs`: the messages that are logged. -/
def handleUdfLogs (allowAnyUdfLogging : Bool) (document : Json) (logType udfName : String) :
    Except ReadError (List String) :=
  if allowAnyUdfLogging then do
    return (← document.readStrings logType).map fun log => logType ++ " from udf:" ++ udfName ++ log
  else
    .ok []

def handleAllUdfLogs (enableAdtechCodeLogging allowAnyUdfLogging : Bool) (document : Json)
    (udfName : String) : Except ReadError (List String) :=
  if enableAdtechCodeLogging then do
    let logs ← handleUdfLogs allowAnyUdfLogging document "logs" udfName
    let errors ← handleUdfLogs allowAnyUdfLogging document "errors" udfName
    let warnings ← handleUdfLogs allowAnyUdfLogging document "warnings" udfName
    return logs ++ errors ++ warnings
  else
    .ok []

variable (ofDouble : ℚ → ℚ) (ops : FloatOps ℚ) (memory : Memory)

def getPrivateAggregateReportingResponseForWinner (baseValues : BaseValues ℚ)
    (contributionObjDoc : Json) : Except ReadError (PrivateAggregateReportingResponse ℚ) :=
  match [PAggEventType.win, .always, .custom].mapM
      (handleScriptContribution ofDouble ops baseValues contributionObjDoc) with
  | some appended => .ok { contributions := appended.flatten }
  | none => .error .asserted

/-- The private aggregation of a script, which is the only one to ask for an object. -/
def readPaggResponse (baseValues : BaseValues ℚ) (document : Json) :
    Except ReadError (PrivateAggregateReportingResponse ℚ) := do
  match ← document.member? "paapiContributions" with
  | some (.object members) =>
    getPrivateAggregateReportingResponseForWinner ofDouble ops baseValues (.object members)
  | _ => return {}

/-- What a script on its own returns is read in the same way for both. -/
def parseUdfResponse {ρ : Type} (unexpected udfName : String) (read : Json → Except ReadError ρ)
    (withPaggResponse : PrivateAggregateReportingResponse ℚ → ρ → ρ)
    (enableAdtechCodeLogging allowAnyUdfLogging : Bool) (response : String)
    (baseValues : BaseValues ℚ) : Except ReadError (StatusOr ρ) :=
  match parseJsonString response with
  | .error message => .ok (.error (.invalidArgument, message))
  | .ok document => do
    match ← document.member? "response" with
    | none => return .error (.internal, unexpected)
    | some value =>
      let members ← value.getMembers
      let r ← read (.object members)
      let _ ← handleAllUdfLogs enableAdtechCodeLogging allowAnyUdfLogging document udfName
      let paggResponse ← readPaggResponse ofDouble ops baseValues document
      return .ok (withPaggResponse paggResponse r)

/-- The fields of `ParseReportResultResponse`; nothing is written to the two flags. -/
def readReportResultResponse (responseObj : Json) : Except ReadError ReportResultResponse := do
  let signalsForWinner ← assignString "" responseObj "signalsForWinner"
  let reportResultUrl ← assignString "" responseObj "reportResultUrl"
  let interactionReportingUrls ← readInteractionUrls responseObj
  return {
    reportResultUrl := reportResultUrl
    interactionReportingUrls := interactionReportingUrls
    sendReportToInvoked := memory.flag
    registerAdBeaconInvoked := memory.flag
    signalsForWinner := if signalsForWinner = "" ∨ signalsForWinner = "undefined" then "null"
      else signalsForWinner }

/-- The fields of `ParseReportWinResponse`; nothing is written to the two flags. -/
def readReportWinResponse (responseObj : Json) : Except ReadError ReportWinResponse := do
  let reportWinUrl ← assignString "" responseObj "reportWinUrl"
  let interactionReportingUrls ← readInteractionUrls responseObj
  return {
    reportWinUrl := reportWinUrl
    interactionReportingUrls := interactionReportingUrls
    sendReportToInvoked := memory.flag
    registerAdBeaconInvoked := memory.flag }

def parseReportResultResponse : Bool → Bool → String → BaseValues ℚ →
    Except ReadError (StatusOr ReportResultResponse) :=
  parseUdfResponse parseJsonString ofDouble ops "Unexpected response from reportResult execution"
    "reportResult" (readReportResultResponse memory)
    fun paggResponse r => { r with paggResponse := paggResponse }

def parseReportWinResponse : Bool → Bool → String → BaseValues ℚ →
    Except ReadError (StatusOr ReportWinResponse) :=
  parseUdfResponse parseJsonString ofDouble ops
    "Unexpected response from reportWin execution. \"response\" field not found." "reportWin"
    (readReportWinResponse memory) fun paggResponse r => { r with paggResponse := paggResponse }

end Parse

/-! ## Shapes -/

namespace Json

def areUrls : Json → Bool
  | .object members => members.all fun member => member.2.isString
  | _ => false

/-- A part of a script: an object whose interaction URLs are there. -/
def isUdfPart (part : Json) : Bool :=
  part.isObject && ((part.findMember "interactionReportingUrls").map areUrls).getD false

def urlRead (part : Json) (key : String) : String :=
  (((part.findMember key).bind string?).map cString).getD ""

def boolRead (part : Json) (key : String) : Bool := ((part.findMember key).bind bool?).getD false

def interactionUrlsRead (part : Json) : FlatHashMap String String :=
  (((part.findMember "interactionReportingUrls").map membersRead).getD []).foldl
    (fun m member => FlatHashMap.emplace m (cString member.1) member.2.stringRead) ∅

def areLogLists (document : Json) (logTypes : List String) : Bool :=
  logTypes.all fun logType => document.absentOr logType areStrings

end Json

theorem assignString_guarded (src : Json) (key : String) :
    assignString "" src key = guarded .asserted src.isObject (src.urlRead key) := by
  unfold assignString Json.urlRead
  rw [Json.member?_guarded]
  refine guarded_bind_ok fun _ => ?_
  cases src.findMember key with
  | none => rfl
  | some value => cases value <;> rfl

theorem assignBool_guarded (src : Json) (key : String) :
    assignBool false src key = guarded .asserted src.isObject (src.boolRead key) := by
  unfold assignBool Json.boolRead
  rw [Json.member?_guarded]
  refine guarded_bind_ok fun _ => ?_
  cases src.findMember key with
  | none => rfl
  | some value => cases value <;> rfl

theorem readUrl_guarded (member : String × Json) :
    readUrl member =
      guarded .asserted member.2.isString (cString member.1, member.2.stringRead) := by
  unfold readUrl
  rw [Json.getString_guarded]
  exact guarded_bind_pure _

theorem readInteractionUrls_guarded (part : Json) :
    readInteractionUrls part = guarded .asserted part.isUdfPart part.interactionUrlsRead := by
  unfold readInteractionUrls assignObject Json.isUdfPart Json.interactionUrlsRead
  rw [Json.member?_guarded, bind_assoc]
  refine guarded_bind fun _ => ?_
  cases part.findMember "interactionReportingUrls" with
  | none => rfl
  | some urls =>
    cases urls with
    | object members =>
      have hread : members.mapM readUrl =
          guarded .asserted (members.all fun member => member.2.isString)
            (members.map fun member => (cString member.1, member.2.stringRead)) := by
        rw [← mapM_guarded]
        exact congrArg members.mapM (funext readUrl_guarded)
      show (members.mapM readUrl >>= _) = _
      rw [hread]
      refine guarded_bind_ok fun _ => ?_
      rw [List.foldl_map]
      rfl
    | _ => rfl

theorem isObject_of_isUdfPart {part : Json} (h : part.isUdfPart = true) :
    part.isObject = true := (Bool.and_eq_true_iff.mp h).1

/-- The part of `reportResult`, as it is read. -/
def reportResultRead (part : Json) : ReportResultResponse where
  reportResultUrl := part.urlRead "reportResultUrl"
  interactionReportingUrls := part.interactionUrlsRead
  sendReportToInvoked := part.boolRead "sendReportToInvoked"
  registerAdBeaconInvoked := part.boolRead "registerAdBeaconInvoked"

/-- The part of `reportWin`, as it is read. -/
def reportWinRead (part : Json) : ReportWinResponse where
  reportWinUrl := part.urlRead "reportWinUrl"
  interactionReportingUrls := part.interactionUrlsRead
  sendReportToInvoked := part.boolRead "sendReportToInvoked"
  registerAdBeaconInvoked := part.boolRead "registerAdBeaconInvoked"

theorem readReportResult_guarded (part : Json) :
    readReportResult part = guarded .asserted part.isUdfPart (reportResultRead part) := by
  unfold readReportResult
  rw [assignString_guarded, assignBool_guarded, assignBool_guarded, readInteractionUrls_guarded]
  -- the interaction URLs, which come last, ask for all that is asked for before
  refine guarded_bind_of_imp isObject_of_isUdfPart ?_
  refine guarded_bind_of_imp isObject_of_isUdfPart ?_
  refine guarded_bind_of_imp isObject_of_isUdfPart ?_
  exact guarded_bind_pure _

theorem readReportWin_guarded (part : Json) :
    readReportWin part = guarded .asserted part.isUdfPart (reportWinRead part) := by
  unfold readReportWin
  rw [assignString_guarded, assignBool_guarded, assignBool_guarded, readInteractionUrls_guarded]
  refine guarded_bind_of_imp isObject_of_isUdfPart ?_
  refine guarded_bind_of_imp isObject_of_isUdfPart ?_
  refine guarded_bind_of_imp isObject_of_isUdfPart ?_
  exact guarded_bind_pure _

theorem parseLogs_guarded {document : Json} (hobject : document.isObject = true)
    (logType : String) (out : List String) :
    parseLogs document logType out =
      guarded .asserted (document.absentOr logType Json.areStrings)
        (out ++ document.stringsUnder logType) := by
  unfold parseLogs
  rw [Json.readStrings_guarded, hobject, Bool.true_and]
  exact guarded_bind_pure _

def withLogs (document : Json) (response : ReportingResponse) : ReportingResponse :=
  { response with
    sellerLogs := response.sellerLogs ++ document.stringsUnder "sellerLogs"
    sellerErrorLogs := response.sellerErrorLogs ++ document.stringsUnder "sellerErrors"
    sellerWarningLogs := response.sellerWarningLogs ++ document.stringsUnder "sellerWarnings"
    buyerLogs := response.buyerLogs ++ document.stringsUnder "buyerLogs"
    buyerErrorLogs := response.buyerErrorLogs ++ document.stringsUnder "buyerErrors"
    buyerWarningLogs := response.buyerWarningLogs ++ document.stringsUnder "buyerWarnings" }

def combinedLogTypes : List String :=
  ["sellerLogs", "sellerErrors", "sellerWarnings", "buyerLogs", "buyerErrors", "buyerWarnings"]

theorem parseAllLogs_guarded {document : Json} (hobject : document.isObject = true)
    (response : ReportingResponse) :
    parseAllLogs document response =
      guarded .asserted (document.areLogLists combinedLogTypes) (withLogs document response) := by
  unfold parseAllLogs Json.areLogLists combinedLogTypes
  simp only [parseLogs_guarded hobject, List.all_cons, List.all_nil]
  exact guarded_bind fun _ => guarded_bind fun _ => guarded_bind fun _ => guarded_bind fun _ =>
    guarded_bind fun _ => guarded_bind fun _ => rfl

section Parse

variable {parseJsonString : String → Except String Json} {response : String} {document : Json}

def reportingResponseRead (enableAdtechCodeLogging : Bool) (document : Json) :
    ReportingResponse :=
  match document.findMember "reportResultResponse" with
  | none => {}
  | some result =>
    let withResult : ReportingResponse := { reportResultResponse := reportResultRead result }
    let withLogs := if enableAdtechCodeLogging then withLogs document withResult else withResult
    match document.findMember "reportWinResponse" with
    | none => withLogs
    | some win => { withLogs with reportWinResponse := reportWinRead win }

def isReportingResponse (enableAdtechCodeLogging : Bool) (document : Json) : Bool :=
  document.isObject &&
    match document.findMember "reportResultResponse" with
    | none => true
    | some result => result.isUdfPart &&
        (!enableAdtechCodeLogging || document.areLogLists combinedLogTypes) &&
        document.absentOr "reportWinResponse" Json.isUdfPart

theorem parseAndGetReportingResponse_guarded (enableAdtechCodeLogging : Bool)
    (hdocument : parseJsonString response = .ok document) :
    parseAndGetReportingResponse parseJsonString enableAdtechCodeLogging response =
      guarded .asserted (isReportingResponse enableAdtechCodeLogging document)
        (.ok (reportingResponseRead enableAdtechCodeLogging document)) := by
  unfold parseAndGetReportingResponse isReportingResponse reportingResponseRead
  rw [hdocument]
  dsimp only
  rw [Json.member?_guarded]
  refine guarded_bind fun hobject => ?_
  cases document.findMember "reportResultResponse" with
  | none => rfl
  | some result =>
    -- the logs are read between the two parts, if at all
    dsimp only
    rw [readReportResult_guarded, Bool.and_assoc]
    refine guarded_bind fun _ => ?_
    rw [Json.member?_guarded, hobject]
    have hwin (response : ReportingResponse) :
        (match document.findMember "reportWinResponse" with
          | none => return .ok response
          | some reportWinObj => do
            return .ok { response with reportWinResponse := ← readReportWin reportWinObj }) =
          guarded (α := StatusOr ReportingResponse) ReadError.asserted
            (document.absentOr "reportWinResponse" Json.isUdfPart)
            (.ok (match document.findMember "reportWinResponse" with
              | none => response
              | some win => { response with reportWinResponse := reportWinRead win })) := by
      unfold Json.absentOr
      cases document.findMember "reportWinResponse" with
      | none => rfl
      | some win =>
        dsimp only
        rw [readReportWin_guarded]
        exact guarded_bind_pure _
    cases enableAdtechCodeLogging with
    | false => exact hwin _
    | true =>
      simp only [if_true, parseAllLogs_guarded hobject, Bool.not_true, Bool.false_or]
      exact guarded_bind fun _ => hwin _

theorem handleUdfLogs_guarded (allowAnyUdfLogging : Bool) (hobject : document.isObject = true)
    (logType udfName : String) :
    ∃ messages, handleUdfLogs allowAnyUdfLogging document logType udfName =
      guarded .asserted (!allowAnyUdfLogging || document.absentOr logType Json.areStrings)
        messages := by
  unfold handleUdfLogs
  cases allowAnyUdfLogging with
  | false => exact ⟨[], rfl⟩
  | true =>
    rw [if_pos rfl, Json.readStrings_guarded, hobject]
    exact ⟨_, guarded_bind_pure _⟩

def udfLogTypes : List String := ["logs", "errors", "warnings"]

theorem handleAllUdfLogs_guarded (enableAdtechCodeLogging allowAnyUdfLogging : Bool)
    (hobject : document.isObject = true) (udfName : String) :
    ∃ messages, handleAllUdfLogs enableAdtechCodeLogging allowAnyUdfLogging document udfName =
      guarded .asserted (!(enableAdtechCodeLogging && allowAnyUdfLogging) ||
        document.areLogLists udfLogTypes) messages := by
  unfold handleAllUdfLogs
  cases enableAdtechCodeLogging with
  | false => exact ⟨[], rfl⟩
  | true =>
    obtain ⟨logs, hlogs⟩ := handleUdfLogs_guarded allowAnyUdfLogging hobject "logs" udfName
    obtain ⟨errors, herrors⟩ := handleUdfLogs_guarded allowAnyUdfLogging hobject "errors" udfName
    obtain ⟨warnings, hwarnings⟩ :=
      handleUdfLogs_guarded allowAnyUdfLogging hobject "warnings" udfName
    refine ⟨logs ++ errors ++ warnings, ?_⟩
    rw [if_pos rfl, hlogs, herrors, hwarnings]
    cases allowAnyUdfLogging with
    | false => rfl
    | true =>
      unfold Json.areLogLists udfLogTypes
      simp only [Bool.not_true, Bool.false_or, Bool.and_self, List.all_cons, List.all_nil]
      exact guarded_bind fun _ => guarded_bind fun _ => guarded_bind fun _ => rfl

section Pagg

variable (ofDouble : ℚ → ℚ) (ops : FloatOps ℚ) (memory : Memory)

def isPaggDocument (baseValues : BaseValues ℚ) (contributions : Json) : Bool :=
  [PAggEventType.win, .always, .custom].all fun eventType =>
    contributions.absentOr (eventTypeToString eventType) (isEvent baseValues eventType)

def paggRead (baseValues : BaseValues ℚ) (contributions : Json) :
    PrivateAggregateReportingResponse ℚ where
  contributions := [PAggEventType.win, .always, .custom].flatMap fun eventType =>
    handleContribution (contributionAlone ofDouble ops) eventType baseValues contributions

theorem getPrivateAggregateReportingResponseForWinner_guarded (baseValues : BaseValues ℚ)
    {contributions : Json} (hobject : contributions.isObject = true) :
    getPrivateAggregateReportingResponseForWinner ofDouble ops baseValues contributions =
      guarded .asserted (isPaggDocument baseValues contributions)
        (paggRead ofDouble ops baseValues contributions) := by
  unfold getPrivateAggregateReportingResponseForWinner isPaggDocument paggRead
  have hevents : ∀ eventType ∈ [PAggEventType.win, .always, .custom], eventType ≠ .unspecified := by
    decide
  rw [mapM_ite fun eventType hevent => handleScriptContribution_eq ofDouble ops baseValues
    (hevents eventType hevent) hobject]
  unfold Json.absentOr
  cases List.all _ _ <;> rfl

def skipsOrReads (baseValues : BaseValues ℚ) (document : Json) : Bool :=
  document.absentOr "paapiContributions" fun contributions =>
    !contributions.isObject || isPaggDocument baseValues contributions

theorem readPaggResponse_guarded (baseValues : BaseValues ℚ) (hobject : document.isObject = true) :
    ∃ paggResponse, readPaggResponse ofDouble ops baseValues document =
      guarded .asserted (skipsOrReads baseValues document) paggResponse := by
  unfold readPaggResponse skipsOrReads Json.absentOr
  rw [Json.member?_guarded, hobject]
  cases document.findMember "paapiContributions" with
  | none => exact ⟨{}, rfl⟩
  | some contributions =>
    cases contributions with
    | object members =>
      exact ⟨_, getPrivateAggregateReportingResponseForWinner_guarded ofDouble ops baseValues rfl⟩
    | _ => exact ⟨{}, rfl⟩

end Pagg

def isUdfResponse (enableAdtechCodeLogging allowAnyUdfLogging : Bool)
    (baseValues : BaseValues ℚ) (document : Json) : Bool :=
  document.isObject &&
    match document.findMember "response" with
    | none => true
    | some part => part.isUdfPart &&
        ((!(enableAdtechCodeLogging && allowAnyUdfLogging) || document.areLogLists udfLogTypes) &&
          skipsOrReads baseValues document)

section Scripts

variable (ofDouble : ℚ → ℚ) (ops : FloatOps ℚ) (memory : Memory)

theorem parseUdfResponse_guarded {ρ : Type} {unexpected udfName : String}
    {read : Json → Except ReadError ρ} {value : Json → ρ}
    {withPaggResponse : PrivateAggregateReportingResponse ℚ → ρ → ρ}
    (hread : ∀ members, read (.object members) =
      guarded .asserted (Json.isUdfPart (.object members)) (value (.object members)))
    (enableAdtechCodeLogging allowAnyUdfLogging : Bool) (baseValues : BaseValues ℚ)
    (hdocument : parseJsonString response = .ok document) :
    ∃ paggResponse, parseUdfResponse parseJsonString ofDouble ops unexpected udfName read
        withPaggResponse enableAdtechCodeLogging allowAnyUdfLogging response baseValues =
      guarded .asserted (isUdfResponse enableAdtechCodeLogging allowAnyUdfLogging baseValues
        document)
        (match document.findMember "response" with
          | none => .error (.internal, unexpected)
          | some part => .ok (withPaggResponse paggResponse (value part))) := by
  unfold parseUdfResponse isUdfResponse
  rw [hdocument]
  dsimp only
  rw [Json.member?_guarded]
  cases hobject : document.isObject with
  | false => exact ⟨{}, rfl⟩
  | true =>
    obtain ⟨messages, hlogs⟩ := handleAllUdfLogs_guarded enableAdtechCodeLogging
      allowAnyUdfLogging hobject udfName
    obtain ⟨paggResponse, hpagg⟩ := readPaggResponse_guarded ofDouble ops baseValues hobject
    rw [guarded_true_bind]
    cases document.findMember "response" with
    | none => exact ⟨{}, rfl⟩
    | some part =>
      -- what is no object fails at `GetObject`, before any of the three reads
      refine ⟨paggResponse, ?_⟩
      cases part with
      | object members =>
        show (read (.object members) >>= _) = _
        rw [hread, hlogs, hpagg]
        exact guarded_bind fun _ => guarded_bind fun _ => guarded_bind_ok fun _ => rfl
      | _ => rfl

/-- The fields of `reportResult`, as they are read. -/
def reportResultResponseRead (part : Json) : ReportResultResponse where
  reportResultUrl := part.urlRead "reportResultUrl"
  interactionReportingUrls := part.interactionUrlsRead
  sendReportToInvoked := memory.flag
  registerAdBeaconInvoked := memory.flag
  signalsForWinner :=
    if part.urlRead "signalsForWinner" = "" ∨ part.urlRead "signalsForWinner" = "undefined" then
      "null"
    else part.urlRead "signalsForWinner"

/-- The fields of `reportWin`, as they are read. -/
def reportWinResponseRead (part : Json) : ReportWinResponse where
  reportWinUrl := part.urlRead "reportWinUrl"
  interactionReportingUrls := part.interactionUrlsRead
  sendReportToInvoked := memory.flag
  registerAdBeaconInvoked := memory.flag

theorem readReportResultResponse_guarded (members : List (String × Json)) :
    readReportResultResponse memory (.object members) =
      guarded .asserted (Json.isUdfPart (.object members))
        (reportResultResponseRead memory (.object members)) := by
  unfold readReportResultResponse
  simp only [assignString_guarded, readInteractionUrls_guarded, Json.isObject, guarded_true_bind]
  exact guarded_bind_pure _

theorem readReportWinResponse_guarded (members : List (String × Json)) :
    readReportWinResponse memory (.object members) =
      guarded .asserted (Json.isUdfPart (.object members))
        (reportWinResponseRead memory (.object members)) := by
  unfold readReportWinResponse
  simp only [assignString_guarded, readInteractionUrls_guarded, Json.isObject, guarded_true_bind]
  exact guarded_bind_pure _

end Scripts

end Parse

/-! ## The URLs of the text -/

/-- The string-valued interaction URLs of a part that may be absent. -/
def urlEntries (part? : Option Json) : List (String × String) :=
  ((part?.bind fun part => part.findMember "interactionReportingUrls").map fun urls =>
    urls.membersRead.filterMap fun member => member.2.string?.map fun url =>
      (member.1, url)).getD []

def urlUnder (part? : Option Json) (key : String) : String :=
  ((part?.bind fun part => part.findMember key).bind Json.string?).getD ""

structure AreUrlsOf (part? : Option Json) (key url : String) (urls : FlatHashMap String String) :
    Prop where
  url : url = urlUnder part? key
  urls : ∀ event target, urls.lookup event = some target ↔ (event, target) ∈ urlEntries part?

/-- No name or URL has a null character, and no event has two URLs. -/
structure KeepsUrls (part? : Option Json) (key : String) : Prop where
  url : cString (urlUnder part? key) = urlUnder part? key
  events : ∀ entry ∈ urlEntries part?, cString entry.1 = entry.1
  targets : ∀ entry ∈ urlEntries part?, cString entry.2 = entry.2
  unique : ∀ entry ∈ urlEntries part?, ∀ other ∈ urlEntries part?, entry.1 = other.1 →
    entry.2 = other.2

theorem urlRead_eq (part : Json) (key : String) :
    part.urlRead key = cString (urlUnder (some part) key) := by
  unfold Json.urlRead urlUnder
  rw [Option.bind_some]
  cases (part.findMember key).bind Json.string? with
  | none => rfl
  | some url => rfl

theorem exists_entries {members : List (String × Json)}
    (h : members.all (fun member => member.2.isString) = true) :
    ∃ entries : List (String × String),
      members = entries.map fun entry => (entry.1, Json.string entry.2) := by
  induction members with
  | nil => exact ⟨[], rfl⟩
  | cons member members ih =>
    rw [List.all_cons, Bool.and_eq_true] at h
    obtain ⟨entries, rfl⟩ := ih h.2
    obtain ⟨name, value⟩ := member
    cases value with
    | string url => exact ⟨(name, url) :: entries, rfl⟩
    | _ => cases h.1

theorem lookup_interactionUrlsRead {part : Json} (hpart : part.isUdfPart = true) (event : String) :
    part.interactionUrlsRead.lookup event =
      ((urlEntries (some part)).find? fun entry => cString entry.1 = event).map fun entry =>
        cString entry.2 := by
  unfold Json.isUdfPart at hpart
  have hurls := (Bool.and_eq_true_iff.mp hpart).2
  unfold Json.interactionUrlsRead urlEntries
  rw [Option.bind_some]
  cases hfound : part.findMember "interactionReportingUrls" with
  | none =>
    rw [hfound] at hurls
    cases hurls
  | some urls =>
    rw [hfound] at hurls
    cases urls with
    | object members =>
      obtain ⟨entries, rfl⟩ := exists_entries hurls
      have hentries : (entries.map fun entry => (entry.1, Json.string entry.2)).filterMap
          (fun member => member.2.string?.map fun url => (member.1, url)) = entries := by
        rw [List.filterMap_map]
        exact List.filterMap_some
      simp only [Option.map_some, Option.getD_some, Json.membersRead]
      rw [hentries, List.foldl_map]
      exact FlatHashMap.lookup_foldl_emplace_first (fun entry : String × String => cString entry.1)
        (fun entry => cString entry.2) entries event
    | _ => cases hurls

theorem areUrlsOf_read_iff {part : Json} (hpart : part.isUdfPart = true) (key : String) :
    AreUrlsOf (some part) key (part.urlRead key) part.interactionUrlsRead ↔
      KeepsUrls (some part) key := by
  constructor
  · rintro ⟨hurl, hurls⟩
    have hlookup (entry : String × String) (h : entry ∈ urlEntries (some part)) :
        ∃ first, (urlEntries (some part)).find? (fun other => cString other.1 = entry.1) =
          some first ∧ cString first.2 = entry.2 := by
      have hfound := (hurls entry.1 entry.2).mpr h
      rw [lookup_interactionUrlsRead hpart] at hfound
      exact Option.map_eq_some_iff.mp hfound
    -- every entry is looked up, and what is looked up was cut at its first null character
    refine ⟨by rw [← urlRead_eq]; exact hurl, fun entry h => ?_, fun entry h => ?_,
      fun entry h other hother hsame => ?_⟩
    · obtain ⟨first, hfirst, -⟩ := hlookup entry h
      have hname : cString first.1 = entry.1 := by simpa using List.find?_some hfirst
      rw [← hname, cString_cString]
    · obtain ⟨first, -, hsecond⟩ := hlookup entry h
      rw [← hsecond, cString_cString]
    · have hone := (hurls entry.1 entry.2).mpr h
      have htwo := (hurls other.1 other.2).mpr hother
      rw [hsame, htwo] at hone
      exact (Option.some.inj hone).symm
  · rintro ⟨hurl, hevents, htargets, hunique⟩
    refine ⟨by rw [urlRead_eq, hurl], fun event target => ?_⟩
    rw [lookup_interactionUrlsRead hpart, Option.map_eq_some_iff]
    constructor
    · rintro ⟨first, hfirst, rfl⟩
      have hmem := List.mem_of_find?_eq_some hfirst
      have hname : cString first.1 = event := by simpa using List.find?_some hfirst
      rw [htargets first hmem, ← hname, hevents first hmem]
      exact hmem
    · intro h
      cases hfirst : (urlEntries (some part)).find? fun entry => cString entry.1 = event with
      | none =>
        have hnone := List.find?_eq_none.mp hfirst _ h
        exact absurd (decide_eq_true (hevents _ h)) hnone
      | some first =>
        have hmem := List.mem_of_find?_eq_some hfirst
        have hname : cString first.1 = event := by simpa using List.find?_some hfirst
        rw [hevents first hmem] at hname
        exact ⟨first, rfl, by rw [htargets first hmem, hunique first hmem _ h hname]⟩

theorem areUrlsOf_empty_iff (part? : Option Json) (key : String) :
    AreUrlsOf part? key "" ∅ ↔ urlUnder part? key = "" ∧ urlEntries part? = [] := by
  constructor
  · rintro ⟨hurl, hurls⟩
    refine ⟨hurl.symm, List.eq_nil_iff_forall_not_mem.mpr fun entry h => ?_⟩
    cases (hurls entry.1 entry.2).mpr h
  · rintro ⟨hurl, hurls⟩
    refine ⟨hurl.symm, fun event target => ?_⟩
    rw [hurls]
    exact iff_of_false (fun h => nomatch h) (fun h => nomatch h)

/-! ## The whole -/

/-- A result or a status comes back, and a result is as it should be. -/
def ReturnsWith {ρ : Type} (outcome : Except ReadError (StatusOr ρ)) (holds : ρ → Prop) : Prop :=
  ∃ status, outcome = .ok status ∧ ∀ r, status = .ok r → holds r

theorem returnsWith_guarded {ρ : Type} {p : Bool} {status : StatusOr ρ} {holds : ρ → Prop} :
    ReturnsWith (guarded .asserted p status) holds ↔
      p = true ∧ ∀ r, status = .ok r → holds r := by
  unfold ReturnsWith
  simp only [guarded_eq_ok]
  constructor
  · rintro ⟨_, ⟨hp, rfl⟩, hholds⟩
    exact ⟨hp, hholds⟩
  · rintro ⟨hp, hholds⟩
    exact ⟨status, ⟨hp, rfl⟩, hholds⟩

section Whole

variable (parseJsonString : String → Except String Json) (ofDouble : ℚ → ℚ) (ops : FloatOps ℚ)
  (memory : Memory) (enableAdtechCodeLogging allowAnyUdfLogging : Bool) (response : String)
  (baseValues : BaseValues ℚ)

def partOf (name : String) : Option Json :=
  (parseJsonString response).toOption.bind fun document => document.findMember name

/-- A combined response that is read to its end and whose URLs are kept: without a part of
`reportResult`, there are none of `reportWin`. -/
def KeepsReportingUrls (document : Json) : Prop :=
  isReportingResponse enableAdtechCodeLogging document = true ∧
    match document.findMember "reportResultResponse" with
    | none => urlUnder (document.findMember "reportWinResponse") "reportWinUrl" = "" ∧
        urlEntries (document.findMember "reportWinResponse") = []
    | some result => KeepsUrls (some result) "reportResultUrl" ∧
        KeepsUrls (document.findMember "reportWinResponse") "reportWinUrl"

/-- A response of one script that is read to its end and whose URLs are kept. -/
def KeepsUdfUrls (key : String) (document : Json) : Prop :=
  isUdfResponse enableAdtechCodeLogging allowAnyUdfLogging baseValues document = true ∧
    KeepsUrls (document.findMember "response") key

theorem keepsUrls_none (key : String) : KeepsUrls none key :=
  ⟨rfl, (fun _ h => nomatch h), (fun _ h => nomatch h), (fun _ h => nomatch h)⟩

theorem parseAndGetReportingResponse_iff :
    ReturnsWith (parseAndGetReportingResponse parseJsonString enableAdtechCodeLogging response)
        (fun r =>
          AreUrlsOf (partOf parseJsonString response "reportResultResponse") "reportResultUrl"
            r.reportResultResponse.reportResultUrl
            r.reportResultResponse.interactionReportingUrls ∧
          AreUrlsOf (partOf parseJsonString response "reportWinResponse") "reportWinUrl"
            r.reportWinResponse.reportWinUrl r.reportWinResponse.interactionReportingUrls) ↔
      ∀ document, parseJsonString response = .ok document →
        KeepsReportingUrls enableAdtechCodeLogging document := by
  cases hdocument : parseJsonString response with
  | error message =>
    refine iff_of_true ⟨.error (.invalidArgument, message), ?_, fun r h => nomatch h⟩
      fun document h => nomatch h
    unfold parseAndGetReportingResponse
    rw [hdocument]
  | ok document =>
    rw [parseAndGetReportingResponse_guarded enableAdtechCodeLogging hdocument,
      returnsWith_guarded]
    simp only [Except.ok.injEq, forall_eq', partOf, hdocument, Except.toOption, Option.bind_some,
      KeepsReportingUrls]
    refine and_congr_right fun hresponse => ?_
    unfold isReportingResponse at hresponse
    unfold reportingResponseRead
    cases hresult : document.findMember "reportResultResponse" with
    | none =>
      dsimp only
      rw [areUrlsOf_empty_iff, areUrlsOf_empty_iff]
      exact and_iff_right ⟨rfl, rfl⟩
    | some result =>
      rw [hresult, Bool.and_eq_true, Bool.and_eq_true, Bool.and_eq_true] at hresponse
      obtain ⟨-, ⟨hresultPart, -⟩, hwinPart⟩ := hresponse
      have hkeeps := areUrlsOf_read_iff hresultPart "reportResultUrl"
      cases hwin : document.findMember "reportWinResponse" with
      | none =>
        have hnone : AreUrlsOf none "reportWinUrl" "" ∅ ↔ KeepsUrls none "reportWinUrl" :=
          iff_of_true ((areUrlsOf_empty_iff none _).mpr ⟨rfl, rfl⟩) (keepsUrls_none _)
        cases enableAdtechCodeLogging <;> exact and_congr hkeeps hnone
      | some win =>
        rw [Json.absentOr, hwin] at hwinPart
        have hkeepsWin := areUrlsOf_read_iff hwinPart "reportWinUrl"
        cases enableAdtechCodeLogging <;> exact and_congr hkeeps hkeepsWin

theorem parseUdfResponse_iff {ρ : Type} {unexpected udfName key : String}
    {read : Json → Except ReadError ρ} {value : Json → ρ}
    {withPaggResponse : PrivateAggregateReportingResponse ℚ → ρ → ρ} {url : ρ → String}
    {urls : ρ → FlatHashMap String String}
    (hread : ∀ members, read (.object members) =
      guarded .asserted (Json.isUdfPart (.object members)) (value (.object members)))
    (hurl : ∀ paggResponse part, url (withPaggResponse paggResponse (value part)) =
      part.urlRead key)
    (hurls : ∀ paggResponse part, urls (withPaggResponse paggResponse (value part)) =
      part.interactionUrlsRead) :
    ReturnsWith (parseUdfResponse parseJsonString ofDouble ops unexpected udfName read
        withPaggResponse enableAdtechCodeLogging allowAnyUdfLogging response baseValues)
        (fun r => AreUrlsOf (partOf parseJsonString response "response") key (url r) (urls r)) ↔
      ∀ document, parseJsonString response = .ok document →
        KeepsUdfUrls enableAdtechCodeLogging allowAnyUdfLogging baseValues key document := by
  cases hdocument : parseJsonString response with
  | error message =>
    refine iff_of_true ⟨.error (.invalidArgument, message), ?_, fun r h => nomatch h⟩
      fun document h => nomatch h
    unfold parseUdfResponse
    rw [hdocument]
  | ok document =>
    obtain ⟨paggResponse, hparse⟩ := parseUdfResponse_guarded ofDouble ops hread
      enableAdtechCodeLogging allowAnyUdfLogging baseValues hdocument
    rw [hparse, returnsWith_guarded]
    simp only [Except.ok.injEq, forall_eq', partOf, hdocument, Except.toOption, Option.bind_some,
      KeepsUdfUrls]
    refine and_congr_right fun hresponse => ?_
    unfold isUdfResponse at hresponse
    cases hpart : document.findMember "response" with
    | none => exact iff_of_true (fun r h => nomatch h) (keepsUrls_none key)
    | some part =>
      rw [hpart, Bool.and_eq_true, Bool.and_eq_true] at hresponse
      simp only [Except.ok.injEq, forall_eq', hurl, hurls]
      exact areUrlsOf_read_iff hresponse.2.1 key

end Whole

/-- A part with a URL alone, and the texts of the two arrangements. -/
def urlAlone : Json := .object [("reportResultUrl", .string "url")]

def combinedUrlAlone := "\x7b\"reportResultResponse\":\x7b\"reportResultUrl\":\"url\"\x7d\x7d"

def scriptUrlAlone := "\x7b\"response\":\x7b\"reportResultUrl\":\"url\"\x7d\x7d"

end BiddingAuction

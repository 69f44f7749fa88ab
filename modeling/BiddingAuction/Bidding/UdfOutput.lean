import BiddingAuction.Bidding.PasReactor
import BiddingAuction.Bidding.ScriptReactor

/-!
# Reading what the bidding scripts return

The texts of all interest groups are read one after another. The reading of a text that is not
JSON, or is no array of bids, ends with a status that leaves the other interest groups alone.
The process ends where a member is read that is not there or is of another type: the member
`response` of what `prepareDataForAdRetrieval` returned, and with logging the members of what
`generateBid` returned.
-/

namespace BiddingAuction

open Foundation
open Byob (Setup)

namespace ScriptBidding

variable {F : Type}

/-- What the dispatcher returns for an interest group, by its name. -/
structure TextResponse where
  id : String
  resp : String

/-- The JSON library, with the conversion of a text to a bid. -/
structure TextLibrary (F : Type) extends JsonTexts where
  jsonStringToMessage : String → Option (Byob.AdWithBid F)

section Texts

variable (u : Setup F) (perAdtechPaapiContributionsLimit : ℤ) (lib : TextLibrary F)
  (enableAdtechCodeLogging : Bool)

def readResult (result : Except String TextResponse) :
    Except ReadError (Except String (DispatchResponse F)) :=
  match result with
  | .error status => .ok (.error status)
  | .ok response => do
    match ← lib.parseAndGetResponseJsonArray enableAdtechCodeLogging response.resp with
    | .error _ => return .ok ⟨response.id, none⟩
    | .ok bids => return .ok ⟨response.id, some (bids.map lib.jsonStringToMessage)⟩

/-- `GenerateBidsCallback`, of the texts. -/
def callbackOfTexts (output : List (Except String TextResponse)) :
    Except ReadError (Callback F) :=
  output.foldlM (fun c result => do
    return processResult u perAdtechPaapiContributionsLimit c
      (← readResult lib enableAdtechCodeLogging result)) {}

def bidsOfTexts (output : List (Except String TextResponse)) :
    Except ReadError (List (Byob.AdWithBid F)) :=
  (callbackOfTexts u perAdtechPaapiContributionsLimit lib enableAdtechCodeLogging output).map
    Callback.bids

end Texts

/-! ## Results that have no bids -/

section Failed

variable {u : Setup F} {perAdtechPaapiContributionsLimit : ℤ}

/-- The same, with another number of results that have no bids. -/
def Callback.withFailed (c : Callback F) (failedToBidCount : ℕ) : Callback F :=
  { c with failedToBidCount := failedToBidCount }

theorem processBid_withFailed (interestGroupName : String) (c : Callback F) (n : ℕ)
    (bid : Option (Byob.AdWithBid F)) :
    processBid u perAdtechPaapiContributionsLimit interestGroupName (c.withFailed n) bid =
      (processBid u perAdtechPaapiContributionsLimit interestGroupName c bid).withFailed n := by
  unfold processBid Callback.withFailed
  cases bid with
  | none => rfl
  | some bid =>
    dsimp only
    split <;> rfl

theorem foldl_processBid_withFailed (interestGroupName : String) (c : Callback F) (n : ℕ)
    (bids : List (Option (Byob.AdWithBid F))) :
    bids.foldl (processBid u perAdtechPaapiContributionsLimit interestGroupName)
        (c.withFailed n) =
      (bids.foldl (processBid u perAdtechPaapiContributionsLimit interestGroupName)
        c).withFailed n := by
  induction bids generalizing c with
  | nil => rfl
  | cons bid bids ih => rw [List.foldl_cons, processBid_withFailed, ih, List.foldl_cons]

theorem processResult_withFailed (c : Callback F) (n : ℕ)
    (result : Except String (DispatchResponse F)) :
    ∃ m, processResult u perAdtechPaapiContributionsLimit (c.withFailed n) result =
      (processResult u perAdtechPaapiContributionsLimit c result).withFailed m := by
  unfold processResult
  cases result with
  | error status => exact ⟨n + 1, rfl⟩
  | ok response =>
    dsimp only
    cases response.resp with
    | none => exact ⟨n + 1, rfl⟩
    | some bids =>
      dsimp only
      rw [foldl_processBid_withFailed]
      show ∃ m, (if (bids.foldl _ c).verdicts.length = c.verdicts.length then _ else _) = _
      split
      · exact ⟨n + 1, rfl⟩
      · exact ⟨n, rfl⟩

theorem bids_foldl_withFailed (c : Callback F) (n : ℕ)
    (output : List (Except String (DispatchResponse F))) :
    (output.foldl (processResult u perAdtechPaapiContributionsLimit) (c.withFailed n)).bids =
      (output.foldl (processResult u perAdtechPaapiContributionsLimit) c).bids := by
  induction output generalizing c n with
  | nil => rfl
  | cons result output ih =>
    obtain ⟨m, hm⟩ := @processResult_withFailed F u perAdtechPaapiContributionsLimit c n result
    rw [List.foldl_cons, hm, ih, List.foldl_cons]

theorem processResult_of_no_bid (c : Callback F) {response : DispatchResponse F}
    (hnone : ∀ bids, response.resp = some bids → ∀ bid ∈ bids, bid = none) :
    processResult u perAdtechPaapiContributionsLimit c (.ok response) =
      c.withFailed (c.failedToBidCount + 1) := by
  unfold processResult
  dsimp only
  cases hresp : response.resp with
  | none => rfl
  | some bids =>
    have hsame : bids.foldl
        (processBid u perAdtechPaapiContributionsLimit response.id) c = c := by
      have hall := hnone bids hresp
      clear hnone hresp
      induction bids with
      | nil => rfl
      | cons bid bids ih =>
        obtain rfl := hall bid List.mem_cons_self
        rw [List.foldl_cons]
        exact ih fun bid hmem => hall bid (List.mem_cons_of_mem _ hmem)
    dsimp only
    rw [hsame, if_pos rfl]
    rfl

end Failed

/-! ## Reading all results -/

section Reading

variable {u : Setup F} {perAdtechPaapiContributionsLimit : ℤ} {lib : TextLibrary F}
  {enableAdtechCodeLogging : Bool}

theorem callbackOfTexts_eq (output : List (Except String TextResponse)) :
    callbackOfTexts u perAdtechPaapiContributionsLimit lib enableAdtechCodeLogging output =
      (output.mapM (readResult lib enableAdtechCodeLogging)).map
        (generateBidsCallback u perAdtechPaapiContributionsLimit) := by
  unfold callbackOfTexts generateBidsCallback
  generalize ({} : Callback F) = c
  induction output generalizing c with
  | nil => rfl
  | cons result output ih =>
    rw [List.foldlM_cons, List.mapM_cons]
    cases readResult lib enableAdtechCodeLogging result with
    | error e => rfl
    | ok response =>
      show output.foldlM _ (processResult u perAdtechPaapiContributionsLimit c response) = _
      rw [ih]
      cases output.mapM (readResult lib enableAdtechCodeLogging) <;> rfl

theorem exists_readResult_iff (result : Except String TextResponse) :
    (∃ response, readResult lib enableAdtechCodeLogging result = .ok response) ↔
      ∀ text, result = .ok text → lib.Readable enableAdtechCodeLogging text.resp := by
  cases result with
  | error status => exact iff_of_true ⟨_, rfl⟩ nofun
  | ok text =>
    rw [show (∀ text', Except.ok (ε := String) text = .ok text' →
        lib.Readable enableAdtechCodeLogging text'.resp) ↔
          lib.Readable enableAdtechCodeLogging text.resp from
      ⟨fun h => h text rfl, fun h _ heq => Except.ok.inj heq ▸ h⟩,
      ← JsonTexts.readable_iff]
    unfold readResult
    dsimp only
    cases hparsed : lib.parseAndGetResponseJsonArray enableAdtechCodeLogging text.resp with
    | error e =>
      rw [JsonTexts.parseAndGetResponseJsonArray_error hparsed]
      exact iff_of_false (fun ⟨_, h⟩ => nomatch h) fun h => h rfl
    | ok bids =>
      refine iff_of_true ?_ fun h => nomatch h
      cases bids with
      | error status => exact ⟨_, rfl⟩
      | ok bids => exact ⟨_, rfl⟩

theorem exists_callbackOfTexts_iff (output : List (Except String TextResponse)) :
    (∃ c, callbackOfTexts u perAdtechPaapiContributionsLimit lib enableAdtechCodeLogging output =
        .ok c) ↔
      ∀ text, .ok text ∈ output → lib.Readable enableAdtechCodeLogging text.resp := by
  have hmap : (∃ c, callbackOfTexts u perAdtechPaapiContributionsLimit lib
      enableAdtechCodeLogging output = .ok c) ↔
        ∃ r, output.mapM (readResult lib enableAdtechCodeLogging) = .ok r := by
    rw [callbackOfTexts_eq]
    cases output.mapM (readResult lib enableAdtechCodeLogging) with
    | error e => exact iff_of_false (fun ⟨_, h⟩ => nomatch h) fun ⟨_, h⟩ => nomatch h
    | ok r => exact iff_of_true ⟨_, rfl⟩ ⟨_, rfl⟩
  rw [hmap, exists_mapM_iff]
  constructor
  · intro h text hmem
    exact (exists_readResult_iff _).mp (h _ hmem) text rfl
  · rintro h result hmem
    rw [exists_readResult_iff]
    rintro text rfl
    exact h text hmem

end Reading

/-- No bid can be read from a text: it is no array of bids, or none of them is one. -/
def YieldsNoBid (lib : TextLibrary F) (enableAdtechCodeLogging : Bool) (resp : String) : Prop :=
  ∀ bids, lib.parseAndGetResponseJsonArray enableAdtechCodeLogging resp = .ok (.ok bids) →
    ∀ bid ∈ bids, lib.jsonStringToMessage bid = none

theorem bidsOfTexts_of_no_bid (u : Setup F) (perAdtechPaapiContributionsLimit : ℤ)
    {lib : TextLibrary F} {enableAdtechCodeLogging : Bool}
    {before after : List (Except String TextResponse)} {text : TextResponse}
    (hreadable : lib.Readable enableAdtechCodeLogging text.resp)
    (hnone : YieldsNoBid lib enableAdtechCodeLogging text.resp) :
    bidsOfTexts u perAdtechPaapiContributionsLimit lib enableAdtechCodeLogging
        (before ++ .ok text :: after) =
      bidsOfTexts u perAdtechPaapiContributionsLimit lib enableAdtechCodeLogging
        (before ++ after) := by
  obtain ⟨response, hresponse, hempty⟩ : ∃ response : DispatchResponse F,
      readResult lib enableAdtechCodeLogging (.ok text) = .ok (.ok response) ∧
        ∀ bids, response.resp = some bids → ∀ bid ∈ bids, bid = none := by
    rw [← JsonTexts.readable_iff] at hreadable
    unfold YieldsNoBid at hnone
    unfold readResult
    dsimp only
    cases hparsed : lib.parseAndGetResponseJsonArray enableAdtechCodeLogging text.resp with
    | error e =>
      rw [JsonTexts.parseAndGetResponseJsonArray_error hparsed] at hparsed
      exact absurd hparsed hreadable
    | ok bids =>
      cases bids with
      | error status => exact ⟨⟨text.id, none⟩, rfl, nofun⟩
      | ok bids =>
        refine ⟨⟨text.id, some (bids.map lib.jsonStringToMessage)⟩, rfl, ?_⟩
        rintro _ ⟨⟩ bid hbid
        obtain ⟨bidResponse, hmem, rfl⟩ := List.mem_map.mp hbid
        exact hnone bids hparsed bidResponse hmem
  unfold bidsOfTexts
  rw [callbackOfTexts_eq, callbackOfTexts_eq, List.mapM_append, List.mapM_append, List.mapM_cons,
    hresponse]
  cases before.mapM (readResult lib enableAdtechCodeLogging) with
  | error e => rfl
  | ok before =>
    cases after.mapM (readResult lib enableAdtechCodeLogging) with
    | error e => rfl
    | ok after =>
      show Except.ok (generateBidsCallback u _ (before ++ .ok response :: after)).bids =
        Except.ok (generateBidsCallback u _ (before ++ after)).bids
      unfold generateBidsCallback
      rw [List.foldl_append, List.foldl_cons, processResult_of_no_bid _ hempty,
        bids_foldl_withFailed, List.foldl_append]

end ScriptBidding

/-! ## The same response with and without logging -/

/-- A well-formed response with logs, and the text of what it says without them. -/
def JsonTexts.LoggedText (lib : JsonTexts) (logged plain : String) : Prop :=
  ∃ document, lib.parseJsonString logged = .ok document ∧ document.isLoggedResponse = true ∧
    lib.parseJsonString plain = .ok document.responseRead

theorem JsonTexts.LoggedText.parse_eq {lib : JsonTexts} {logged plain : String}
    (h : lib.LoggedText logged plain) :
    lib.parseAndGetResponseJsonArray true logged =
      lib.parseAndGetResponseJsonArray false plain := by
  obtain ⟨document, hlogged, hshape, hplain⟩ := h
  rw [parseAndGetResponseJsonArray_guarded hlogged, hshape, guarded_true,
    parseAndGetResponseJsonArray_without_logging hplain]

def ScriptBidding.LoggedResult (lib : JsonTexts) :
    Except String ScriptBidding.TextResponse → Except String ScriptBidding.TextResponse → Prop
  | .error status, .error status' => status = status'
  | .ok logged, .ok plain => logged.id = plain.id ∧ lib.LoggedText logged.resp plain.resp
  | _, _ => False

theorem ScriptBidding.LoggedResult.readResult_eq {F : Type} {lib : TextLibrary F}
    {logged plain : Except String TextResponse} (h : LoggedResult lib.toJsonTexts logged plain) :
    readResult lib true logged = readResult lib false plain := by
  cases logged with
  | error status =>
    cases plain with
    | error status' => rw [show status = status' from h]; rfl
    | ok plain => exact h.elim
  | ok logged =>
    cases plain with
    | error status => exact h.elim
    | ok plain =>
      unfold readResult
      dsimp only
      rw [h.2.parse_eq, h.1]

/-! ## Never tripping -/

/-- The parsing of what the bidding scripts return never ends the process, what is malformed of
one interest group leaves the bids of the others alone, and what is well formed is the same
with and without logging. -/
structure NeverTrips {F : Type} (u : Setup F) (perAdtechPaapiContributionsLimit : ℤ)
    (lib : ScriptBidding.TextLibrary F) (enableAdtechCodeLogging : Bool)
    (output : List (Except String ScriptBidding.TextResponse)) (v : PasBidding.Setup)
    (pasLib : PasBidding.Library) (generateBidResponse prepareDataResponse : String) : Prop where
  protectedAudience : ∃ c, ScriptBidding.callbackOfTexts u perAdtechPaapiContributionsLimit lib
    enableAdtechCodeLogging output = .ok c
  protectedAppSignals : ∃ bids, PasBidding.Reactor.parseProtectedSignalsGenerateBidsResponse v
    pasLib generateBidResponse = .ok bids
  preparedData : ∃ prepared, pasLib.parsePreparedData prepareDataResponse = .ok prepared
  malformed : ∀ before text after, output = before ++ .ok text :: after →
    ScriptBidding.YieldsNoBid lib enableAdtechCodeLogging text.resp →
      ScriptBidding.bidsOfTexts u perAdtechPaapiContributionsLimit lib enableAdtechCodeLogging
          output =
        ScriptBidding.bidsOfTexts u perAdtechPaapiContributionsLimit lib enableAdtechCodeLogging
          (before ++ after)
  sameBids : ∀ plain, List.Forall₂ (ScriptBidding.LoggedResult lib.toJsonTexts) output plain →
    ScriptBidding.bidsOfTexts u perAdtechPaapiContributionsLimit lib true output =
      ScriptBidding.bidsOfTexts u perAdtechPaapiContributionsLimit lib false plain
  sameAppSignalsBids : ∀ plain, pasLib.LoggedText generateBidResponse plain →
    PasBidding.Reactor.parseProtectedSignalsGenerateBidsResponse
        { v with enableAdtechCodeLogging := true } pasLib generateBidResponse =
      PasBidding.Reactor.parseProtectedSignalsGenerateBidsResponse
        { v with enableAdtechCodeLogging := false } pasLib plain

section Trips

variable {F : Type} {u : Setup F} {perAdtechPaapiContributionsLimit : ℤ}
  {lib : ScriptBidding.TextLibrary F} {v : PasBidding.Setup} {pasLib : PasBidding.Library}

theorem exists_parseProtectedSignals_iff (response : String) :
    (∃ bids, PasBidding.Reactor.parseProtectedSignalsGenerateBidsResponse v pasLib response =
      .ok bids) ↔ pasLib.Readable v.enableAdtechCodeLogging response := by
  rw [← JsonTexts.readable_iff]
  unfold PasBidding.Reactor.parseProtectedSignalsGenerateBidsResponse
  cases hparsed : pasLib.parseAndGetResponseJsonArray v.enableAdtechCodeLogging response with
  | error e =>
    rw [JsonTexts.parseAndGetResponseJsonArray_error hparsed]
    exact iff_of_false (fun ⟨_, h⟩ => nomatch h) fun h => h rfl
  | ok texts => exact iff_of_true ⟨_, rfl⟩ fun h => nomatch h

theorem exists_parsePreparedData_iff (response : String) :
    (∃ prepared, pasLib.parsePreparedData response = .ok prepared) ↔
      pasLib.ReadablePrepared response := by
  rw [← JsonTexts.readablePrepared_iff]
  cases hparsed : pasLib.parsePreparedData response with
  | error e =>
    rw [JsonTexts.parsePreparedData_error hparsed]
    exact iff_of_false (fun ⟨_, h⟩ => nomatch h) fun h => h rfl
  | ok prepared => exact iff_of_true ⟨_, rfl⟩ fun h => nomatch h

theorem bidsOfTexts_eq_of_logged {output plain : List (Except String ScriptBidding.TextResponse)}
    (h : List.Forall₂ (ScriptBidding.LoggedResult lib.toJsonTexts) output plain) :
    ScriptBidding.bidsOfTexts u perAdtechPaapiContributionsLimit lib true output =
      ScriptBidding.bidsOfTexts u perAdtechPaapiContributionsLimit lib false plain := by
  have hread : output.mapM (ScriptBidding.readResult lib true) =
      plain.mapM (ScriptBidding.readResult lib false) := by
    induction h with
    | nil => rfl
    | cons hresult _ ih => rw [List.mapM_cons, List.mapM_cons, ih, hresult.readResult_eq]
  unfold ScriptBidding.bidsOfTexts
  rw [ScriptBidding.callbackOfTexts_eq, ScriptBidding.callbackOfTexts_eq, hread]

end Trips

/-- For all that the scripts return, in either mode, bidding never trips if and only if every
text that is JSON has the members that are read of it. -/
theorem neverTrips_iff {F : Type} (u : Setup F) (perAdtechPaapiContributionsLimit : ℤ)
    (lib : ScriptBidding.TextLibrary F) (enableAdtechCodeLogging : Bool)
    (output : List (Except String ScriptBidding.TextResponse)) (v : PasBidding.Setup)
    (pasLib : PasBidding.Library) (generateBidResponse prepareDataResponse : String) :
    NeverTrips u perAdtechPaapiContributionsLimit lib enableAdtechCodeLogging output v pasLib
        generateBidResponse prepareDataResponse ↔
      (∀ text, .ok text ∈ output → lib.Readable enableAdtechCodeLogging text.resp) ∧
        pasLib.Readable v.enableAdtechCodeLogging generateBidResponse ∧
        pasLib.ReadablePrepared prepareDataResponse := by
  constructor
  · intro h
    exact ⟨(ScriptBidding.exists_callbackOfTexts_iff output).mp h.protectedAudience,
      (exists_parseProtectedSignals_iff _).mp h.protectedAppSignals,
      (exists_parsePreparedData_iff _).mp h.preparedData⟩
  · rintro ⟨houtput, hbids, hprepared⟩
    refine ⟨(ScriptBidding.exists_callbackOfTexts_iff output).mpr houtput,
      (exists_parseProtectedSignals_iff _).mpr hbids,
      (exists_parsePreparedData_iff _).mpr hprepared, ?_, ?_, ?_⟩
    · rintro before text after rfl hnone
      exact ScriptBidding.bidsOfTexts_of_no_bid u perAdtechPaapiContributionsLimit
        (houtput text (List.mem_append_right _ List.mem_cons_self)) hnone
    · intro plain hlogged
      exact bidsOfTexts_eq_of_logged hlogged
    · intro plain hlogged
      unfold PasBidding.Reactor.parseProtectedSignalsGenerateBidsResponse
      rw [hlogged.parse_eq]

/-- What the wrapper returns of a `prepareDataForAdRetrieval` that returns nothing. -/
def responseOfNothing : String := "\x7b\"logs\":[],\"errors\":[],\"warnings\":[]\x7d"

def nothingPreparedLibrary : PasBidding.Library where
  parseJsonString text :=
    if text = responseOfNothing then
      .ok (.object [("logs", .array []), ("errors", .array []), ("warnings", .array [])])
    else if text = "[]" then .ok (.array [])
    else .error "JSON Parse Error"
  serializeJsonDoc _ := .ok "[]"
  jsonStringToMessage _ := .error "not a bid"
  getSerializedEgressPayload _ _ _ := .error "no schema"

/-- A script that returns nothing ends the process. -/
theorem nothing_prepared_trips :
    ¬ NeverTrips (F := ℚ) { auctionScope := .singleSeller, isZero := (· == 0) } 0
      { nothingPreparedLibrary.toJsonTexts with jsonStringToMessage := fun _ => none } false [] {}
      nothingPreparedLibrary "[]" responseOfNothing := by
  intro h
  have hparse : nothingPreparedLibrary.parseJsonString responseOfNothing =
      .ok (.object [("logs", .array []), ("errors", .array []), ("warnings", .array [])]) := by
    simp [nothingPreparedLibrary]
  have hmember := (exists_parsePreparedData_iff _).mp h.preparedData _ hparse
  revert hmember
  decide +kernel

end BiddingAuction

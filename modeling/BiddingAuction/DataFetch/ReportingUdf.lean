import BiddingAuction.Common.FlatHash
import BiddingAuction.Foundation.Remembered
import BiddingAuction.Foundation.Runs
import Mathlib.Tactic.Common

/-!
# `BuyerReportingUdfFetchManager`

The `reportWin` code of all buyers is fetched in one call: the endpoints of protected
audience first, those of protected app signals after them, without the endpoints that
no request can be made for. The results come back in the order of the requests, and by
its position a result is taken for one of the first or of the second kind.
-/

namespace BiddingAuction

open Foundation

inductive AuctionType where
  | kProtectedAudience
  | kProtectedAppSignals
deriving DecidableEq, Repr

/-- A URL as libcurl has parsed it. Its parts may be missing. -/
structure ParsedUrl where
  host : Except ℕ String
  path : Except ℕ String

/-- How libcurl parses a URL, or fails with an error code. -/
abbrev UrlParser := String → Except ℕ ParsedUrl

def kProtectedAppSignalWrapperPrefix := "pas_"
def kProtectedAuctionWrapperPrefix := "pa_"

namespace UrlParser

variable (parser : UrlParser)

def parseUrl (url : String) : Except String ParsedUrl :=
  (parser url).mapError fun uc => "Curl could not parse URL with error code: " ++ toString uc

/-- The error of a part that is missing; the path is called the domain as well. -/
def partError (uc : ℕ) : String :=
  "Curl could not get domain from URL with error code: " ++ toString uc

def stripQueryAndFragmentsFromUrl (url : String) : Except String String := do
  let parsed ← parseUrl parser url
  let domain ← parsed.host.mapError partError
  let path ← parsed.path.mapError partError
  return domain ++ path

def getDomainFromUrl (url : String) : Except String String := do
  let parsed ← parseUrl parser url
  parsed.host.mapError partError

def getBuyerReportWinVersion (buyerUrl : String) (auctionType : AuctionType) :
    Except String String := do
  let domain ← getDomainFromUrl parser buyerUrl
  match auctionType with
  | .kProtectedAppSignals => return kProtectedAppSignalWrapperPrefix ++ domain
  | .kProtectedAudience => return kProtectedAuctionWrapperPrefix ++ domain

end UrlParser

/-! ## The requests -/

structure SellerCodeFetchConfig where
  buyerReportWinJsUrls : FlatHashMap String String := ∅
  protectedAppSignalsBuyerReportWinJsUrls : FlatHashMap String String := ∅
  testMode : Bool := false

/-- The URL of a request, and the entry of `buyer_origins` beside it. -/
structure UdfRequest where
  url : String
  buyerOrigin : String
deriving DecidableEq, Repr

namespace SellerCodeFetchConfig

variable (config : SellerCodeFetchConfig) (parser : UrlParser)

/-- The URL of `CreateUdfFetchRequest`. -/
def createUdfFetchRequest (reportWinEndpoint : String) : Except String String := do
  let strippedUrl ← parser.stripQueryAndFragmentsFromUrl reportWinEndpoint
  return if config.testMode then reportWinEndpoint else strippedUrl

def request? (buyerOrigin reportWinEndpoint : String) : Option UdfRequest :=
  if reportWinEndpoint = "" then none
  else (config.createUdfFetchRequest parser reportWinEndpoint).toOption.map (⟨·, buyerOrigin⟩)

def requestsOf (urls : FlatHashMap String String) : List UdfRequest :=
  urls.entries.filterMap fun entry => config.request? parser entry.1 entry.2

def requests : List UdfRequest :=
  config.requestsOf parser config.buyerReportWinJsUrls ++
    config.requestsOf parser config.protectedAppSignalsBuyerReportWinJsUrls

end SellerCodeFetchConfig

/-! ## The responses -/

/-- The headers of a response may hold errors. -/
structure UdfResponse where
  body : String
  headers : List (String × Except String String)

def kUdfRequiredResponseHeader := "x-allow-fledge"

def validateUdfFetchResponse (response : UdfResponse) : Except String Unit :=
  if response.body = "" then .error "Empty response body"
  else
    match response.headers.lookup kUdfRequiredResponseHeader with
    | none => .error "Protected Audience Allowed header not set in response"
    | some (.error message) => .error message
    | some (.ok value) =>
      if value = "true" then .ok ()
      else .error "Protected Audience Allowed header value must be true in response"

def SellerCodeFetchConfig.accepts (config : SellerCodeFetchConfig) (response : UdfResponse) :
    Bool :=
  config.testMode || (validateUdfFetchResponse response).isOk

structure BuyerCode where
  auctionType : AuctionType
  buyerOrigin : String
deriving DecidableEq, Repr

/-- A call of `LoadBuyerCode`: for whom it was made, in which cycle and for the result in
which position, and whether the load succeeded. -/
structure UdfLoad where
  buyer : BuyerCode
  version : String
  fetchedBlob : String
  cycle : ℕ
  position : ℕ
  succeeds : Bool
deriving DecidableEq, Repr

/-- What comes of the requests of a cycle, position by position: a response or an error,
and whether its code would be loaded. -/
structure UdfFetches where
  result : ℕ → Except String UdfResponse
  loadSucceeds : ℕ → Bool

/-- The manager, with the loads so far, latest first. -/
structure UdfFetchManager where
  protectedAuctionCodeBlobPerOrigin : FlatHashMap String String := ∅
  protectedAppSignalsCodeBlobPerOrigin : FlatHashMap String String := ∅
  loads : List UdfLoad := []
  cycles : ℕ := 0
  /-- `value` was called on the error of a version, which aborts the process. -/
  aborted : Bool := false

namespace UdfFetchManager

variable (config : SellerCodeFetchConfig) (parser : UrlParser) (m : UdfFetchManager)

def loadBuyerCode (buyer : BuyerCode) (version fetchedBlob : String) (position : ℕ)
    (succeeds : Bool) : UdfFetchManager :=
  { m with loads := ⟨buyer, version, fetchedBlob, m.cycles, position, succeeds⟩ :: m.loads }

def onProtectedAudienceUdfFetch (buyerOrigin : String) (udfResponse : UdfResponse)
    (position : ℕ) (succeeds : Bool) : UdfFetchManager :=
  if !config.accepts udfResponse then m
  else
    let codeBlobs := m.protectedAuctionCodeBlobPerOrigin.emplace buyerOrigin ""
    let m := { m with protectedAuctionCodeBlobPerOrigin := codeBlobs }
    if (codeBlobs.lookup buyerOrigin).getD "" ≠ udfResponse.body then
      match parser.getBuyerReportWinVersion buyerOrigin .kProtectedAudience with
      | .error _ => m
      | .ok codeVersion =>
        { m.loadBuyerCode ⟨.kProtectedAudience, buyerOrigin⟩ codeVersion udfResponse.body position
            succeeds with
          protectedAuctionCodeBlobPerOrigin := codeBlobs.insert buyerOrigin udfResponse.body }
    else m

/-- `OnProtectedAppSignalUdfFetch`: without a version it goes on all the same. -/
def onProtectedAppSignalUdfFetch (buyerOrigin : String) (udfResponse : UdfResponse)
    (position : ℕ) (succeeds : Bool) : UdfFetchManager :=
  if !config.accepts udfResponse then m
  else
    let codeBlobs := m.protectedAppSignalsCodeBlobPerOrigin.emplace buyerOrigin ""
    let m := { m with protectedAppSignalsCodeBlobPerOrigin := codeBlobs }
    if (codeBlobs.lookup buyerOrigin).getD "" ≠ udfResponse.body then
      match parser.getBuyerReportWinVersion buyerOrigin .kProtectedAppSignals with
      | .error _ => { m with aborted := true }
      | .ok codeVersion =>
        { m.loadBuyerCode ⟨.kProtectedAppSignals, buyerOrigin⟩ codeVersion udfResponse.body
            position succeeds with
          protectedAppSignalsCodeBlobPerOrigin := codeBlobs.insert buyerOrigin udfResponse.body }
    else m

def auctionTypeAt (position : ℕ) : AuctionType :=
  if position < config.buyerReportWinJsUrls.entries.length then .kProtectedAudience
  else .kProtectedAppSignals

def onResult (fetches : UdfFetches) (entry : UdfRequest × ℕ) : UdfFetchManager :=
  if m.aborted then m
  else
    match fetches.result entry.2 with
    | .error _ => m
    | .ok response =>
      match auctionTypeAt config entry.2 with
      | .kProtectedAudience => m.onProtectedAudienceUdfFetch config parser entry.1.buyerOrigin
          response entry.2 (fetches.loadSucceeds entry.2)
      | .kProtectedAppSignals => m.onProtectedAppSignalUdfFetch config parser entry.1.buyerOrigin
          response entry.2 (fetches.loadSucceeds entry.2)

def periodicBuyerReportingFetchAndLoadSync (fetches : UdfFetches) : UdfFetchManager :=
  let m := (config.requests parser).zipIdx.foldl (fun m entry => m.onResult config parser fetches
    entry) m
  { m with cycles := m.cycles + 1 }

def system : LTS UdfFetchManager UdfFetches where
  init m := m = {}
  step m fetches m' := m.periodicBuyerReportingFetchAndLoadSync config parser fetches = m'

def remembered (buyer : BuyerCode) : Remembered String where
  content :=
    ((match buyer.auctionType with
      | .kProtectedAudience => m.protectedAuctionCodeBlobPerOrigin
      | .kProtectedAppSignals => m.protectedAppSignalsCodeBlobPerOrigin).lookup
        buyer.buyerOrigin).getD ""
  loads := (m.loads.filter fun load => load.buyer = buyer).map fun load =>
    (load.fetchedBlob, load.succeeds)

end UdfFetchManager

end BiddingAuction

/-!
# What a cycle loads

One result is at most one load, for the buyer its position is taken for. Over a cycle
the results before a position decide the state in which its own result arrives.
-/

namespace BiddingAuction

def UrlParser.version (parser : UrlParser) (buyer : BuyerCode) : Except String String :=
  parser.getBuyerReportWinVersion buyer.buyerOrigin buyer.auctionType

/-- The code that arrives at a position, if the result there passes for code. -/
def UdfFetches.code? (fetches : UdfFetches) (config : SellerCodeFetchConfig) (position : ℕ) :
    Option String :=
  match fetches.result position with
  | .error _ => none
  | .ok response => if config.accepts response then some response.body else none

namespace UdfFetchManager

variable {config : SellerCodeFetchConfig} {parser : UrlParser} {fetches : UdfFetches}
  {m : UdfFetchManager}

def takenFor (config : SellerCodeFetchConfig) (entry : UdfRequest × ℕ) : BuyerCode :=
  ⟨auctionTypeAt config entry.2, entry.1.buyerOrigin⟩

abbrev codeBlob (m : UdfFetchManager) (buyer : BuyerCode) : String := (m.remembered buyer).content

/-- What one result does: nothing, a load for the buyer it is taken for, or the end of
the process. -/
inductive Taken (config : SellerCodeFetchConfig) (parser : UrlParser) (fetches : UdfFetches)
    (m : UdfFetchManager) (entry : UdfRequest × ℕ) (m' : UdfFetchManager) : Prop
  | ignored : m.aborted = true ∨ fetches.code? config entry.2 = none → m' = m →
      Taken config parser fetches m entry m'
  | same : fetches.code? config entry.2 = some (m.codeBlob (takenFor config entry)) →
      m'.codeBlob = m.codeBlob → m'.loads = m.loads → m'.cycles = m.cycles →
      m'.aborted = false → Taken config parser fetches m entry m'
  | loaded {code version : String} : fetches.code? config entry.2 = some code →
      m.codeBlob (takenFor config entry) ≠ code →
      parser.version (takenFor config entry) = .ok version →
      (∀ buyer, buyer ≠ takenFor config entry → m'.codeBlob buyer = m.codeBlob buyer) →
      m'.loads = ⟨takenFor config entry, version, code, m.cycles, entry.2,
        fetches.loadSucceeds entry.2⟩ :: m.loads →
      m'.cycles = m.cycles → m'.aborted = false → Taken config parser fetches m entry m'
  | unversioned {code message : String} : fetches.code? config entry.2 = some code →
      parser.version (takenFor config entry) = .error message →
      m'.codeBlob = m.codeBlob → m'.loads = m.loads → m'.cycles = m.cycles →
      (m'.aborted = true ↔ (takenFor config entry).auctionType = .kProtectedAppSignals) →
      Taken config parser fetches m entry m'

theorem lookup_emplace_getD (blobs : FlatHashMap String String) (origin origin' : String) :
    ((blobs.emplace origin "").lookup origin').getD "" = (blobs.lookup origin').getD "" := by
  by_cases h : origin' = origin
  · subst h
    rw [FlatHashMap.lookup_emplace_self, Option.getD_some]
  · rw [FlatHashMap.lookup_emplace_ne h]

theorem codeBlob_audience (m : UdfFetchManager) (buyerOrigin : String) :
    m.codeBlob ⟨.kProtectedAudience, buyerOrigin⟩ =
      (m.protectedAuctionCodeBlobPerOrigin.lookup buyerOrigin).getD "" := rfl

theorem codeBlob_appSignals (m : UdfFetchManager) (buyerOrigin : String) :
    m.codeBlob ⟨.kProtectedAppSignals, buyerOrigin⟩ =
      (m.protectedAppSignalsCodeBlobPerOrigin.lookup buyerOrigin).getD "" := rfl

theorem taken_onProtectedAudienceUdfFetch {entry : UdfRequest × ℕ} {response : UdfResponse}
    (habort : m.aborted = false) (hresult : fetches.result entry.2 = .ok response)
    (htype : auctionTypeAt config entry.2 = .kProtectedAudience) :
    Taken config parser fetches m entry (m.onProtectedAudienceUdfFetch config parser
      entry.1.buyerOrigin response entry.2 (fetches.loadSucceeds entry.2)) := by
  have hfor : takenFor config entry = ⟨.kProtectedAudience, entry.1.buyerOrigin⟩ := by
    rw [takenFor, htype]
  have hcode : fetches.code? config entry.2 =
      if config.accepts response then some response.body else none := by
    rw [UdfFetches.code?, hresult]
  unfold onProtectedAudienceUdfFetch
  by_cases haccepts : config.accepts response
  · rw [if_pos haccepts] at hcode
    simp only [haccepts, Bool.not_true, Bool.false_eq_true, if_false, lookup_emplace_getD]
    by_cases hsame : (m.protectedAuctionCodeBlobPerOrigin.lookup entry.1.buyerOrigin).getD "" =
        response.body
    · rw [if_neg (not_not_intro hsame)]
      refine .same ?_ ?_ rfl rfl habort
      · rw [hcode, hfor, codeBlob_audience, hsame]
      · funext buyer
        obtain ⟨_ | _, origin⟩ := buyer
        · exact lookup_emplace_getD _ _ _
        · rfl
    · rw [if_pos hsame]
      cases hversion : parser.getBuyerReportWinVersion entry.1.buyerOrigin .kProtectedAudience with
      | error message =>
        refine .unversioned hcode (by rw [hfor]; exact hversion) ?_ rfl rfl ?_
        · funext buyer
          obtain ⟨_ | _, origin⟩ := buyer
          · exact lookup_emplace_getD _ _ _
          · rfl
        · rw [hfor]
          simp [habort]
      | ok version =>
        refine .loaded hcode (by rw [hfor]; exact hsame) (by rw [hfor]; exact hversion) ?_ ?_ rfl
          habort
        · intro buyer hbuyer
          rw [hfor] at hbuyer
          obtain ⟨_ | _, origin⟩ := buyer
          · have horigin : origin ≠ entry.1.buyerOrigin := fun h => hbuyer (by rw [h])
            rw [codeBlob_audience, codeBlob_audience, AList.lookup_insert_ne horigin]
            exact lookup_emplace_getD _ _ _
          · rfl
        · rw [hfor]
          rfl
  · simp only [haccepts, Bool.not_false, if_true]
    exact .ignored (.inr (by rw [hcode, if_neg haccepts])) rfl

theorem taken_onProtectedAppSignalUdfFetch {entry : UdfRequest × ℕ} {response : UdfResponse}
    (habort : m.aborted = false) (hresult : fetches.result entry.2 = .ok response)
    (htype : auctionTypeAt config entry.2 = .kProtectedAppSignals) :
    Taken config parser fetches m entry (m.onProtectedAppSignalUdfFetch config parser
      entry.1.buyerOrigin response entry.2 (fetches.loadSucceeds entry.2)) := by
  have hfor : takenFor config entry = ⟨.kProtectedAppSignals, entry.1.buyerOrigin⟩ := by
    rw [takenFor, htype]
  have hcode : fetches.code? config entry.2 =
      if config.accepts response then some response.body else none := by
    rw [UdfFetches.code?, hresult]
  unfold onProtectedAppSignalUdfFetch
  by_cases haccepts : config.accepts response
  · rw [if_pos haccepts] at hcode
    simp only [haccepts, Bool.not_true, Bool.false_eq_true, if_false, lookup_emplace_getD]
    by_cases hsame : (m.protectedAppSignalsCodeBlobPerOrigin.lookup entry.1.buyerOrigin).getD "" =
        response.body
    · rw [if_neg (not_not_intro hsame)]
      refine .same ?_ ?_ rfl rfl habort
      · rw [hcode, hfor, codeBlob_appSignals, hsame]
      · funext buyer
        obtain ⟨_ | _, origin⟩ := buyer
        · rfl
        · exact lookup_emplace_getD _ _ _
    · rw [if_pos hsame]
      cases hversion : parser.getBuyerReportWinVersion entry.1.buyerOrigin
          .kProtectedAppSignals with
      | error message =>
        refine .unversioned hcode (by rw [hfor]; exact hversion) ?_ rfl rfl ?_
        · funext buyer
          obtain ⟨_ | _, origin⟩ := buyer
          · rfl
          · exact lookup_emplace_getD _ _ _
        · rw [hfor]
          simp
      | ok version =>
        refine .loaded hcode (by rw [hfor]; exact hsame) (by rw [hfor]; exact hversion) ?_ ?_ rfl
          habort
        · intro buyer hbuyer
          rw [hfor] at hbuyer
          obtain ⟨_ | _, origin⟩ := buyer
          · rfl
          · have horigin : origin ≠ entry.1.buyerOrigin := fun h => hbuyer (by rw [h])
            rw [codeBlob_appSignals, codeBlob_appSignals, AList.lookup_insert_ne horigin]
            exact lookup_emplace_getD _ _ _
        · rw [hfor]
          rfl
  · simp only [haccepts, Bool.not_false, if_true]
    exact .ignored (.inr (by rw [hcode, if_neg haccepts])) rfl

theorem taken_onResult (config : SellerCodeFetchConfig) (parser : UrlParser)
    (fetches : UdfFetches) (m : UdfFetchManager) (entry : UdfRequest × ℕ) :
    Taken config parser fetches m entry (m.onResult config parser fetches entry) := by
  unfold onResult
  by_cases habort : m.aborted
  · rw [if_pos habort]
    exact .ignored (.inl habort) rfl
  · rw [if_neg habort]
    replace habort : m.aborted = false := Bool.not_eq_true _ ▸ habort
    cases hresult : fetches.result entry.2 with
    | error message => exact .ignored (.inr (by rw [UdfFetches.code?, hresult])) rfl
    | ok response =>
      cases htype : auctionTypeAt config entry.2 with
      | kProtectedAudience => exact taken_onProtectedAudienceUdfFetch habort hresult htype
      | kProtectedAppSignals => exact taken_onProtectedAppSignalUdfFetch habort hresult htype

/-! ## The turns of a cycle -/

def upTo (config : SellerCodeFetchConfig) (parser : UrlParser) (m : UdfFetchManager)
    (fetches : UdfFetches) (position : ℕ) : UdfFetchManager :=
  ((config.requests parser).zipIdx.take position).foldl
    (fun m entry => m.onResult config parser fetches entry) m

theorem upTo_succ {position : ℕ} {request : UdfRequest}
    (hrequest : (config.requests parser)[position]? = some request) :
    m.upTo config parser fetches (position + 1) =
      (m.upTo config parser fetches position).onResult config parser fetches
        (request, position) := by
  have hentry : (config.requests parser).zipIdx[position]? = some (request, position) := by
    rw [List.getElem?_zipIdx, hrequest]
    simp
  rw [upTo, List.take_add_one, hentry, List.foldl_append]
  rfl

theorem upTo_succ_of_none {position : ℕ} (hnone : (config.requests parser)[position]? = none) :
    m.upTo config parser fetches (position + 1) = m.upTo config parser fetches position := by
  have hentry : (config.requests parser).zipIdx[position]? = none := by
    rw [List.getElem?_zipIdx, hnone]
    rfl
  rw [upTo, List.take_add_one, hentry, Option.toList_none, List.append_nil]
  rfl

theorem periodic_eq_upTo (m : UdfFetchManager) :
    m.periodicBuyerReportingFetchAndLoadSync config parser fetches =
      { m.upTo config parser fetches (config.requests parser).length with
        cycles := (m.upTo config parser fetches (config.requests parser).length).cycles + 1 } := by
  have hall : (config.requests parser).zipIdx.take (config.requests parser).length =
      (config.requests parser).zipIdx := by
    rw [List.take_of_length_le]
    rw [List.length_zipIdx]
  rw [upTo, hall]
  rfl

theorem upTo_induction {P : ℕ → UdfFetchManager → Prop} (start : P 0 m)
    (turn : ∀ position request m₁ m₂, (config.requests parser)[position]? = some request →
      m.upTo config parser fetches position = m₁ → P position m₁ →
      Taken config parser fetches m₁ (request, position) m₂ → P (position + 1) m₂)
    (past : ∀ position m₁, P position m₁ → P (position + 1) m₁) (position : ℕ) :
    P position (m.upTo config parser fetches position) := by
  induction position with
  | zero => exact start
  | succ position ih =>
    cases hrequest : (config.requests parser)[position]? with
    | none =>
      rw [upTo_succ_of_none hrequest]
      exact past position _ ih
    | some request =>
      rw [upTo_succ hrequest]
      exact turn position request _ _ hrequest rfl ih (taken_onResult _ _ _ _ _)

theorem cycles_upTo (position : ℕ) : (m.upTo config parser fetches position).cycles = m.cycles := by
  refine upTo_induction (P := fun _ m₁ => m₁.cycles = m.cycles) rfl ?_ (fun _ _ h => h) position
  intro position request m₁ m₂ _ _ ih taken
  cases taken with
  | ignored _ hm => rw [hm, ih]
  | same _ _ _ hcycles => rw [hcycles, ih]
  | loaded _ _ _ _ _ hcycles => rw [hcycles, ih]
  | unversioned _ _ _ _ hcycles => rw [hcycles, ih]

/-- A load that a cycle makes: of the code at its position, for the buyer this is taken
for, when the code differs from what is remembered there. -/
structure MadeFor (config : SellerCodeFetchConfig) (parser : UrlParser) (m : UdfFetchManager)
    (fetches : UdfFetches) (load : UdfLoad) (request : UdfRequest) : Prop where
  requested : (config.requests parser)[load.position]? = some request
  code : fetches.code? config load.position = some load.fetchedBlob
  buyer : load.buyer = takenFor config (request, load.position)
  version : parser.version load.buyer = .ok load.version
  cycle : load.cycle = m.cycles
  differs : (m.upTo config parser fetches load.position).codeBlob load.buyer ≠ load.fetchedBlob

theorem loads_upTo (config : SellerCodeFetchConfig) (parser : UrlParser) (m : UdfFetchManager)
    (fetches : UdfFetches) (position : ℕ) :
    ∀ load ∈ (m.upTo config parser fetches position).loads, load ∈ m.loads ∨
      load.position < position ∧ ∃ request, MadeFor config parser m fetches load request := by
  refine upTo_induction (P := fun position m₁ => ∀ load ∈ m₁.loads, load ∈ m.loads ∨
    load.position < position ∧ ∃ request, MadeFor config parser m fetches load request) ?_ ?_ ?_
    position
  · exact fun load hload => .inl hload
  · intro position request m₁ m₂ hrequest hm₁ ih taken
    have hkept : ∀ load ∈ m₁.loads, load ∈ m.loads ∨ load.position < position + 1 ∧
        ∃ request, MadeFor config parser m fetches load request := by
      intro load hload
      exact (ih load hload).imp id fun ⟨hposition, hmade⟩ => ⟨by omega, hmade⟩
    cases taken with
    | ignored _ hm => exact hm ▸ hkept
    | same _ _ hloads => exact hloads ▸ hkept
    | unversioned _ _ _ hloads => exact hloads ▸ hkept
    | loaded hcode hdiffers hversion _ hloads =>
      intro load hload
      rw [hloads, List.mem_cons] at hload
      rcases hload with rfl | hload
      · refine .inr ⟨Nat.lt_succ_self position, request, hrequest, hcode, rfl, hversion, ?_, ?_⟩
        · exact hm₁ ▸ cycles_upTo position
        · exact hm₁ ▸ hdiffers
      · exact hkept load hload
  · intro position m₁ ih load hload
    exact (ih load hload).imp id fun ⟨hposition, hmade⟩ => ⟨by omega, hmade⟩

theorem mem_loads_of_taken {entry : UdfRequest × ℕ} {m' : UdfFetchManager}
    (taken : Taken config parser fetches m entry m') {load : UdfLoad} (h : load ∈ m.loads) :
    load ∈ m'.loads := by
  cases taken with
  | ignored _ hm => exact hm ▸ h
  | same _ _ hloads => exact hloads ▸ h
  | unversioned _ _ _ hloads => exact hloads ▸ h
  | loaded _ _ _ _ hloads =>
    rw [hloads]
    exact List.mem_cons_of_mem _ h

theorem mem_loads_upTo_of_le {position position' : ℕ} (hle : position ≤ position')
    {load : UdfLoad} (h : load ∈ (m.upTo config parser fetches position).loads) :
    load ∈ (m.upTo config parser fetches position').loads := by
  induction hle with
  | refl => exact h
  | @step position' _ ih =>
    cases hrequest : (config.requests parser)[position']? with
    | none => rwa [upTo_succ_of_none hrequest]
    | some request =>
      rw [upTo_succ hrequest]
      exact mem_loads_of_taken (taken_onResult _ _ _ _ _) ih

theorem codeBlob_upTo {buyer : BuyerCode} {position : ℕ}
    (hothers : ∀ earlier < position, ∀ request,
      (config.requests parser)[earlier]? = some request →
      fetches.code? config earlier ≠ none → takenFor config (request, earlier) ≠ buyer) :
    (m.upTo config parser fetches position).codeBlob buyer = m.codeBlob buyer := by
  induction position with
  | zero => rfl
  | succ position ih =>
    have hbefore := ih fun earlier hearlier => hothers earlier (by omega)
    cases hrequest : (config.requests parser)[position]? with
    | none => rw [upTo_succ_of_none hrequest, hbefore]
    | some request =>
      rw [upTo_succ hrequest, ← hbefore]
      cases taken_onResult config parser fetches (m.upTo config parser fetches position)
          (request, position) with
      | ignored _ hm => rw [hm]
      | same _ hblob => rw [hblob]
      | unversioned _ _ hblob => rw [hblob]
      | loaded hcode _ _ hframe =>
        have hother := hothers position (Nat.lt_succ_self position) request hrequest
          (by rw [hcode]; exact Option.some_ne_none _)
        exact hframe buyer hother.symm

end UdfFetchManager

end BiddingAuction

import BiddingAuction.BuyerFrontEnd.BiddingRequests
import BiddingAuction.Foundation.QueryStrings
import BiddingAuction.KAnon.Keys

/-!
# The requests of a key-value lookup

`generate_url`, `BuildBuyerKeyValueRequest` and `BuildSellerKeyValueRequest`. The URL is built from
left to right, one parameter behind the other. Texts are bytes here.
-/

namespace BiddingAuction

namespace KeyValue

/-- `absl::btree_set<absl::string_view>`. -/
structure UrlKeysSet where
  elements : List Bytes
  sorted : elements.Pairwise (· < ·)

instance : EmptyCollection UrlKeysSet := ⟨⟨[], .nil⟩⟩

def UrlKeysSet.isEmpty (keys : UrlKeysSet) : Bool := keys.elements.isEmpty

/-- The fields of `HTTPRequest` that a lookup sets; the others keep their defaults. -/
structure HTTPRequest where
  url : Bytes
  headers : List Bytes := []
  includeHeaders : List Bytes := []

abbrev RequestMetadata := List (Bytes × Bytes)

/-! ## Headers -/

def metadataHeaders (metadataMap : RequestMetadata) : List Bytes :=
  metadataMap.map fun it => it.1 ++ bytesOf ":" ++ it.2

/-- `RequestMetadataToHttpHeaders`; without mandatory headers, the overload that has none. -/
def requestMetadataToHttpHeaders (metadataMap : RequestMetadata)
    (mandatoryHeaders : List Bytes := []) : List Bytes :=
  ((mandatoryHeaders.filter fun it => (metadataMap.lookup it).isNone).map fun it =>
    it ++ bytesOf ":") ++ metadataHeaders metadataMap

def kMandatoryHeaders : List Bytes := [bytesOf "X-BnA-Client-IP"]
def kDataVersionResponseHeaderName := bytesOf "Data-Version"
def kHybridV1OnlyResponseHeaderName := bytesOf "ad-auction-v1-only"

/-! ## URLs -/

def clearAndMakeStartOfUrl (kvServerHostDomain : Bytes) : Bytes :=
  kvServerHostDomain ++ bytesOf "?"

/-- The URL is never empty where this is called: it has the question mark of its start. -/
def addAmpersandIfNotFirstQueryParam (url : Bytes) : Bytes :=
  if url.getLast? ≠ some '?'.toUInt8 ∧ url.getLast? ≠ some '&'.toUInt8 then url ++ bytesOf "&"
  else url

section

-- `EncodeParam`: what `curl_easy_escape` makes of a text.
variable (encodeParam : Bytes → Bytes)

def addListItemsAsQueryParamsToUrl (url key : Bytes) (values : UrlKeysSet)
    (encodeParams : Bool := false) : Bytes :=
  let url := addAmpersandIfNotFirstQueryParam url
  let url := url ++ (key ++ bytesOf "=")
  if encodeParams then
    let encodedValues := values.elements.map encodeParam
    url ++ (bytesOf ",").intercalate encodedValues
  else url ++ (bytesOf ",").intercalate values.elements

/-! ## The buyer -/

structure GetBuyerValuesInput where
  keys : UrlKeysSet := ∅
  interestGroupNames : UrlKeysSet := ∅
  hostname : Bytes := []
  clientType : SelectAd.ClientType := .unknown
  buyerKvExperimentGroupId : Bytes := []

def kEnableEncodeParams := true

def buildBuyerKeyValueRequest (kvServerHostDomain : Bytes) (metadata : RequestMetadata)
    (clientInput : GetBuyerValuesInput) (expectedResponseHeadersToInclude : List Bytes := []) :
    HTTPRequest :=
  let url := clearAndMakeStartOfUrl kvServerHostDomain
  let url :=
    if clientInput.clientType = .android then
      addAmpersandIfNotFirstQueryParam url ++ (bytesOf "client_type=" ++
        bytesOf (toString (BuyerFrontEnd.clientTypeNumber clientInput.clientType)))
    else url
  let url :=
    if !clientInput.hostname.isEmpty then
      addAmpersandIfNotFirstQueryParam url ++ (bytesOf "hostname=" ++ clientInput.hostname)
    else url
  let url :=
    if !clientInput.buyerKvExperimentGroupId.isEmpty then
      addAmpersandIfNotFirstQueryParam url ++
        (bytesOf "experimentGroupId=" ++ clientInput.buyerKvExperimentGroupId)
    else url
  let url :=
    if !clientInput.keys.isEmpty then
      addListItemsAsQueryParamsToUrl encodeParam url (bytesOf "keys") clientInput.keys
        kEnableEncodeParams
    else url
  let url :=
    if !clientInput.interestGroupNames.isEmpty then
      addListItemsAsQueryParamsToUrl encodeParam url (bytesOf "interestGroupNames")
        clientInput.interestGroupNames kEnableEncodeParams
    else url
  { url, headers := requestMetadataToHttpHeaders metadata kMandatoryHeaders
    includeHeaders := expectedResponseHeadersToInclude }

/-- The request that `BuyerKeyValueAsyncHttpClient::Execute` sends. -/
def buyerLookup (kvServerBaseAddress : Bytes) (metadata : RequestMetadata)
    (keys : GetBuyerValuesInput) : HTTPRequest :=
  buildBuyerKeyValueRequest encodeParam kvServerBaseAddress metadata keys
    [kDataVersionResponseHeaderName, kHybridV1OnlyResponseHeaderName]

/-! ## The seller -/

structure GetSellerValuesInput where
  renderUrls : UrlKeysSet := ∅
  adComponentRenderUrls : UrlKeysSet := ∅
  clientType : SelectAd.ClientType := .unknown
  sellerKvExperimentGroupId : Bytes := []

def buildSellerKeyValueRequest (kvServerHostDomain : Bytes) (metadata : RequestMetadata)
    (clientInput : GetSellerValuesInput) (expectedResponseHeadersToInclude : List Bytes := []) :
    HTTPRequest :=
  let url := clearAndMakeStartOfUrl kvServerHostDomain
  let url :=
    if clientInput.clientType = .android then
      addAmpersandIfNotFirstQueryParam url ++ (bytesOf "client_type=" ++
        bytesOf (toString (BuyerFrontEnd.clientTypeNumber clientInput.clientType)))
    else url
  let url :=
    if !clientInput.sellerKvExperimentGroupId.isEmpty then
      addAmpersandIfNotFirstQueryParam url ++
        (bytesOf "experimentGroupId=" ++ clientInput.sellerKvExperimentGroupId)
    else url
  let url :=
    if !clientInput.renderUrls.isEmpty then
      addListItemsAsQueryParamsToUrl encodeParam url (bytesOf "renderUrls") clientInput.renderUrls
        true
    else url
  let url :=
    if !clientInput.adComponentRenderUrls.isEmpty then
      addListItemsAsQueryParamsToUrl encodeParam url (bytesOf "adComponentRenderUrls")
        clientInput.adComponentRenderUrls true
    else url
  { url, headers := requestMetadataToHttpHeaders metadata
    includeHeaders := expectedResponseHeadersToInclude }

/-- The request that `SellerKeyValueAsyncHttpClient::Execute` sends. -/
def sellerLookup (kvServerBaseAddress : Bytes) (metadata : RequestMetadata)
    (keys : GetSellerValuesInput) : HTTPRequest :=
  buildSellerKeyValueRequest encodeParam kvServerBaseAddress metadata keys
    [kDataVersionResponseHeaderName]

end

end KeyValue

/-!
# What a key-value lookup asks for

The server reads the query of the URL. The listed texts are escaped, so it reads what was given;
the host name and the experiment group are written as they are, so it does if they have nothing
that a URL gives a meaning to.
-/

open Foundation

namespace KeyValue

/-- The parameters that are read from the query behind the host. -/
def Asks (host url : Bytes) (params : List (List (List Bytes))) : Prop :=
  ∃ query, url = host ++ '?'.toUInt8 :: query ∧ readParams (untilFragment query) = params

/-! ## What is given -/

def param (present : Bool) (name : String) (items : List Bytes) : List (List (List Bytes)) :=
  if present then [[[bytesOf name], items]] else []

def buyerParams (clientInput : GetBuyerValuesInput) : List (List (List Bytes)) :=
  param (clientInput.clientType = .android) "client_type" [bytesOf "1"] ++
  (param (!clientInput.hostname.isEmpty) "hostname" [clientInput.hostname] ++
  (param (!clientInput.buyerKvExperimentGroupId.isEmpty) "experimentGroupId"
    [clientInput.buyerKvExperimentGroupId] ++
  (param (!clientInput.keys.isEmpty) "keys" clientInput.keys.elements ++
  param (!clientInput.interestGroupNames.isEmpty) "interestGroupNames"
    clientInput.interestGroupNames.elements)))

def sellerParams (clientInput : GetSellerValuesInput) : List (List (List Bytes)) :=
  param (clientInput.clientType = .android) "client_type" [bytesOf "1"] ++
  (param (!clientInput.sellerKvExperimentGroupId.isEmpty) "experimentGroupId"
    [clientInput.sellerKvExperimentGroupId] ++
  (param (!clientInput.renderUrls.isEmpty) "renderUrls" clientInput.renderUrls.elements ++
  param (!clientInput.adComponentRenderUrls.isEmpty) "adComponentRenderUrls"
    clientInput.adComponentRenderUrls.elements))

/-! ## Plain texts -/

/-- No separator, no start of a fragment and no escape. -/
structure IsPlain (value : Bytes) : Prop where
  noAmpersand : '&'.toUInt8 ∉ value
  noEquals : '='.toUInt8 ∉ value
  noComma : ','.toUInt8 ∉ value
  noFragment : '#'.toUInt8 ∉ value
  noEscape : hasEscape value = false

def EndsInQuestionMark (value : Bytes) : Prop := value.getLast? = some '?'.toUInt8

/-- Both texts are plain, and neither ends in a question mark where a parameter follows. -/
structure PlainBuyerInput (clientInput : GetBuyerValuesInput) : Prop where
  hostname : IsPlain clientInput.hostname
  experiment : IsPlain clientInput.buyerKvExperimentGroupId
  hostnameEnd : EndsInQuestionMark clientInput.hostname →
    clientInput.buyerKvExperimentGroupId.isEmpty = true ∧ clientInput.keys.isEmpty = true ∧
      clientInput.interestGroupNames.isEmpty = true
  experimentEnd : EndsInQuestionMark clientInput.buyerKvExperimentGroupId →
    clientInput.keys.isEmpty = true ∧ clientInput.interestGroupNames.isEmpty = true

structure PlainSellerInput (clientInput : GetSellerValuesInput) : Prop where
  experiment : IsPlain clientInput.sellerKvExperimentGroupId
  experimentEnd : EndsInQuestionMark clientInput.sellerKvExperimentGroupId →
    clientInput.renderUrls.isEmpty = true ∧ clientInput.adComponentRenderUrls.isEmpty = true

/-! ## Written parameters -/

def rawParam (name : String) (value : Bytes) : QueryParam := ⟨bytesOf name, [value], value⟩

def listParam (encodeParam : Bytes → Bytes) (name : String) (values : UrlKeysSet) : QueryParam :=
  ⟨bytesOf name, values.elements, [44].intercalate (values.elements.map encodeParam)⟩

def optional (present : Bool) (p : QueryParam) : List QueryParam := if present then [p] else []

def appendParam (url : Bytes) (p : QueryParam) : Bytes :=
  addAmpersandIfNotFirstQueryParam url ++ p.written

theorem foldl_appendParam_optional (url : Bytes) (present : Bool) (p : QueryParam) :
    (optional present p).foldl appendParam url = if present then appendParam url p else url := by
  cases present <;> rfl

theorem addAmpersand_written (url : Bytes) (p : QueryParam) :
    addAmpersandIfNotFirstQueryParam (url ++ p.written) =
      url ++ (p.written ++ if p.Separated then [38] else []) := by
  have hlast : (url ++ p.written).getLast? = some (p.text.getLast?.getD 61) := by
    rw [QueryParam.written, ← List.append_assoc, List.getLast?_append_of_ne_nil _
      (List.cons_ne_nil _ _), List.getLast?_cons]
  have hsep : (url ++ p.written).getLast? ≠ some '?'.toUInt8 ∧
      (url ++ p.written).getLast? ≠ some '&'.toUInt8 ↔ p.Separated := by
    rw [hlast, QueryParam.Separated]
    cases p.text.getLast? with
    | none => exact iff_of_true (by decide) (by decide)
    | some byte => rfl
  unfold addAmpersandIfNotFirstQueryParam
  by_cases h : p.Separated
  · rw [if_pos (hsep.mpr h), if_pos h, List.append_assoc]
    rfl
  · rw [if_neg (mt hsep.mp h), if_neg h, List.append_nil]

theorem foldl_appendParam_cons (url : Bytes) (p : QueryParam) (ps : List QueryParam) :
    (p :: ps).foldl appendParam url =
      addAmpersandIfNotFirstQueryParam url ++ writeQuery (p :: ps) := by
  induction ps generalizing url p with
  | nil => rfl
  | cons next ps ih =>
    show (next :: ps).foldl appendParam (appendParam url p) = _
    rw [ih, appendParam, addAmpersand_written, List.append_assoc, List.append_assoc, writeQuery]

theorem foldl_appendParam (host : Bytes) (ps : List QueryParam) :
    ps.foldl appendParam (clearAndMakeStartOfUrl host) = host ++ '?'.toUInt8 :: writeQuery ps := by
  have hstart : addAmpersandIfNotFirstQueryParam (clearAndMakeStartOfUrl host) =
      host ++ ['?'.toUInt8] := by
    refine if_neg fun h => h.1 ?_
    exact List.getLast?_concat
  cases ps with
  | nil => rfl
  | cons p ps => rw [foldl_appendParam_cons, hstart, List.append_assoc, List.singleton_append]

/-! ## When they are read back -/

def ReadBack (ps : List QueryParam) : Prop :=
  (∀ p ∈ ps, p.Clean) ∧ ∀ p ∈ ps.dropLast, p.Separated

theorem asks_foldl_iff {host : Bytes} {ps : List QueryParam} (hsound : ∀ p ∈ ps, p.Sound) :
    Asks host (ps.foldl appendParam (clearAndMakeStartOfUrl host)) (ps.map QueryParam.given) ↔
      ReadBack ps := by
  rw [foldl_appendParam]
  constructor
  · rintro ⟨query, hquery, hread⟩
    obtain rfl := (List.cons.inj (List.append_cancel_left hquery)).2
    exact (readParams_writeQuery_iff hsound).mp hread
  · intro h
    exact ⟨_, rfl, (readParams_writeQuery_iff hsound).mpr h⟩

theorem optional_append_eq_nil {present : Bool} {p : QueryParam} {ps : List QueryParam} :
    optional present p ++ ps = [] ↔ (!present) = true ∧ ps = [] := by
  cases present <;> simp [optional]

theorem readBack_nil : ReadBack [] :=
  ⟨fun _ hp => absurd hp List.not_mem_nil, fun _ hp => absurd hp List.not_mem_nil⟩

theorem readBack_optional {present : Bool} {p : QueryParam} {ps : List QueryParam} :
    ReadBack (optional present p ++ ps) ↔
      (present = true → p.Clean ∧ (ps ≠ [] → p.Separated)) ∧ ReadBack ps := by
  cases present with
  | false =>
    show ReadBack ps ↔ _
    simp
  | true =>
    show ReadBack (p :: ps) ↔ _
    unfold ReadBack
    cases ps with
    | nil => simp
    | cons next ps =>
      rw [List.forall_mem_cons (l := next :: ps), List.dropLast_cons_cons,
        List.forall_mem_cons (l := (next :: ps).dropLast)]
      constructor
      · rintro ⟨⟨hp, hps⟩, hsep, hseps⟩
        exact ⟨fun _ => ⟨hp, fun _ => hsep⟩, hps, hseps⟩
      · rintro ⟨hp, hps, hseps⟩
        exact ⟨⟨(hp rfl).1, hps⟩, (hp rfl).2 (List.cons_ne_nil _ _), hseps⟩

theorem isPlain_nil : IsPlain [] :=
  ⟨List.not_mem_nil, List.not_mem_nil, List.not_mem_nil, List.not_mem_nil, rfl⟩

theorem clean_rawParam_iff {name : String} {value : Bytes} :
    (rawParam name value).Clean ↔ IsPlain value := by
  constructor
  · intro h
    have hread : (value.splitOn 44).map percentDecode = [value] := h.read
    have hcomma : 44 ∉ value := by
      have hlength := congrArg List.length hread
      rw [List.length_map, length_splitOn, List.length_singleton] at hlength
      exact List.count_eq_zero.mp (Nat.succ.inj hlength)
    rw [List.splitOn_eq_singleton hcomma] at hread
    exact ⟨h.noAmpersand, h.noEquals, hcomma, h.noFragment,
      (percentDecode_eq_self_iff value).mp (List.cons.inj hread).1⟩
  · intro h
    refine ⟨h.noAmpersand, h.noEquals, h.noFragment, ?_⟩
    have hcomma : 44 ∉ value := h.noComma
    show (value.splitOn 44).map percentDecode = [value]
    rw [List.splitOn_eq_singleton hcomma, List.map_singleton,
      (percentDecode_eq_self_iff value).mpr h.noEscape]

theorem readBack_rawParam_iff {name : String} {value : Bytes} {ps : List QueryParam} :
    ReadBack (optional (!value.isEmpty) (rawParam name value) ++ ps) ↔
      (IsPlain value ∧ (EndsInQuestionMark value → ps = [])) ∧ ReadBack ps := by
  rw [readBack_optional, clean_rawParam_iff]
  refine and_congr_left fun _ => ?_
  by_cases hvalue : value = []
  · subst hvalue
    exact iff_of_true (fun h => by cases h) ⟨isPlain_nil, fun h => by cases h⟩
  · have hpresent : (!value.isEmpty) = true := by simpa using hvalue
    rw [hpresent]
    constructor
    · intro h
      obtain ⟨hplain, hsep⟩ := h rfl
      exact ⟨hplain, fun hend => Decidable.byContradiction fun hne => (hsep hne).1 hend⟩
    · rintro ⟨hplain, hend⟩ -
      exact ⟨hplain, fun hne =>
        ⟨fun hlast => hne (hend hlast), fun hlast => hplain.1 (List.mem_of_getLast? hlast)⟩⟩

section

variable {encodeParam : Bytes → Bytes} (hdecode : ∀ text, percentDecode (encodeParam text) = text)
  (hescape : ∀ text, ∀ byte ∈ encodeParam text, isUnreserved byte = true ∨ byte = 37)

include hescape in
theorem notMem_encodeParam {byte : UInt8} (hbyte : isUnreserved byte = false) (hne : byte ≠ 37)
    (text : Bytes) : byte ∉ encodeParam text := by
  intro hmem
  rcases hescape text byte hmem with h | h
  · rw [hbyte] at h
    cases h
  · exact hne h

include hdecode hescape in
theorem readBack_listParam_iff {name : String} {values : UrlKeysSet} {ps : List QueryParam} :
    ReadBack (optional (!values.isEmpty) (listParam encodeParam name values) ++ ps) ↔
      ReadBack ps := by
  rw [readBack_optional]
  refine and_iff_right fun hvalues => ?_
  have hne : values.elements.map encodeParam ≠ [] := by
    simpa [UrlKeysSet.isEmpty] using hvalues
  have hnot {byte : UInt8} (hbyte : isUnreserved byte = false) (hpercent : byte ≠ 37) :
      ∀ part ∈ values.elements.map encodeParam, byte ∉ part :=
    List.forall_mem_map.mpr fun text _ => notMem_encodeParam hescape hbyte hpercent text
  have hnotText {byte : UInt8} (hbyte : isUnreserved byte = false) (hpercent : byte ≠ 37)
      (hcomma : byte ≠ 44) : byte ∉ (listParam encodeParam name values).text :=
    (notMem_intercalate_iff hcomma).mpr (hnot hbyte hpercent)
  refine ⟨⟨hnotText rfl (by decide) (by decide), hnotText rfl (by decide) (by decide),
    hnotText rfl (by decide) (by decide), ?_⟩, fun _ => ⟨fun hlast => ?_, fun hlast => ?_⟩⟩
  · show (([44].intercalate _).splitOn 44).map percentDecode = values.elements
    rw [List.splitOn_intercalate 44 (hnot rfl (by decide)) hne, List.map_map]
    exact List.map_id'' hdecode _
  · exact hnotText rfl (by decide) (by decide) (List.mem_of_getLast? hlast)
  · exact hnotText rfl (by decide) (by decide) (List.mem_of_getLast? hlast)

/-! ## Every parameter is sound -/

theorem sound_rawParam {name : String} (hname : (bytesOf name).all isUnreserved = true)
    (value : Bytes) : (rawParam name value).Sound where
  name := List.all_eq_true.mp hname
  text := by
    show (percentDecode value).length ≤ ([44].intercalate [value]).length
    rw [List.intercalate_singleton]
    exact length_percentDecode_le value

include hdecode in
theorem sound_listParam {name : String} (hname : (bytesOf name).all isUnreserved = true)
    (values : UrlKeysSet) : (listParam encodeParam name values).Sound where
  name := List.all_eq_true.mp hname
  text := by
    show (percentDecode ([44].intercalate (values.elements.map encodeParam))).length ≤
      ([44].intercalate values.elements).length
    rw [percentDecode_intercalate (by decide), List.map_map]
    exact Nat.le_of_eq (congrArg (fun items => ([44].intercalate items).length)
      (List.map_id'' hdecode _))

theorem sound_optional {present : Bool} {p : QueryParam} (h : p.Sound) :
    ∀ q ∈ optional present p, q.Sound := by
  cases present with
  | false => exact fun q hq => absurd hq List.not_mem_nil
  | true => exact fun q hq => List.mem_singleton.mp hq ▸ h

/-! ## The buyer -/

def buyerQuery (encodeParam : Bytes → Bytes) (clientInput : GetBuyerValuesInput) :
    List QueryParam :=
  optional (clientInput.clientType = .android) (rawParam "client_type" (bytesOf "1")) ++
  (optional (!clientInput.hostname.isEmpty) (rawParam "hostname" clientInput.hostname) ++
  (optional (!clientInput.buyerKvExperimentGroupId.isEmpty)
    (rawParam "experimentGroupId" clientInput.buyerKvExperimentGroupId) ++
  (optional (!clientInput.keys.isEmpty) (listParam encodeParam "keys" clientInput.keys) ++
  (optional (!clientInput.interestGroupNames.isEmpty)
    (listParam encodeParam "interestGroupNames" clientInput.interestGroupNames) ++ []))))

theorem map_given_optional_param (present : Bool) (name : String) (items : List Bytes)
    (text : Bytes) : (optional present ⟨bytesOf name, items, text⟩).map QueryParam.given =
      param present name items := by
  cases present <;> rfl

theorem map_given_buyerQuery (clientInput : GetBuyerValuesInput) :
    (buyerQuery encodeParam clientInput).map QueryParam.given = buyerParams clientInput := by
  unfold buyerQuery buyerParams rawParam listParam
  simp only [List.map_append, map_given_optional_param, List.append_nil]

theorem append_clientType (url : Bytes) (clientType : SelectAd.ClientType) :
    (if clientType = .android then
      addAmpersandIfNotFirstQueryParam url ++ (bytesOf "client_type=" ++
        bytesOf (toString (BuyerFrontEnd.clientTypeNumber clientType)))
    else url) =
      (optional (clientType = .android) (rawParam "client_type" (bytesOf "1"))).foldl appendParam
        url := by
  cases clientType <;> rfl

theorem append_rawParam {name equals : String} (h : bytesOf equals = bytesOf name ++ [61])
    (url value : Bytes) :
    (if !value.isEmpty then
      addAmpersandIfNotFirstQueryParam url ++ (bytesOf equals ++ value)
    else url) = (optional (!value.isEmpty) (rawParam name value)).foldl appendParam url := by
  rw [foldl_appendParam_optional, h, List.append_assoc]
  rfl

theorem append_listParam (url : Bytes) (name : String) (values : UrlKeysSet) :
    (if !values.isEmpty then
      addListItemsAsQueryParamsToUrl encodeParam url (bytesOf name) values true
    else url) =
      (optional (!values.isEmpty) (listParam encodeParam name values)).foldl appendParam url := by
  rw [foldl_appendParam_optional]
  congr 1
  show addAmpersandIfNotFirstQueryParam url ++ (bytesOf name ++ [61]) ++ _ = _
  rw [List.append_assoc, List.append_assoc]
  rfl

theorem url_buildBuyerKeyValueRequest (host : Bytes) (metadata : RequestMetadata)
    (clientInput : GetBuyerValuesInput) (headers : List Bytes) :
    (buildBuyerKeyValueRequest encodeParam host metadata clientInput headers).url =
      (buyerQuery encodeParam clientInput).foldl appendParam (clearAndMakeStartOfUrl host) := by
  have hhostname : bytesOf "hostname=" = bytesOf "hostname" ++ [61] := by decide
  have hexperiment : bytesOf "experimentGroupId=" = bytesOf "experimentGroupId" ++ [61] := by decide
  simp only [buyerQuery, List.foldl_append, List.foldl_nil, buildBuyerKeyValueRequest,
    kEnableEncodeParams, append_clientType, append_rawParam hhostname,
    append_rawParam hexperiment, append_listParam]

include hdecode in
theorem sound_buyerQuery (clientInput : GetBuyerValuesInput) :
    ∀ p ∈ buyerQuery encodeParam clientInput, p.Sound := by
  intro p hp
  simp only [buyerQuery, List.mem_append, List.append_nil] at hp
  rcases hp with hp | hp | hp | hp | hp
  · exact sound_optional (sound_rawParam (by decide) _) p hp
  · exact sound_optional (sound_rawParam (by decide) _) p hp
  · exact sound_optional (sound_rawParam (by decide) _) p hp
  · exact sound_optional (sound_listParam hdecode (by decide) _) p hp
  · exact sound_optional (sound_listParam hdecode (by decide) _) p hp

theorem readBack_clientType {present : Bool} {ps : List QueryParam} :
    ReadBack (optional present (rawParam "client_type" (bytesOf "1")) ++ ps) ↔ ReadBack ps := by
  have hplain : IsPlain (bytesOf "1") :=
    ⟨by decide, by decide, by decide, by decide, by decide⟩
  rw [readBack_optional]
  exact and_iff_right fun _ =>
    ⟨clean_rawParam_iff.mpr hplain, fun _ =>
      (by decide : (rawParam "client_type" (bytesOf "1")).Separated)⟩

include hdecode hescape in
theorem readBack_buyerQuery_iff (clientInput : GetBuyerValuesInput) :
    ReadBack (buyerQuery encodeParam clientInput) ↔ PlainBuyerInput clientInput := by
  unfold buyerQuery
  rw [readBack_clientType, readBack_rawParam_iff, readBack_rawParam_iff,
    readBack_listParam_iff hdecode hescape, readBack_listParam_iff hdecode hescape,
    iff_true_intro readBack_nil]
  simp only [optional_append_eq_nil, Bool.not_not, and_true]
  constructor
  · rintro ⟨⟨hhostname, hhostnameEnd⟩, hexperiment, hexperimentEnd⟩
    exact ⟨hhostname, hexperiment, hhostnameEnd, hexperimentEnd⟩
  · rintro ⟨hhostname, hexperiment, hhostnameEnd, hexperimentEnd⟩
    exact ⟨⟨hhostname, hhostnameEnd⟩, hexperiment, hexperimentEnd⟩

include hdecode hescape in
theorem asks_buyer_iff (host : Bytes) (metadata : RequestMetadata)
    (clientInput : GetBuyerValuesInput) (headers : List Bytes) :
    Asks host (buildBuyerKeyValueRequest encodeParam host metadata clientInput headers).url
      (buyerParams clientInput) ↔ PlainBuyerInput clientInput := by
  rw [url_buildBuyerKeyValueRequest, ← map_given_buyerQuery,
    asks_foldl_iff (sound_buyerQuery hdecode clientInput),
    readBack_buyerQuery_iff hdecode hescape]

/-! ## The seller -/

def sellerQuery (encodeParam : Bytes → Bytes) (clientInput : GetSellerValuesInput) :
    List QueryParam :=
  optional (clientInput.clientType = .android) (rawParam "client_type" (bytesOf "1")) ++
  (optional (!clientInput.sellerKvExperimentGroupId.isEmpty)
    (rawParam "experimentGroupId" clientInput.sellerKvExperimentGroupId) ++
  (optional (!clientInput.renderUrls.isEmpty)
    (listParam encodeParam "renderUrls" clientInput.renderUrls) ++
  (optional (!clientInput.adComponentRenderUrls.isEmpty)
    (listParam encodeParam "adComponentRenderUrls" clientInput.adComponentRenderUrls) ++ [])))

theorem map_given_sellerQuery (clientInput : GetSellerValuesInput) :
    (sellerQuery encodeParam clientInput).map QueryParam.given = sellerParams clientInput := by
  unfold sellerQuery sellerParams rawParam listParam
  simp only [List.map_append, map_given_optional_param, List.append_nil]

theorem url_buildSellerKeyValueRequest (host : Bytes) (metadata : RequestMetadata)
    (clientInput : GetSellerValuesInput) (headers : List Bytes) :
    (buildSellerKeyValueRequest encodeParam host metadata clientInput headers).url =
      (sellerQuery encodeParam clientInput).foldl appendParam (clearAndMakeStartOfUrl host) := by
  have hexperiment : bytesOf "experimentGroupId=" = bytesOf "experimentGroupId" ++ [61] := by decide
  simp only [sellerQuery, List.foldl_append, List.foldl_nil, buildSellerKeyValueRequest,
    append_clientType, append_rawParam hexperiment, append_listParam]

include hdecode in
theorem sound_sellerQuery (clientInput : GetSellerValuesInput) :
    ∀ p ∈ sellerQuery encodeParam clientInput, p.Sound := by
  intro p hp
  simp only [sellerQuery, List.mem_append, List.append_nil] at hp
  rcases hp with hp | hp | hp | hp
  · exact sound_optional (sound_rawParam (by decide) _) p hp
  · exact sound_optional (sound_rawParam (by decide) _) p hp
  · exact sound_optional (sound_listParam hdecode (by decide) _) p hp
  · exact sound_optional (sound_listParam hdecode (by decide) _) p hp

include hdecode hescape in
theorem readBack_sellerQuery_iff (clientInput : GetSellerValuesInput) :
    ReadBack (sellerQuery encodeParam clientInput) ↔ PlainSellerInput clientInput := by
  unfold sellerQuery
  rw [readBack_clientType, readBack_rawParam_iff, readBack_listParam_iff hdecode hescape,
    readBack_listParam_iff hdecode hescape, iff_true_intro readBack_nil]
  simp only [optional_append_eq_nil, Bool.not_not, and_true]
  constructor
  · rintro ⟨hexperiment, hexperimentEnd⟩
    exact ⟨hexperiment, hexperimentEnd⟩
  · rintro ⟨hexperiment, hexperimentEnd⟩
    exact ⟨hexperiment, hexperimentEnd⟩

include hdecode hescape in
theorem asks_seller_iff (host : Bytes) (metadata : RequestMetadata)
    (clientInput : GetSellerValuesInput) (headers : List Bytes) :
    Asks host (buildSellerKeyValueRequest encodeParam host metadata clientInput headers).url
      (sellerParams clientInput) ↔ PlainSellerInput clientInput := by
  rw [url_buildSellerKeyValueRequest, ← map_given_sellerQuery,
    asks_foldl_iff (sound_sellerQuery hdecode clientInput),
    readBack_sellerQuery_iff hdecode hescape]

end

/-- The URL of a lookup asks for what was given if and only if the texts that are not escaped are
plain, whatever stands in the sets. -/
theorem lookup_asks_iff (encodeParam : Bytes → Bytes)
    (hdecode : ∀ text, percentDecode (encodeParam text) = text)
    (hescape : ∀ text, ∀ byte ∈ encodeParam text, isUnreserved byte = true ∨ byte = 37) :
    (∀ host metadata clientInput headers,
      Asks host (buildBuyerKeyValueRequest encodeParam host metadata clientInput headers).url
        (buyerParams clientInput) ↔ PlainBuyerInput clientInput) ∧
    ∀ host metadata clientInput headers,
      Asks host (buildSellerKeyValueRequest encodeParam host metadata clientInput headers).url
        (sellerParams clientInput) ↔ PlainSellerInput clientInput :=
  ⟨asks_buyer_iff hdecode hescape, asks_seller_iff hdecode hescape⟩

/-- A host name with a port and a set of keys, one of which has every separator in it. -/
theorem lookup_asks_for_keys :
    Asks (bytesOf "https://kv.com/v1")
      (buildBuyerKeyValueRequest percentEncode (bytesOf "https://kv.com/v1") []
        { hostname := bytesOf "a.com:8080", clientType := .android
          keys := ⟨[bytesOf "a&b=c,d#%2C", bytesOf "e?"], by decide⟩ }).url
      [[[bytesOf "client_type"], [bytesOf "1"]], [[bytesOf "hostname"], [bytesOf "a.com:8080"]],
        [[bytesOf "keys"], [bytesOf "a&b=c,d#%2C", bytesOf "e?"]]] :=
  ((lookup_asks_iff percentEncode percentDecode_percentEncode
    fun _ _ => isUnreserved_of_mem_percentEncode).1 _ _ _ []).mpr
    ⟨⟨by decide, by decide, by decide, by decide, by decide⟩, isPlain_nil,
      fun h => absurd h (by unfold EndsInQuestionMark; decide), fun h => by cases h⟩

/-- A publisher that calls itself `a.com&keys=x` asks for a key. -/
theorem hostname_asks_for_keys :
    let clientInput : GetBuyerValuesInput := { hostname := bytesOf "a.com&keys=x" }
    let url :=
      (buildBuyerKeyValueRequest percentEncode (bytesOf "https://kv.com") [] clientInput).url
    Asks (bytesOf "https://kv.com") url
      [[[bytesOf "hostname"], [bytesOf "a.com"]], [[bytesOf "keys"], [bytesOf "x"]]] ∧
    ¬Asks (bytesOf "https://kv.com") url (buyerParams clientInput) := by
  have hurl : (buildBuyerKeyValueRequest percentEncode (bytesOf "https://kv.com") []
      { hostname := bytesOf "a.com&keys=x" }).url =
        bytesOf "https://kv.com" ++ '?'.toUInt8 :: bytesOf "hostname=a.com&keys=x" := by decide
  refine ⟨⟨_, hurl, by decide⟩, ?_⟩
  rintro ⟨query, hquery, hread⟩
  obtain rfl := (List.cons.inj (List.append_cancel_left (hurl.symm.trans hquery))).2
  exact absurd hread (by decide)

end KeyValue

end BiddingAuction

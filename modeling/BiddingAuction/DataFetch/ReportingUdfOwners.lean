import BiddingAuction.DataFetch.ReportingUdf

/-!
# The code of a buyer

Whose endpoint a result was fetched from is known when the requests are made. The cycles
serve every buyer exactly if each result is taken for its owner, the owner has a version,
and what is remembered of it was loaded.
-/

namespace BiddingAuction

open Foundation

namespace SellerCodeFetchConfig

variable {config : SellerCodeFetchConfig} {parser : UrlParser}

def urls (config : SellerCodeFetchConfig) : AuctionType → FlatHashMap String String
  | .kProtectedAudience => config.buyerReportWinJsUrls
  | .kProtectedAppSignals => config.protectedAppSignalsBuyerReportWinJsUrls

def Configured (config : SellerCodeFetchConfig) (buyer : BuyerCode) : Prop :=
  buyer.buyerOrigin ∈ config.urls buyer.auctionType

/-- The buyers from whose endpoints the code of a cycle is fetched, request by request. -/
def owners (config : SellerCodeFetchConfig) (parser : UrlParser) : List BuyerCode :=
  (config.requestsOf parser config.buyerReportWinJsUrls).map
      (fun request => ⟨.kProtectedAudience, request.buyerOrigin⟩) ++
    (config.requestsOf parser config.protectedAppSignalsBuyerReportWinJsUrls).map
      fun request => ⟨.kProtectedAppSignals, request.buyerOrigin⟩

/-- No two origins with an endpoint for the same kind of auction share a host. -/
def HostsDistinct (config : SellerCodeFetchConfig) (parser : UrlParser) : Prop :=
  ∀ auctionType origin origin' host, origin ∈ config.urls auctionType →
    origin' ∈ config.urls auctionType → parser.getDomainFromUrl origin = .ok host →
    parser.getDomainFromUrl origin' = .ok host → origin = origin'

def VersionsDistinct (config : SellerCodeFetchConfig) (parser : UrlParser) : Prop :=
  ∀ buyer buyer' version, config.Configured buyer → config.Configured buyer' →
    parser.version buyer = .ok version → parser.version buyer' = .ok version → buyer = buyer'

end SellerCodeFetchConfig

theorem UrlParser.version_eq_ok {parser : UrlParser} {buyer : BuyerCode} {version : String} :
    parser.version buyer = .ok version ↔ ∃ host,
      parser.getDomainFromUrl buyer.buyerOrigin = .ok host ∧ version =
        (match buyer.auctionType with
          | .kProtectedAudience => kProtectedAuctionWrapperPrefix
          | .kProtectedAppSignals => kProtectedAppSignalWrapperPrefix) ++ host := by
  unfold UrlParser.version UrlParser.getBuyerReportWinVersion
  cases parser.getDomainFromUrl buyer.buyerOrigin with
  | error message =>
    constructor
    · intro h
      cases h
    · rintro ⟨host, h, -⟩
      cases h
  | ok host =>
    cases buyer.auctionType with
    | kProtectedAudience =>
      constructor
      · intro h
        exact ⟨host, rfl, (Except.ok.inj h).symm⟩
      · rintro ⟨_, hhost, rfl⟩
        cases hhost
        rfl
    | kProtectedAppSignals =>
      constructor
      · intro h
        exact ⟨host, rfl, (Except.ok.inj h).symm⟩
      · rintro ⟨_, hhost, rfl⟩
        cases hhost
        rfl

theorem wrapper_inj {auctionType auctionType' : AuctionType} {host host' : String}
    (h : (match auctionType with
        | .kProtectedAudience => kProtectedAuctionWrapperPrefix
        | .kProtectedAppSignals => kProtectedAppSignalWrapperPrefix) ++ host =
      (match auctionType' with
        | .kProtectedAudience => kProtectedAuctionWrapperPrefix
        | .kProtectedAppSignals => kProtectedAppSignalWrapperPrefix) ++ host') :
    auctionType = auctionType' ∧ host = host' := by
  have hlist := congrArg String.toList h
  rw [String.toList_append, String.toList_append] at hlist
  cases auctionType <;> cases auctionType' <;>
    simp [kProtectedAuctionWrapperPrefix, kProtectedAppSignalWrapperPrefix] at hlist
  · exact ⟨rfl, String.toList_inj.mp hlist⟩
  · exact ⟨rfl, String.toList_inj.mp hlist⟩

namespace SellerCodeFetchConfig

variable {config : SellerCodeFetchConfig} {parser : UrlParser}

theorem versionsDistinct_iff : config.VersionsDistinct parser ↔ config.HostsDistinct parser := by
  constructor
  · intro hversions auctionType origin origin' host horigin horigin' hhost hhost'
    have := hversions ⟨auctionType, origin⟩ ⟨auctionType, origin'⟩ _ horigin horigin'
      (UrlParser.version_eq_ok.mpr ⟨host, hhost, rfl⟩)
      (UrlParser.version_eq_ok.mpr ⟨host, hhost', rfl⟩)
    exact congrArg BuyerCode.buyerOrigin this
  · rintro hhosts ⟨auctionType, origin⟩ ⟨auctionType', origin'⟩ version horigin horigin' h h'
    obtain ⟨host, hhost, hversion⟩ := UrlParser.version_eq_ok.mp h
    obtain ⟨host', hhost', hversion'⟩ := UrlParser.version_eq_ok.mp h'
    obtain ⟨rfl, rfl⟩ := wrapper_inj (hversion.symm.trans hversion')
    rw [hhosts auctionType origin origin' host horigin horigin' hhost hhost']

/-! ## Owners by position -/

theorem origins_sublist (urls : FlatHashMap String String) :
    ((config.requestsOf parser urls).map UdfRequest.buyerOrigin).Sublist urls.keys := by
  unfold requestsOf AList.keys List.keys
  induction urls.entries with
  | nil => exact List.Sublist.refl _
  | cons entry entries ih =>
    rw [List.filterMap_cons, List.map_cons]
    cases hrequest : config.request? parser entry.1 entry.2 with
    | none => exact ih.cons _
    | some request =>
      have horigin : request.buyerOrigin = entry.1 := by
        unfold request? at hrequest
        split at hrequest
        · cases hrequest
        · obtain ⟨url, -, rfl⟩ := Option.map_eq_some_iff.mp hrequest
          rfl
      show (request.buyerOrigin :: _).Sublist _
      rw [horigin]
      exact ih.cons_cons _

theorem origins_nodup (config : SellerCodeFetchConfig) (parser : UrlParser)
    (urls : FlatHashMap String String) :
    ((config.requestsOf parser urls).map UdfRequest.buyerOrigin).Nodup :=
  urls.keys_nodup.sublist (origins_sublist urls)

theorem owners_nodup : (config.owners parser).Nodup := by
  have hof : ∀ (auctionType : AuctionType) (urls : FlatHashMap String String),
      ((config.requestsOf parser urls).map fun request =>
        (⟨auctionType, request.buyerOrigin⟩ : BuyerCode)).Nodup := by
    intro auctionType urls
    have := (origins_nodup config parser urls).map
      (f := fun origin => (⟨auctionType, origin⟩ : BuyerCode))
      fun _ _ h => congrArg BuyerCode.buyerOrigin h
    rwa [List.map_map] at this
  refine List.Nodup.append (hof _ _) (hof _ _) ?_
  intro buyer hbuyer hbuyer'
  obtain ⟨_, -, rfl⟩ := List.mem_map.mp hbuyer
  obtain ⟨_, -, h⟩ := List.mem_map.mp hbuyer'
  cases h

theorem getElem?_owners (config : SellerCodeFetchConfig) (parser : UrlParser) (position : ℕ) :
    (config.owners parser)[position]? = ((config.requests parser)[position]?).map fun request =>
      ⟨if position < (config.requestsOf parser config.buyerReportWinJsUrls).length then
        .kProtectedAudience else .kProtectedAppSignals, request.buyerOrigin⟩ := by
  unfold owners requests
  rw [List.getElem?_append, List.getElem?_append, List.length_map]
  split <;> rw [List.getElem?_map]

theorem configured_of_owner {position : ℕ} {buyer : BuyerCode}
    (h : (config.owners parser)[position]? = some buyer) : config.Configured buyer := by
  have hof : ∀ (urls : FlatHashMap String String), ∀ request ∈ config.requestsOf parser urls,
      request.buyerOrigin ∈ urls := by
    intro urls request hrequest
    exact AList.mem_keys.mpr ((origins_sublist urls).subset (List.mem_map_of_mem hrequest))
  rcases List.mem_append.mp (List.mem_of_getElem? h) with hmem | hmem
  · obtain ⟨request, hrequest, rfl⟩ := List.mem_map.mp hmem
    exact hof _ request hrequest
  · obtain ⟨request, hrequest, rfl⟩ := List.mem_map.mp hmem
    exact hof _ request hrequest

theorem length_requestsOf_le (config : SellerCodeFetchConfig) (parser : UrlParser)
    (urls : FlatHashMap String String) :
    (config.requestsOf parser urls).length ≤ urls.entries.length := List.length_filterMap_le _ _

end SellerCodeFetchConfig

namespace UdfFetchManager

variable {config : SellerCodeFetchConfig} {parser : UrlParser} {fetches : UdfFetches}
  {m : UdfFetchManager}

/-- A result is taken for its owner, unless that is a buyer of app signals and comes
before the last endpoint for protected audience. -/
theorem takenFor_eq_iff {position : ℕ} {request : UdfRequest} {buyer : BuyerCode}
    (hrequest : (config.requests parser)[position]? = some request)
    (hbuyer : (config.owners parser)[position]? = some buyer) :
    takenFor config (request, position) = buyer ↔
      (buyer.auctionType = .kProtectedAppSignals →
        config.buyerReportWinJsUrls.entries.length ≤ position) := by
  rw [SellerCodeFetchConfig.getElem?_owners, hrequest, Option.map_some] at hbuyer
  cases hbuyer
  have hle := SellerCodeFetchConfig.length_requestsOf_le config parser
    config.buyerReportWinJsUrls
  unfold takenFor auctionTypeAt
  by_cases haudience :
      position < (config.requestsOf parser config.buyerReportWinJsUrls).length
  · simp [haudience, show position < config.buyerReportWinJsUrls.entries.length by omega]
  · by_cases hbefore : position < config.buyerReportWinJsUrls.entries.length
    · simp [haudience, hbefore]
    · simp only [haudience, hbefore, if_false, true_iff]
      omega

theorem owner_of_takenFor {position : ℕ} {request : UdfRequest}
    (hrequest : (config.requests parser)[position]? = some request)
    (htype : (takenFor config (request, position)).auctionType = .kProtectedAppSignals) :
    (config.owners parser)[position]? = some (takenFor config (request, position)) := by
  have hlast : config.buyerReportWinJsUrls.entries.length ≤ position := by
    by_contra hbefore
    rw [takenFor, auctionTypeAt, if_pos (by omega)] at htype
    cases htype
  have howner := SellerCodeFetchConfig.getElem?_owners config parser position
  rw [hrequest, Option.map_some] at howner
  rw [howner, (takenFor_eq_iff hrequest howner).mpr fun _ => hlast]

/-! ## What a cycle owes -/

/-- The code of a cycle reaches its owners. -/
structure Served (config : SellerCodeFetchConfig) (parser : UrlParser) (m : UdfFetchManager)
    (fetches : UdfFetches) : Prop where
  /-- No version is read that could not be computed. -/
  goesOn : (m.periodicBuyerReportingFetchAndLoadSync config parser fetches).aborted = false
  /-- Under the version of a buyer only code is loaded that was fetched from its endpoint. -/
  own : ∀ load ∈ (m.periodicBuyerReportingFetchAndLoadSync config parser fetches).loads,
    load.cycle = m.cycles → fetches.code? config load.position = some load.fetchedBlob ∧
      (∃ buyer, (config.owners parser)[load.position]? = some buyer ∧
        parser.version buyer = .ok load.version) ∧
      ∀ buyer, config.Configured buyer → parser.version buyer = .ok load.version →
        (config.owners parser)[load.position]? = some buyer
  /-- Fetched code is loaded, unless it is what was last loaded with success. -/
  attempted : ∀ position buyer code, (config.owners parser)[position]? = some buyer →
    fetches.code? config position = some code →
      (∃ load ∈ (m.periodicBuyerReportingFetchAndLoadSync config parser fetches).loads,
        load.cycle = m.cycles ∧ load.position = position ∧ load.buyer = buyer ∧
          load.fetchedBlob = code ∧ parser.version buyer = .ok load.version) ∨
      (m.remembered buyer).lastLoaded = some code

/-- What a cycle may not meet: code of a buyer of app signals before the last endpoint for
protected audience, code of a buyer without a version, and code that is remembered but
was not loaded. -/
def IsClean (config : SellerCodeFetchConfig) (parser : UrlParser) (m : UdfFetchManager)
    (fetches : UdfFetches) : Prop :=
  ∀ position buyer code, (config.owners parser)[position]? = some buyer →
    fetches.code? config position = some code →
      (buyer.auctionType = .kProtectedAppSignals →
        config.buyerReportWinJsUrls.entries.length ≤ position) ∧
      (∃ version, parser.version buyer = .ok version) ∧
      (m.codeBlob buyer = code → (m.remembered buyer).lastLoaded = some code)

/-- Where the loads of earlier cycles came from. -/
structure Sound (config : SellerCodeFetchConfig) (parser : UrlParser) (m : UdfFetchManager) :
    Prop where
  earlier : ∀ load ∈ m.loads, load.cycle < m.cycles
  taken : ∀ load ∈ m.loads, ∃ request,
    (config.requests parser)[load.position]? = some request ∧
      load.buyer = takenFor config (request, load.position)
  version : ∀ load ∈ m.loads, parser.version load.buyer = .ok load.version

theorem Sound.periodic (sound : Sound config parser m) (fetches : UdfFetches) :
    Sound config parser (m.periodicBuyerReportingFetchAndLoadSync config parser fetches) := by
  rw [periodic_eq_upTo]
  have hloads := loads_upTo config parser m fetches (config.requests parser).length
  refine ⟨?_, ?_, ?_⟩
  · intro load hload
    show load.cycle < (m.upTo config parser fetches _).cycles + 1
    rw [cycles_upTo]
    rcases hloads load hload with hold | ⟨-, _, made⟩
    · have := sound.earlier load hold
      omega
    · have := made.cycle
      omega
  · intro load hload
    rcases hloads load hload with hold | ⟨-, request, made⟩
    · exact sound.taken load hold
    · exact ⟨request, made.requested, made.buyer⟩
  · intro load hload
    rcases hloads load hload with hold | ⟨-, _, made⟩
    · exact sound.version load hold
    · exact made.version

theorem exists_load_of_lastLoaded {buyer : BuyerCode} {code : String}
    (h : (m.remembered buyer).lastLoaded = some code) : ∃ load ∈ m.loads, load.buyer = buyer := by
  obtain ⟨entry, hentry, -⟩ := Option.map_eq_some_iff.mp h
  obtain ⟨load, hload, -⟩ := List.mem_map.mp (List.mem_of_find?_eq_some hentry)
  obtain ⟨hmem, hbuyer⟩ := List.mem_filter.mp hload
  exact ⟨load, hmem, of_decide_eq_true hbuyer⟩

theorem Sound.position_of_load (sound : Sound config parser m) {load : UdfLoad}
    (hload : load ∈ m.loads) {position : ℕ}
    (hbuyer : (config.owners parser)[position]? = some load.buyer)
    (htype : load.buyer.auctionType = .kProtectedAppSignals) :
    config.buyerReportWinJsUrls.entries.length ≤ position := by
  obtain ⟨request, hrequest, htaken⟩ := sound.taken load hload
  rw [htaken] at hbuyer htype
  have howner := owner_of_takenFor hrequest htype
  have hsame : position = load.position :=
    (List.getElem?_inj (List.getElem?_eq_some_iff.mp hbuyer).1
      SellerCodeFetchConfig.owners_nodup).mp (hbuyer.trans howner.symm)
  rw [hsame]
  exact (takenFor_eq_iff hrequest howner).mp rfl htype

/-! ## Clean cycles -/

theorem exists_owner {position : ℕ} {request : UdfRequest}
    (hrequest : (config.requests parser)[position]? = some request) :
    ∃ buyer, (config.owners parser)[position]? = some buyer := by
  rw [SellerCodeFetchConfig.getElem?_owners, hrequest]
  exact ⟨_, rfl⟩

theorem exists_request {position : ℕ} {buyer : BuyerCode}
    (hbuyer : (config.owners parser)[position]? = some buyer) :
    ∃ request, (config.requests parser)[position]? = some request := by
  rw [SellerCodeFetchConfig.getElem?_owners] at hbuyer
  obtain ⟨request, hrequest, -⟩ := Option.map_eq_some_iff.mp hbuyer
  exact ⟨request, hrequest⟩

theorem IsClean.takenFor_eq (clean : IsClean config parser m fetches) {position : ℕ}
    {request : UdfRequest} {buyer : BuyerCode} {code : String}
    (hrequest : (config.requests parser)[position]? = some request)
    (hbuyer : (config.owners parser)[position]? = some buyer)
    (hcode : fetches.code? config position = some code) :
    takenFor config (request, position) = buyer :=
  (takenFor_eq_iff hrequest hbuyer).mpr (clean position buyer code hbuyer hcode).1

theorem IsClean.goesOn (clean : IsClean config parser m fetches) (halive : m.aborted = false)
    (position : ℕ) : (m.upTo config parser fetches position).aborted = false := by
  refine upTo_induction (P := fun _ m₁ => m₁.aborted = false) halive ?_ (fun _ _ h => h) position
  intro position request m₁ m₂ hrequest _ ih taken
  cases taken with
  | ignored _ hm => rw [hm, ih]
  | same _ _ _ _ halive => exact halive
  | loaded _ _ _ _ _ _ halive => exact halive
  | unversioned hcode hversion =>
    obtain ⟨buyer, hbuyer⟩ := exists_owner hrequest
    obtain ⟨version, hok⟩ := (clean position buyer _ hbuyer hcode).2.1
    rw [clean.takenFor_eq hrequest hbuyer hcode, hok] at hversion
    cases hversion

/-- Where all code is taken for its owner, a result is compared with what was remembered
before the cycle. -/
theorem codeBlob_upTo_owner
    (howned : ∀ position buyer code, (config.owners parser)[position]? = some buyer →
      fetches.code? config position = some code → buyer.auctionType = .kProtectedAppSignals →
        config.buyerReportWinJsUrls.entries.length ≤ position)
    {position : ℕ} {buyer : BuyerCode}
    (hbuyer : (config.owners parser)[position]? = some buyer) :
    (m.upTo config parser fetches position).codeBlob buyer = m.codeBlob buyer := by
  refine codeBlob_upTo fun earlier hearlier request hrequest hcode htaken => ?_
  obtain ⟨owner, howner⟩ := exists_owner hrequest
  obtain ⟨code, hcode⟩ := Option.ne_none_iff_exists'.mp hcode
  rw [(takenFor_eq_iff hrequest howner).mpr (howned earlier owner code howner hcode)] at htaken
  rw [htaken] at howner
  have : earlier = position :=
    (List.getElem?_inj (List.getElem?_eq_some_iff.mp howner).1
      SellerCodeFetchConfig.owners_nodup).mp (howner.trans hbuyer.symm)
  omega

theorem IsClean.own (clean : IsClean config parser m fetches) (sound : Sound config parser m)
    {load : UdfLoad}
    (hload : load ∈ (m.periodicBuyerReportingFetchAndLoadSync config parser fetches).loads)
    (hcycle : load.cycle = m.cycles) :
    fetches.code? config load.position = some load.fetchedBlob ∧
      (config.owners parser)[load.position]? = some load.buyer ∧
      parser.version load.buyer = .ok load.version := by
  rw [periodic_eq_upTo] at hload
  rcases loads_upTo _ _ _ _ _ load hload with hold | ⟨-, request, made⟩
  · have := sound.earlier load hold
    omega
  · obtain ⟨buyer, hbuyer⟩ := exists_owner made.requested
    have htaken := clean.takenFor_eq made.requested hbuyer made.code
    rw [← made.buyer] at htaken
    rw [← htaken] at hbuyer
    exact ⟨made.code, hbuyer, made.version⟩

theorem IsClean.attempted (clean : IsClean config parser m fetches) (halive : m.aborted = false)
    {position : ℕ} {buyer : BuyerCode} {code : String}
    (hbuyer : (config.owners parser)[position]? = some buyer)
    (hcode : fetches.code? config position = some code) :
    (∃ load ∈ (m.periodicBuyerReportingFetchAndLoadSync config parser fetches).loads,
      load.cycle = m.cycles ∧ load.position = position ∧ load.buyer = buyer ∧
        load.fetchedBlob = code ∧ parser.version buyer = .ok load.version) ∨
      (m.remembered buyer).lastLoaded = some code := by
  obtain ⟨request, hrequest⟩ := exists_request hbuyer
  have htaken := clean.takenFor_eq hrequest hbuyer hcode
  have hblob : (m.upTo config parser fetches position).codeBlob buyer = m.codeBlob buyer :=
    codeBlob_upTo_owner (fun position buyer code hbuyer hcode =>
      (clean position buyer code hbuyer hcode).1) hbuyer
  obtain ⟨-, ⟨version, hversion⟩, hremembered⟩ := clean position buyer code hbuyer hcode
  have hturn := taken_onResult config parser fetches
    (m.upTo config parser fetches position) (request, position)
  have hlater : ∀ load ∈ ((m.upTo config parser fetches position).onResult config parser fetches
      (request, position)).loads,
      load ∈ (m.periodicBuyerReportingFetchAndLoadSync config parser fetches).loads := by
    intro load hload
    rw [periodic_eq_upTo]
    rw [← upTo_succ hrequest] at hload
    have hlt : position < (config.requests parser).length :=
      (List.getElem?_eq_some_iff.mp hrequest).1
    exact mem_loads_upTo_of_le (Nat.succ_le_of_lt hlt) hload
  cases hturn with
  | ignored h _ =>
    rcases h with haborted | hnone
    · rw [clean.goesOn halive] at haborted
      cases haborted
    · rw [hcode] at hnone
      cases hnone
  | same hsame =>
    rw [hcode, htaken, hblob] at hsame
    exact .inr (hremembered (Option.some.inj hsame).symm)
  | unversioned _ herror =>
    rw [htaken, hversion] at herror
    cases herror
  | loaded hcode' _ hversion' _ hloads =>
    rw [hcode] at hcode'
    cases hcode'
    refine .inl ⟨_, hlater _ (by rw [hloads]; exact List.mem_cons_self), ?_, rfl, htaken, rfl, ?_⟩
    · exact cycles_upTo position
    · rw [← htaken]
      exact hversion'

theorem IsClean.served (clean : IsClean config parser m fetches) (sound : Sound config parser m)
    (halive : m.aborted = false) (hdistinct : config.VersionsDistinct parser) :
    Served config parser m fetches := by
  refine ⟨?_, ?_, ?_⟩
  · rw [periodic_eq_upTo]
    exact clean.goesOn halive _
  · intro load hload hcycle
    obtain ⟨hcode, howner, hversion⟩ := clean.own sound hload hcycle
    refine ⟨hcode, ⟨load.buyer, howner, hversion⟩, fun buyer hconfigured hversion' => ?_⟩
    rw [hdistinct buyer load.buyer load.version hconfigured ?_ hversion' hversion]
    · exact howner
    · exact SellerCodeFetchConfig.configured_of_owner howner
  · intro position buyer code hbuyer hcode
    exact clean.attempted halive hbuyer hcode

/-! ## Served cycles -/

theorem Served.isClean (served : Served config parser m fetches) (sound : Sound config parser m) :
    IsClean config parser m fetches := by
  intro position buyer code hbuyer hcode
  have sound' := sound.periodic fetches
  have hversion : ∃ version, parser.version buyer = .ok version := by
    rcases served.attempted position buyer code hbuyer hcode with
      ⟨load, -, -, -, -, -, hversion⟩ | hlast
    · exact ⟨_, hversion⟩
    · obtain ⟨load, hload, rfl⟩ := exists_load_of_lastLoaded hlast
      exact ⟨_, sound.version load hload⟩
  have howned : ∀ position buyer code, (config.owners parser)[position]? = some buyer →
      fetches.code? config position = some code → buyer.auctionType = .kProtectedAppSignals →
        config.buyerReportWinJsUrls.entries.length ≤ position := by
    intro position buyer code hbuyer hcode htype
    rcases served.attempted position buyer code hbuyer hcode with
      ⟨load, hload, -, -, rfl, -, -⟩ | hlast
    · exact sound'.position_of_load hload hbuyer htype
    · obtain ⟨load, hload, rfl⟩ := exists_load_of_lastLoaded hlast
      exact sound.position_of_load hload hbuyer htype
  refine ⟨howned position buyer code hbuyer hcode, hversion, fun hsame => ?_⟩
  rcases served.attempted position buyer code hbuyer hcode with
    ⟨load, hload, hcycle, rfl, rfl, rfl, -⟩ | hlast
  · -- A load at this position would have found something else remembered.
    rw [periodic_eq_upTo] at hload
    rcases loads_upTo _ _ _ _ _ load hload with hold | ⟨-, request, made⟩
    · have := sound.earlier load hold
      omega
    · refine absurd ?_ made.differs
      rw [← hsame]
      exact codeBlob_upTo_owner howned hbuyer
  · exact hlast

/-! ## Histories -/

theorem runWhere_served_iff (hdistinct : config.VersionsDistinct parser)
    {history : List UdfFetches} {m : UdfFetchManager} :
    (system config parser).RunWhere (Served config parser) history m ↔
      (system config parser).RunWhere (IsClean config parser) history m := by
  refine LTS.runWhere_congr (I := fun m => Sound config parser m ∧ m.aborted = false) ?_ ?_ ?_
  · rintro m rfl
    refine ⟨⟨?_, ?_, ?_⟩, rfl⟩ <;> exact fun load hload => absurd hload List.not_mem_nil
  · rintro m fetches _ ⟨sound, -⟩ served rfl
    exact ⟨sound.periodic fetches, served.goesOn⟩
  · rintro m fetches ⟨sound, halive⟩
    constructor
    · intro served
      exact served.isClean sound
    · intro clean
      exact clean.served sound halive hdistinct

/-- Buyers have versions of their own and every cycle serves them exactly if hosts tell
the origins apart and every cycle is clean. -/
theorem codeOfOwner_iff (config : SellerCodeFetchConfig) (parser : UrlParser)
    (history : List UdfFetches) (m : UdfFetchManager) :
    (config.VersionsDistinct parser ∧
        (system config parser).RunWhere (Served config parser) history m) ↔
      (config.HostsDistinct parser ∧
        (system config parser).RunWhere (IsClean config parser) history m) := by
  rw [← SellerCodeFetchConfig.versionsDistinct_iff]
  exact and_congr_right fun hdistinct => runWhere_served_iff hdistinct

end UdfFetchManager

def appSignalsParser : UrlParser := fun url =>
  if url = "https://app.test" then .ok ⟨.ok "app.test", .ok "/"⟩
  else if url = "https://app.test/reportWin.js" then .ok ⟨.ok "app.test", .ok "/reportWin.js"⟩
  else .error 3

/-- An empty endpoint for protected audience, and one for app signals. -/
def emptyEndpointConfig : SellerCodeFetchConfig where
  buyerReportWinJsUrls := (∅ : FlatHashMap String String).insert "https://audience.test" ""
  protectedAppSignalsBuyerReportWinJsUrls :=
    (∅ : FlatHashMap String String).insert "https://app.test" "https://app.test/reportWin.js"

def codeFetches : UdfFetches where
  result _ := .ok ⟨"function reportWin(){}", [(kUdfRequiredResponseHeader, .ok "true")]⟩
  loadSucceeds _ := true

/-- The one result is taken for a buyer of protected audience, so the code of the buyer of
app signals is loaded under a version that is not its own. -/
theorem notServed_after_empty_endpoint :
    ¬ ∀ (config : SellerCodeFetchConfig) (parser : UrlParser) (history : List UdfFetches)
      (m : UdfFetchManager), (UdfFetchManager.system config parser).Run history m →
        config.VersionsDistinct parser ∧ (UdfFetchManager.system config parser).RunWhere
          (UdfFetchManager.Served config parser) history m := by
  intro hall
  have hrun : (UdfFetchManager.system emptyEndpointConfig appSignalsParser).Run [codeFetches]
      (UdfFetchManager.periodicBuyerReportingFetchAndLoadSync emptyEndpointConfig
        appSignalsParser {} codeFetches) := .next (.start rfl) trivial rfl
  obtain ⟨-, run⟩ := hall _ _ _ _ hrun
  cases run with
  | next start served _ =>
    cases start with
    | start hinit =>
      cases hinit
      have hloads : (UdfFetchManager.periodicBuyerReportingFetchAndLoadSync emptyEndpointConfig
          appSignalsParser {} codeFetches).loads =
            [⟨⟨.kProtectedAudience, "https://app.test"⟩, "pa_app.test",
              "function reportWin(){}", 0, 0, true⟩] := by
        decide +kernel
      rcases served.attempted 0 ⟨.kProtectedAppSignals, "https://app.test"⟩
          "function reportWin(){}" (by decide +kernel) (by decide +kernel) with
        ⟨load, hload, -, -, hbuyer, -⟩ | hlast
      · rw [hloads, List.mem_singleton] at hload
        rw [hload] at hbuyer
        cases hbuyer
      · cases hlast

end BiddingAuction

import BiddingAuction.Common.CString
import BiddingAuction.ScoreAds.Dispatch

/-!
# Trusted scoring signals

The signals of an ad are those of its render URL and those of its components. A component that
is listed twice is copied; everything else is moved out of the parsed document, which leaves a
null value behind. A value is never missed where it was moved from; but the signals are kept
under the render URL alone, so two ads of one URL share those of the first.
-/

namespace BiddingAuction

/-- How `BuildTrustedScoringSignals` fails; an assertion ends the process. -/
inductive SignalsError where
  | invalidArgument (message : String)
  | internal (message : String)
  | asserted
deriving DecidableEq, Repr

/-! ## Building the signals -/

/-- `BuildAdScoringSignalsMap`: for each URL an object of a single member. -/
def buildAdScoringSignalsMap : Json → Except SignalsError (FlatHashMap String Json)
  | .object members => .ok (members.foldl (fun urlToSignals member =>
      FlatHashMap.emplace urlToSignals (cString member.1) (.object [member])) ∅)
  | _ => .error .asserted

def adScoringSignalsMap (name : String) (document : Json) :
    Except SignalsError (FlatHashMap String Json) :=
  match document.findMember name with
  | none => .ok ∅
  | some value => buildAdScoringSignalsMap value

/-- The component URLs counted so far, and those counted twice. -/
structure UrlOccurrences where
  urlOccurrences : FlatHashMap String ℕ := ∅
  multipleOccurrenceComponentUrls : List String := []

def UrlOccurrences.count (c : UrlOccurrences) (url : String) : UrlOccurrences :=
  let occurrences := (c.urlOccurrences.lookup url).getD 0 + 1
  { urlOccurrences := c.urlOccurrences.insert url occurrences
    multipleOccurrenceComponentUrls :=
      if occurrences > 1 then c.multipleOccurrenceComponentUrls ++ [url]
      else c.multipleOccurrenceComponentUrls }

def findSharedComponentUrls (adsWithBids : List AdWithBidMetadata) : FlatHashSet String :=
  let occurrences := adsWithBids.foldl
    (fun c (ad : AdWithBidMetadata) => ad.adComponents.foldl UrlOccurrences.count c) {}
  .ofList occurrences.multipleOccurrenceComponentUrls

/-- The component signals added for an ad, and what is left of the document. -/
structure AddedSignals where
  added : List (String × Json) := []
  componentSignals : FlatHashMap String Json
  totalSignalsAdded : ℕ := 0

/-- One turn of the loop over the components; a document that is swapped out is null. -/
def addComponentSignal (shared : FlatHashSet String) (s : AddedSignals) (url : String) :
    Except SignalsError AddedSignals :=
  match s.componentSignals.lookup url with
  | none => .ok s
  | some toAdd =>
    let componentSignals :=
      if url ∈ shared then s.componentSignals else s.componentSignals.insert url .null
    match toAdd with
    | .object members =>
      match members.find? fun member => member.1 = cString url with
      | none => .error (.internal "Internal error while processing trusted scoring signals.")
      | some member =>
        .ok ⟨s.added ++ [member], componentSignals, s.totalSignalsAdded + 1⟩
    | _ => .error .asserted

def addComponentSignals (shared : FlatHashSet String) (ad : AdWithBidMetadata)
    (componentSignals : FlatHashMap String Json) : Except SignalsError AddedSignals :=
  ad.adComponents.foldlM (addComponentSignal shared) { componentSignals := componentSignals }

/-- What is left of the two maps, and the signals combined. -/
structure CombinedSignals where
  renderUrlSignals : FlatHashMap String Json
  componentSignals : FlatHashMap String Json
  combinedSignals : FlatHashMap String Json := ∅

def combineSignals (shared : FlatHashSet String) (s : CombinedSignals) (ad : AdWithBidMetadata) :
    Except SignalsError CombinedSignals := do
  let components ← addComponentSignals shared ad s.componentSignals
  let combinedForThisBid := [("adComponentRenderUrls", Json.object components.added)]
  match s.renderUrlSignals.lookup ad.render with
  | some renderSignals =>
    return {
      renderUrlSignals := s.renderUrlSignals.insert ad.render .null
      componentSignals := components.componentSignals
      combinedSignals := FlatHashMap.emplace s.combinedSignals ad.render
        (.object (combinedForThisBid ++ [("renderUrl", renderSignals)])) }
  | none =>
    return { s with
      componentSignals := components.componentSignals
      combinedSignals :=
        if components.totalSignalsAdded > 0 then
          FlatHashMap.emplace s.combinedSignals ad.render (.object combinedForThisBid)
        else s.combinedSignals }

/-- One turn of `MayPopulateScoringSignalsForProtectedAppSignals`. -/
def combineAppSignals (s : CombinedSignals) (ad : ProtectedAppSignalsAdWithBidMetadata) :
    CombinedSignals :=
  match s.renderUrlSignals.lookup ad.render with
  | none => s
  | some renderSignals =>
    { s with
      renderUrlSignals := s.renderUrlSignals.insert ad.render .null
      combinedSignals := FlatHashMap.emplace s.combinedSignals ad.render
        (.object [("renderUrl", renderSignals)]) }

/-- `BuildTrustedScoringSignals`, for the text of the signals: the document that is written for
each render URL. -/
def buildTrustedScoringSignals (parse : String → Option Json) (scoringSignals : String)
    (rawRequest : ScoreAdsRawRequest) (requireScoringSignalsForScoring : Bool) :
    Except SignalsError (FlatHashMap String Json) :=
  if scoringSignals = "" then
    .error (.invalidArgument "Empty trusted scoring signals")
  else
    match parse (cString scoringSignals) with
    | some (.object members) => do
      if requireScoringSignalsForScoring ∧
          ((Json.object members).findMember "renderUrls").isNone then
        throw (.invalidArgument
          "Trusted scoring signals are required but include no render urls.")
      let renderUrlSignals ← adScoringSignalsMap "renderUrls" (.object members)
      let componentSignals ← adScoringSignalsMap "adComponentRenderUrls" (.object members)
      let combined ← rawRequest.adBids.foldlM
        (combineSignals (findSharedComponentUrls rawRequest.adBids))
        { renderUrlSignals := renderUrlSignals, componentSignals := componentSignals }
      return (rawRequest.protectedAppSignalsAdBids.foldl combineAppSignals combined).combinedSignals
    | _ => .error (.invalidArgument "Malformed trusted scoring signals")

/-! ## The signals of an ad -/

/-- The members of an object in the document, none if it is absent. -/
def signalMembers (name : String) (document : Json) : List (String × Json) :=
  match document.findMember name with
  | some (.object members) => members
  | _ => []

def memberNamed (members : List (String × Json)) (url : String) : Option (String × Json) :=
  members.find? fun member => member.1 = url

/-- The document of an ad with these signals, none if there are none. -/
def adDocument (components : List (String × Json)) (render : Option (String × Json)) :
    Option Json :=
  if components.isEmpty && render.isNone then none
  else some (.object (("adComponentRenderUrls", .object components) ::
    (render.map fun member => ("renderUrl", .object [member])).toList))

def ownSignals (document : Json) (ad : AdWithBidMetadata) : Option Json :=
  adDocument
    (ad.adComponents.filterMap (memberNamed (signalMembers "adComponentRenderUrls" document)))
    (memberNamed (signalMembers "renderUrls" document) ad.render)

def componentsWithSignals (document : Json) (ad : AdWithBidMetadata) : List String :=
  ad.adComponents.filter fun url =>
    (memberNamed (signalMembers "adComponentRenderUrls" document) url).isSome

def isAbsentOrObject (name : String) (document : Json) : Bool :=
  match document.findMember name with
  | none => true
  | some (.object _) => true
  | some _ => false

/-- The member that is found under a URL: the first whose name reads like it. -/
def signalsRead (members : List (String × Json)) (url : String) : Option (String × Json) :=
  members.find? fun member => cString member.1 = url

def ReadsByName (members : List (String × Json)) (url : String) : Prop :=
  (signalsRead members url).map Prod.fst = (memberNamed members url).map Prod.fst

instance (members : List (String × Json)) (url : String) : Decidable (ReadsByName members url) :=
  inferInstanceAs (Decidable (_ = _))

/-- The document and the ads are such that no ad gets the signals of another. -/
structure SignalsAreApart (document : Json) (ads : List AdWithBidMetadata) : Prop where
  renderUrls : isAbsentOrObject "renderUrls" document = true
  adComponentRenderUrls : isAbsentOrObject "adComponentRenderUrls" document = true
  renders : ∀ ad ∈ ads, ReadsByName (signalMembers "renderUrls" document) ad.render
  components : ∀ ad ∈ ads, ∀ url ∈ ad.adComponents,
    ReadsByName (signalMembers "adComponentRenderUrls" document) url
  sameRender : ∀ ad ∈ ads, ∀ other ∈ ads, ad.render = other.render →
    componentsWithSignals document ad = componentsWithSignals document other

def HaveOwnSignals (document : Json) (ads : List AdWithBidMetadata) :
    Except SignalsError (FlatHashMap String Json) → Prop
  | .ok combinedSignals => ∀ ad ∈ ads, combinedSignals.lookup ad.render = ownSignals document ad
  | .error (.invalidArgument _) => True
  | .error _ => False

/-! ## Components listed twice -/

/-- What the loop has counted after these URLs. -/
structure Counted (urls : List String) (c : UrlOccurrences) : Prop where
  occurrences : ∀ url, (c.urlOccurrences.lookup url).getD 0 = urls.count url
  multiple : ∀ url, 2 ≤ urls.count url → url ∈ c.multipleOccurrenceComponentUrls

theorem Counted.count {urls : List String} {c : UrlOccurrences} (h : Counted urls c)
    (url : String) : Counted (urls ++ [url]) (c.count url) := by
  unfold UrlOccurrences.count
  refine ⟨fun other => ?_, fun other htwice => ?_⟩
  · rw [List.count_append]
    by_cases hother : other = url
    · subst hother
      rw [AList.lookup_insert, h.occurrences, List.count_singleton_self]
      rfl
    · rw [AList.lookup_insert_ne hother, h.occurrences,
        List.count_singleton, beq_false_of_ne (Ne.symm hother)]
      rfl
  · rw [List.count_append] at htwice
    dsimp only
    rw [h.occurrences]
    by_cases hother : other = url
    · subst hother
      rw [List.count_singleton_self] at htwice
      rw [if_pos (by omega)]
      exact List.mem_append_right _ List.mem_cons_self
    · rw [List.count_singleton, beq_false_of_ne (Ne.symm hother)] at htwice
      have hmem := h.multiple other htwice
      split
      · exact List.mem_append_left _ hmem
      · exact hmem

theorem counted_foldl (urls : List String) : Counted urls (urls.foldl UrlOccurrences.count {}) := by
  induction urls using List.reverseRecOn with
  | nil => exact ⟨fun url => rfl, fun url h => absurd h (by simp)⟩
  | append_singleton urls url ih =>
    rw [List.foldl_append]
    exact ih.count url

theorem mem_findSharedComponentUrls {ads : List AdWithBidMetadata} {url : String}
    (h : 2 ≤ (ads.flatMap AdWithBidMetadata.adComponents).count url) :
    url ∈ findSharedComponentUrls ads := by
  unfold findSharedComponentUrls
  rw [FlatHashSet.mem_ofList, ← List.foldl_flatMap]
  exact (counted_foldl _).multiple url h

/-! ## Moving is copying -/

def signalsMap (members : List (String × Json)) : FlatHashMap String Json :=
  members.foldl (fun urlToSignals member =>
    FlatHashMap.emplace urlToSignals (cString member.1) (.object [member])) ∅

theorem lookup_signalsMap (members : List (String × Json)) (url : String) :
    (signalsMap members).lookup url =
      (signalsRead members url).map fun member => .object [member] :=
  FlatHashMap.lookup_foldl_emplace_first (fun member : String × Json => cString member.1)
    (fun member => Json.object [member]) members url

def Unmoved (members : List (String × Json)) (needed : List String)
    (componentSignals : FlatHashMap String Json) : Prop :=
  ∀ url ∈ needed, componentSignals.lookup url = (signalsMap members).lookup url

def SharedCopied (shared : FlatHashSet String) (needed : List String) : Prop :=
  ∀ url, 2 ≤ needed.count url → url ∈ shared

theorem SharedCopied.tail {shared : FlatHashSet String} {url : String} {needed : List String}
    (h : SharedCopied shared (url :: needed)) : SharedCopied shared needed :=
  fun other htwice => h other (htwice.trans (List.count_le_count_cons))

theorem Unmoved.move {members : List (String × Json)} {url : String} {needed : List String}
    {componentSignals : FlatHashMap String Json} {shared : FlatHashSet String}
    (h : Unmoved members (url :: needed) componentSignals)
    (hshared : SharedCopied shared (url :: needed)) :
    Unmoved members needed
      (if url ∈ shared then componentSignals else componentSignals.insert url .null) := by
  intro other hother
  split
  · exact h other (List.mem_cons_of_mem _ hother)
  · rename_i hnot
    -- a URL that is needed again would be shared
    have hne : other ≠ url := by
      rintro rfl
      refine hnot (hshared other ?_)
      rw [List.count_cons_self]
      have := List.count_pos_iff.mpr hother
      omega
    rw [AList.lookup_insert_ne hne]
    exact h other (List.mem_cons_of_mem _ hother)

theorem addComponentSignal_eq {members : List (String × Json)} {shared : FlatHashSet String}
    {s : AddedSignals} {url : String}
    (h : s.componentSignals.lookup url = (signalsMap members).lookup url) :
    addComponentSignal shared s url =
      match signalsRead members url with
      | none => .ok s
      | some member =>
        if member.1 = url then
          .ok ⟨s.added ++ [member],
            if url ∈ shared then s.componentSignals else s.componentSignals.insert url .null,
            s.totalSignalsAdded + 1⟩
        else .error (.internal "Internal error while processing trusted scoring signals.") := by
  unfold addComponentSignal
  rw [h, lookup_signalsMap]
  cases hread : signalsRead members url with
  | none => rfl
  | some member =>
    have hcut : cString member.1 = url := by
      simpa [signalsRead] using List.find?_some hread
    have hurl : cString url = url := hcut ▸ cString_cString member.1
    simp only [Option.map_some, hurl, List.find?_cons, List.find?_nil]
    by_cases hname : member.1 = url <;> simp [hname]

/-- Nothing is found under one of these URLs that is another's. -/
def NamedInFull (members : List (String × Json)) (urls : List String) : Prop :=
  ∀ url ∈ urls, ∀ member, signalsRead members url = some member → member.1 = url

theorem addComponentSignals_eq {members : List (String × Json)} {shared : FlatHashSet String}
    {urls later : List String} (hnamed : NamedInFull members urls) (s : AddedSignals)
    (hunmoved : Unmoved members (urls ++ later) s.componentSignals)
    (hshared : SharedCopied shared (urls ++ later)) :
    ∃ left, Unmoved members later left ∧ urls.foldlM (addComponentSignal shared) s =
      .ok ⟨s.added ++ urls.filterMap (signalsRead members), left,
        s.totalSignalsAdded + (urls.filterMap (signalsRead members)).length⟩ := by
  induction urls generalizing s with
  | nil => exact ⟨s.componentSignals, hunmoved, by simp [pure, Except.pure]⟩
  | cons url urls ih =>
    have hrest : NamedInFull members urls := fun other h => hnamed other (List.mem_cons_of_mem _ h)
    rw [List.foldlM_cons, addComponentSignal_eq (hunmoved url List.mem_cons_self)]
    cases hread : signalsRead members url with
    | none =>
      obtain ⟨left, hleft, hfold⟩ := ih hrest s
        (fun other h => hunmoved other (List.mem_cons_of_mem _ h)) hshared.tail
      exact ⟨left, hleft, by rw [List.filterMap_cons_none hread]; exact hfold⟩
    | some member =>
      obtain ⟨left, hleft, hfold⟩ := ih hrest
        ⟨s.added ++ [member],
          if url ∈ shared then s.componentSignals else s.componentSignals.insert url .null,
          s.totalSignalsAdded + 1⟩ (hunmoved.move hshared) hshared.tail
      refine ⟨left, hleft, ?_⟩
      dsimp only
      rw [if_pos (hnamed url List.mem_cons_self member hread), List.filterMap_cons_some hread]
      refine hfold.trans ?_
      simp [Nat.add_assoc, Nat.add_comm 1]

theorem addComponentSignals_internal {members : List (String × Json)}
    {shared : FlatHashSet String} {urls later : List String}
    (hnamed : ¬ NamedInFull members urls) (s : AddedSignals)
    (hunmoved : Unmoved members (urls ++ later) s.componentSignals)
    (hshared : SharedCopied shared (urls ++ later)) :
    ∃ message, urls.foldlM (addComponentSignal shared) s = .error (.internal message) := by
  induction urls generalizing s with
  | nil => exact absurd (fun url h => nomatch h) hnamed
  | cons url urls ih =>
    rw [List.foldlM_cons, addComponentSignal_eq (hunmoved url List.mem_cons_self)]
    by_cases hurl : ∀ member, signalsRead members url = some member → member.1 = url
    · have hrest : ¬ NamedInFull members urls := by
        intro hall
        refine hnamed fun other h => ?_
        rcases List.mem_cons.mp h with rfl | h
        · exact hurl
        · exact hall other h
      cases hread : signalsRead members url with
      | none =>
        exact ih hrest s (fun other h => hunmoved other (List.mem_cons_of_mem _ h)) hshared.tail
      | some member =>
        dsimp only
        rw [if_pos (hurl member hread)]
        exact ih hrest _ (hunmoved.move hshared) hshared.tail
    · push Not at hurl
      obtain ⟨member, hread, hname⟩ := hurl
      rw [hread]
      exact ⟨_, by dsimp only; rw [if_neg hname]; rfl⟩

/-! ## The loop over the ads -/

section Ads

variable (components renders : List (String × Json)) {shared : FlatHashSet String}

def readDocument (ad : AdWithBidMetadata) : Option Json :=
  adDocument (ad.adComponents.filterMap (signalsRead components)) (signalsRead renders ad.render)

/-- The state of the loop before `ads`: what they need is there, and a render URL's signals are
there unless its document is combined already. -/
structure Ready (ads : List AdWithBidMetadata) (s : CombinedSignals) : Prop where
  unmoved : Unmoved components (ads.flatMap AdWithBidMetadata.adComponents) s.componentSignals
  renders : ∀ url, url ∉ s.combinedSignals →
    s.renderUrlSignals.lookup url = (signalsMap renders).lookup url

variable {components renders}

theorem adDocument_some (added : List (String × Json)) (member : String × Json) :
    adDocument added (some member) = some (.object
      [("adComponentRenderUrls", .object added), ("renderUrl", .object [member])]) := by
  simp [adDocument]

theorem adDocument_none (added : List (String × Json)) :
    adDocument added none =
      if added.length > 0 then some (.object [("adComponentRenderUrls", .object added)])
      else none := by
  cases added <;> simp [adDocument]

/-- A document is kept unless there is one for the render URL. -/
def keepDocument (combined : FlatHashMap String Json) (render : String) (document : Option Json) :
    FlatHashMap String Json :=
  match document with
  | none => combined
  | some document => FlatHashMap.emplace combined render document

theorem lookup_keepDocument (combined : FlatHashMap String Json) (render : String)
    (document : Option Json) (url : String) :
    (keepDocument combined render document).lookup url =
      (combined.lookup url).or (if render = url then document else none) := by
  cases document with
  | none => simp [keepDocument]
  | some document =>
    unfold keepDocument
    by_cases h : url = render
    · subst h
      dsimp only
      rw [FlatHashMap.lookup_emplace_self, if_pos rfl]
      cases combined.lookup url <;> rfl
    · dsimp only
      rw [FlatHashMap.lookup_emplace_ne h, if_neg (Ne.symm h), Option.or_none]

theorem lookup_of_mem {combined : FlatHashMap String Json} {render : String}
    (hmem : render ∈ combined) (document : Option Json) (url : String) :
    combined.lookup url = (combined.lookup url).or (if render = url then document else none) := by
  split
  · rename_i h
    subst h
    obtain ⟨kept, hkept⟩ := Option.isSome_iff_exists.mp (AList.lookup_isSome.mpr hmem)
    rw [hkept, Option.some_or]
  · rw [Option.or_none]

theorem combineSignals_eq {ad : AdWithBidMetadata} {ads : List AdWithBidMetadata}
    {s : CombinedSignals} (h : Ready components renders (ad :: ads) s)
    (hshared : SharedCopied shared
      (ad.adComponents ++ ads.flatMap AdWithBidMetadata.adComponents))
    (hnamed : NamedInFull components ad.adComponents) :
    ∃ s', combineSignals shared s ad = .ok s' ∧ Ready components renders ads s' ∧
      ∀ url, s'.combinedSignals.lookup url = (s.combinedSignals.lookup url).or
        (if ad.render = url then readDocument components renders ad else none) := by
  obtain ⟨left, hleft, hfold⟩ := addComponentSignals_eq hnamed
    { componentSignals := s.componentSignals } h.unmoved hshared
  unfold combineSignals addComponentSignals
  rw [hfold]
  simp only [List.nil_append, Nat.zero_add, bind, Except.bind]
  have hread (hnew : ad.render ∉ s.combinedSignals) : s.renderUrlSignals.lookup ad.render =
      (signalsRead renders ad.render).map fun member => .object [member] := by
    rw [h.renders ad.render hnew, lookup_signalsMap]
  cases hrender : s.renderUrlSignals.lookup ad.render with
  | some renderSignals =>
    refine ⟨_, rfl, ⟨hleft, fun url hurl => ?_⟩, fun url => ?_⟩
    · have hnot : ¬ (url = ad.render ∨ url ∈ s.combinedSignals) := fun hmem =>
        hurl (FlatHashMap.mem_emplace.mpr hmem)
      show (s.renderUrlSignals.insert ad.render .null).lookup url = _
      rw [AList.lookup_insert_ne fun heq => hnot (.inl heq)]
      exact h.renders url fun hmem => hnot (.inr hmem)
    · by_cases hmem : ad.render ∈ s.combinedSignals
      · rw [FlatHashMap.emplace, if_pos hmem]
        exact lookup_of_mem hmem _ url
      · obtain ⟨member, hmember, rfl⟩ := Option.map_eq_some_iff.mp
          ((hread hmem).symm.trans hrender)
        rw [readDocument, hmember, adDocument_some]
        exact lookup_keepDocument s.combinedSignals ad.render (some _) url
  | none =>
    refine ⟨_, rfl, ⟨hleft, fun url hurl => h.renders url fun hmem => hurl ?_⟩, fun url => ?_⟩
    · show url ∈ (if _ then _ else _ : FlatHashMap String Json)
      split
      · exact FlatHashMap.mem_emplace.mpr (.inr hmem)
      · exact hmem
    · by_cases hmem : ad.render ∈ s.combinedSignals
      · rw [FlatHashMap.emplace, if_pos hmem, ite_self]
        exact lookup_of_mem hmem _ url
      · have hnone := Option.map_eq_none_iff.mp ((hread hmem).symm.trans hrender)
        rw [readDocument, hnone, adDocument_none, ← lookup_keepDocument]
        dsimp only
        split <;> rfl

theorem combineSignals_internal {ad : AdWithBidMetadata} {ads : List AdWithBidMetadata}
    {s : CombinedSignals} (h : Ready components renders (ad :: ads) s)
    (hshared : SharedCopied shared
      (ad.adComponents ++ ads.flatMap AdWithBidMetadata.adComponents))
    (hnamed : ¬ NamedInFull components ad.adComponents) :
    ∃ message, combineSignals shared s ad = .error (.internal message) := by
  obtain ⟨message, hfold⟩ := addComponentSignals_internal hnamed
    { componentSignals := s.componentSignals } h.unmoved hshared
  exact ⟨message, by unfold combineSignals addComponentSignals; rw [hfold]; rfl⟩

theorem SharedCopied.right {needed later : List String}
    (h : SharedCopied shared (needed ++ later)) : SharedCopied shared later := by
  refine fun url htwice => h url ?_
  rw [List.count_append]
  omega

theorem combineSignals_foldlM {ads : List AdWithBidMetadata} {s : CombinedSignals}
    (h : Ready components renders ads s)
    (hshared : SharedCopied shared (ads.flatMap AdWithBidMetadata.adComponents))
    (hnamed : ∀ ad ∈ ads, NamedInFull components ad.adComponents) :
    ∃ s', ads.foldlM (combineSignals shared) s = .ok s' ∧ Ready components renders [] s' ∧
      ∀ url, s'.combinedSignals.lookup url = (s.combinedSignals.lookup url).or
        (ads.findSome? fun ad =>
          if ad.render = url then readDocument components renders ad else none) := by
  induction ads generalizing s with
  | nil => exact ⟨s, rfl, h, fun url => by rw [List.findSome?_nil, Option.or_none]⟩
  | cons ad ads ih =>
    rw [List.forall_mem_cons] at hnamed
    obtain ⟨next, hstep, hready, hnext⟩ := combineSignals_eq h hshared hnamed.1
    obtain ⟨s', hfold, hready', hlast⟩ := ih hready hshared.right hnamed.2
    refine ⟨s', ?_, hready', fun url => ?_⟩
    · rw [List.foldlM_cons, hstep]
      exact hfold
    · rw [hlast, hnext, Option.or_assoc, List.findSome?_cons]
      congr 1
      cases (if ad.render = url then readDocument components renders ad else none) <;> rfl

theorem combineSignals_foldlM_internal {ads : List AdWithBidMetadata} {s : CombinedSignals}
    (h : Ready components renders ads s)
    (hshared : SharedCopied shared (ads.flatMap AdWithBidMetadata.adComponents))
    (hnamed : ¬ ∀ ad ∈ ads, NamedInFull components ad.adComponents) :
    ∃ message, ads.foldlM (combineSignals shared) s = .error (.internal message) := by
  induction ads generalizing s with
  | nil => exact absurd (fun ad h => nomatch h) hnamed
  | cons ad ads ih =>
    rw [List.foldlM_cons]
    by_cases had : NamedInFull components ad.adComponents
    · obtain ⟨next, hstep, hready, -⟩ := combineSignals_eq h hshared had
      rw [hstep]
      exact ih hready hshared.right fun hall => hnamed (List.forall_mem_cons.mpr ⟨had, hall⟩)
    · obtain ⟨message, hstep⟩ := combineSignals_internal h hshared had
      exact ⟨message, by rw [hstep]; rfl⟩

end Ads

/-! ## Own signals -/

theorem signalsOf_eq_some {members : List (String × Json)} {url : String} {member : String × Json}
    (hread : signalsRead members url = some member) (hname : member.1 = url) :
    memberNamed members url = some member := by
  obtain ⟨hcut, before, after, rfl, hbefore⟩ := List.find?_eq_some_iff_append.mp hread
  refine List.find?_eq_some_iff_append.mpr ⟨by simpa using hname, before, after, rfl, ?_⟩
  intro other hother
  have hnot : cString other.1 ≠ url := by simpa using hbefore other hother
  have hurl : cString url = url := by rw [← hname] at hcut ⊢; simpa using hcut
  simp only [Bool.not_eq_eq_eq_not, Bool.not_true, decide_eq_false_iff_not]
  rintro rfl
  exact hnot hurl

theorem readsByName_iff {members : List (String × Json)} {url : String} :
    ReadsByName members url ↔ signalsRead members url = memberNamed members url := by
  refine ⟨fun h => ?_, fun h => by rw [ReadsByName, h]⟩
  unfold ReadsByName at h
  cases hread : signalsRead members url with
  | none =>
    rw [hread, Option.map_none] at h
    exact (Option.map_eq_none_iff.mp h.symm).symm
  | some member =>
    rw [hread, Option.map_some] at h
    obtain ⟨found, hfound, hname⟩ := Option.map_eq_some_iff.mp h.symm
    have hurl : found.1 = url := by simpa [memberNamed] using List.find?_some hfound
    exact (signalsOf_eq_some hread (hname.symm.trans hurl)).symm

theorem adDocument_injective {added added' : List (String × Json)}
    {render render' : Option (String × Json)}
    (h : adDocument added render = adDocument added' render') :
    added = added' ∧ render = render' := by
  cases render <;> cases render' <;> simp only [adDocument_some, adDocument_none] at h
  · cases added <;> cases added' <;> simp_all
  · split at h <;> simp at h
  · split at h <;> simp at h
  · simpa using h

section Own

variable {document : Json} {ads : List AdWithBidMetadata}

theorem ownComponents_names (ad : AdWithBidMetadata) :
    (ad.adComponents.filterMap
      (memberNamed (signalMembers "adComponentRenderUrls" document))).map Prod.fst =
      componentsWithSignals document ad := by
  unfold componentsWithSignals
  induction ad.adComponents with
  | nil => rfl
  | cons url urls ih =>
    cases hfound : memberNamed (signalMembers "adComponentRenderUrls" document) url with
    | none =>
      rw [List.filterMap_cons_none hfound, List.filter_cons_of_neg (by simp [hfound])]
      exact ih
    | some member =>
      have hname : member.1 = url := by simpa [memberNamed] using List.find?_some hfound
      rw [List.filterMap_cons_some hfound, List.filter_cons_of_pos (by simp [hfound]),
        List.map_cons, ih, hname]

theorem ownComponents_eq (ad : AdWithBidMetadata) :
    ad.adComponents.filterMap (memberNamed (signalMembers "adComponentRenderUrls" document)) =
      (componentsWithSignals document ad).filterMap
        (memberNamed (signalMembers "adComponentRenderUrls" document)) := by
  unfold componentsWithSignals
  rw [List.filterMap_filter]
  refine List.filterMap_congr fun url _ => ?_
  cases memberNamed (signalMembers "adComponentRenderUrls" document) url <;> rfl

theorem readDocument_eq_ownSignals {ad : AdWithBidMetadata}
    (hrender : ReadsByName (signalMembers "renderUrls" document) ad.render)
    (hcomponents : ∀ url ∈ ad.adComponents,
      ReadsByName (signalMembers "adComponentRenderUrls" document) url) :
    readDocument (signalMembers "adComponentRenderUrls" document)
      (signalMembers "renderUrls" document) ad = ownSignals document ad := by
  unfold readDocument ownSignals
  rw [readsByName_iff.mp hrender,
    List.filterMap_congr fun url h => readsByName_iff.mp (hcomponents url h)]

def keptDocument (document : Json) (ads : List AdWithBidMetadata) (url : String) : Option Json :=
  ads.findSome? fun ad =>
    if ad.render = url then
      readDocument (signalMembers "adComponentRenderUrls" document)
        (signalMembers "renderUrls" document) ad
    else none

theorem exists_keptDocument (document : Json) {ad : AdWithBidMetadata} (had : ad ∈ ads) :
    ∃ other ∈ ads, other.render = ad.render ∧
      readDocument (signalMembers "adComponentRenderUrls" document)
        (signalMembers "renderUrls" document) other = keptDocument document ads ad.render := by
  cases hkept : keptDocument document ads ad.render with
  | some kept =>
    obtain ⟨other, hother, hread⟩ := List.exists_of_findSome?_eq_some hkept
    split at hread
    · exact ⟨other, hother, ‹_›, hread⟩
    · cases hread
  | none =>
    have hnone := List.findSome?_eq_none_iff.mp hkept ad had
    rw [if_pos rfl] at hnone
    exact ⟨ad, had, rfl, hnone⟩

theorem SignalsAreApart.keptDocument (h : SignalsAreApart document ads) {ad : AdWithBidMetadata}
    (had : ad ∈ ads) : keptDocument document ads ad.render = ownSignals document ad := by
  have hown {other : AdWithBidMetadata} (hother : other ∈ ads) :=
    readDocument_eq_ownSignals (h.renders other hother) (h.components other hother)
  have hsame {other : AdWithBidMetadata} (hother : other ∈ ads)
      (hrender : other.render = ad.render) :
      ownSignals document other = ownSignals document ad := by
    unfold ownSignals
    rw [ownComponents_eq other, ownComponents_eq ad, h.sameRender other hother ad had hrender,
      hrender]
  obtain ⟨other, hother, hrender, hread⟩ := exists_keptDocument document had
  rw [← hread, hown hother, hsame hother hrender]

/-- If what is kept for an ad is its own, then nothing was read under another's name, and ads of
one render URL agree. -/
theorem apart_of_keptDocument
    (hrenderUrls : isAbsentOrObject "renderUrls" document = true)
    (hcomponentUrls : isAbsentOrObject "adComponentRenderUrls" document = true)
    (hnamed : ∀ ad ∈ ads,
      NamedInFull (signalMembers "adComponentRenderUrls" document) ad.adComponents)
    (h : ∀ ad ∈ ads, keptDocument document ads ad.render = ownSignals document ad) :
    SignalsAreApart document ads := by
  refine ⟨hrenderUrls, hcomponentUrls, ?_, ?_, ?_⟩
  · intro ad had
    obtain ⟨other, hother, hrender, hread⟩ := exists_keptDocument document had
    have hsame := (adDocument_injective (hread.trans (h ad had))).2
    rw [readsByName_iff, ← hsame, hrender]
  · intro ad had url hurl
    obtain ⟨other, hother, -, hread⟩ := exists_keptDocument document had
    have hsame := (adDocument_injective (hread.trans (h ad had))).1
    rw [readsByName_iff]
    cases hfound : signalsRead (signalMembers "adComponentRenderUrls" document) url with
    | some member => exact (signalsOf_eq_some hfound (hnamed ad had url hurl member hfound)).symm
    | none =>
      refine (Option.eq_none_iff_forall_not_mem.mpr fun member hmember => ?_).symm
      have hname : member.1 = url := by simpa [memberNamed] using List.find?_some hmember
      -- the member is among those read for an ad, under its own name
      obtain ⟨url', hurl', hread'⟩ := List.mem_filterMap.mp
        (hsame ▸ List.mem_filterMap.mpr ⟨url, hurl, hmember⟩)
      obtain rfl : url' = url := (hnamed other hother url' hurl' member hread').symm.trans hname
      cases hfound.symm.trans hread'
  · intro ad had other hother hrender
    have hsame : ownSignals document ad = ownSignals document other := by
      rw [← h ad had, ← h other hother, hrender]
    rw [← ownComponents_names, ← ownComponents_names, (adDocument_injective hsame).1]

/-! ## App install ads -/

theorem combineAppSignals_lookup {s : CombinedSignals} {url : String}
    (h : url ∉ s.combinedSignals → s.renderUrlSignals.lookup url = none)
    (ad : ProtectedAppSignalsAdWithBidMetadata) :
    (combineAppSignals s ad).combinedSignals.lookup url = s.combinedSignals.lookup url ∧
      (url ∉ (combineAppSignals s ad).combinedSignals →
        (combineAppSignals s ad).renderUrlSignals.lookup url = none) := by
  unfold combineAppSignals
  cases hrender : s.renderUrlSignals.lookup ad.render with
  | none => exact ⟨rfl, h⟩
  | some renderSignals =>
    dsimp only
    by_cases hurl : url = ad.render
    · subst hurl
      have hmem : ad.render ∈ s.combinedSignals := by
        by_contra hnot
        cases hrender.symm.trans (h hnot)
      rw [FlatHashMap.emplace, if_pos hmem]
      exact ⟨rfl, fun hnot => absurd hmem hnot⟩
    · refine ⟨FlatHashMap.lookup_emplace_ne hurl, fun hnot => ?_⟩
      rw [AList.lookup_insert_ne hurl]
      exact h fun hmem => hnot (FlatHashMap.mem_emplace.mpr (.inr hmem))

theorem combineAppSignals_foldl {s : CombinedSignals} {url : String}
    (h : url ∉ s.combinedSignals → s.renderUrlSignals.lookup url = none)
    (appAds : List ProtectedAppSignalsAdWithBidMetadata) :
    (appAds.foldl combineAppSignals s).combinedSignals.lookup url =
      s.combinedSignals.lookup url := by
  induction appAds generalizing s with
  | nil => rfl
  | cons ad appAds ih =>
    obtain ⟨hlookup, hclosed⟩ := combineAppSignals_lookup h ad
    rw [List.foldl_cons, ih hclosed, hlookup]

/-! ## The whole -/

theorem adScoringSignalsMap_eq {name : String} :
    adScoringSignalsMap name document =
      if isAbsentOrObject name document = true then .ok (signalsMap (signalMembers name document))
      else .error .asserted := by
  unfold adScoringSignalsMap isAbsentOrObject signalMembers
  cases document.findMember name with
  | none => rfl
  | some value => cases value <;> rfl

theorem combined_lookup
    (hnamed : ∀ ad ∈ ads,
      NamedInFull (signalMembers "adComponentRenderUrls" document) ad.adComponents)
    (appAds : List ProtectedAppSignalsAdWithBidMetadata) :
    ∃ combined, ads.foldlM (combineSignals (findSharedComponentUrls ads))
        { renderUrlSignals := signalsMap (signalMembers "renderUrls" document)
          componentSignals := signalsMap (signalMembers "adComponentRenderUrls" document) } =
          .ok combined ∧
      ∀ ad ∈ ads, (appAds.foldl combineAppSignals combined).combinedSignals.lookup ad.render =
        keptDocument document ads ad.render := by
  have hstart : Ready (signalMembers "adComponentRenderUrls" document)
      (signalMembers "renderUrls" document) ads
      { renderUrlSignals := signalsMap (signalMembers "renderUrls" document)
        componentSignals := signalsMap (signalMembers "adComponentRenderUrls" document) } :=
    ⟨fun url _ => rfl, fun url _ => rfl⟩
  obtain ⟨combined, hfold, hready, hlookup⟩ :=
    combineSignals_foldlM hstart (fun url => mem_findSharedComponentUrls) hnamed
  have hkept (url : String) :
      combined.combinedSignals.lookup url = keptDocument document ads url := hlookup url
  refine ⟨combined, hfold, fun ad had => ?_⟩
  rw [combineAppSignals_foldl, hkept ad.render]
  intro hnot
  -- without a document there are no signals for the render URL
  have hnone := List.findSome?_eq_none_iff.mp
    ((hkept ad.render).symm.trans (AList.lookup_eq_none.mpr hnot)) ad had
  rw [if_pos rfl] at hnone
  have hread : signalsRead (signalMembers "renderUrls" document) ad.render = none :=
    (adDocument_injective (hnone.trans (rfl : adDocument [] none = none).symm)).2
  rw [hready.renders ad.render hnot, lookup_signalsMap, hread, Option.map_none]

theorem SignalsAreApart.namedInFull (h : SignalsAreApart document ads) {ad : AdWithBidMetadata}
    (had : ad ∈ ads) :
    NamedInFull (signalMembers "adComponentRenderUrls" document) ad.adComponents := by
  intro url hurl member hread
  rw [readsByName_iff.mp (h.components ad had url hurl)] at hread
  simpa [memberNamed] using List.find?_some hread

end Own

def parsedSignals (parse : String → Option Json) (scoringSignals : String) : Option Json :=
  if scoringSignals = "" then none
  else
    match parse (cString scoringSignals) with
    | some (.object members) => some (.object members)
    | _ => none

theorem buildTrustedScoringSignals_eq {parse : String → Option Json} {scoringSignals : String}
    (rawRequest : ScoreAdsRawRequest) (requireScoringSignalsForScoring : Bool) {document : Json}
    (hparsed : parsedSignals parse scoringSignals = some document) :
    buildTrustedScoringSignals parse scoringSignals rawRequest requireScoringSignalsForScoring =
      if requireScoringSignalsForScoring ∧ (document.findMember "renderUrls").isNone then
        .error (.invalidArgument
          "Trusted scoring signals are required but include no render urls.")
      else do
        let renderUrlSignals ← adScoringSignalsMap "renderUrls" document
        let componentSignals ← adScoringSignalsMap "adComponentRenderUrls" document
        let combined ← rawRequest.adBids.foldlM
          (combineSignals (findSharedComponentUrls rawRequest.adBids))
          { renderUrlSignals := renderUrlSignals, componentSignals := componentSignals }
        return (rawRequest.protectedAppSignalsAdBids.foldl combineAppSignals
          combined).combinedSignals := by
  unfold parsedSignals at hparsed
  unfold buildTrustedScoringSignals
  split at hparsed
  · cases hparsed
  · rename_i hnonempty
    rw [if_neg hnonempty]
    split at hparsed
    · rename_i members hmembers
      cases hparsed
      dsimp only
      split <;> rfl
    · cases hparsed

/-- Each ad gets exactly the signals of its own render URL and components iff render URLs are
required and missing, which is refused, or the two maps are objects, nothing is found under
another's name, and ads of one render URL have the same components with signals. -/
theorem haveOwnSignals_iff (parse : String → Option Json) (scoringSignals : String)
    (rawRequest : ScoreAdsRawRequest) (requireScoringSignalsForScoring : Bool) {document : Json}
    (hparsed : parsedSignals parse scoringSignals = some document) :
    HaveOwnSignals document rawRequest.adBids
        (buildTrustedScoringSignals parse scoringSignals rawRequest
          requireScoringSignalsForScoring) ↔
      (requireScoringSignalsForScoring = true ∧ (document.findMember "renderUrls").isNone = true) ∨
        SignalsAreApart document rawRequest.adBids := by
  rw [buildTrustedScoringSignals_eq rawRequest requireScoringSignalsForScoring hparsed]
  by_cases hmissing : requireScoringSignalsForScoring = true ∧
      (document.findMember "renderUrls").isNone = true
  · rw [if_pos hmissing]
    exact iff_of_true trivial (.inl hmissing)
  rw [if_neg hmissing, or_iff_right hmissing, adScoringSignalsMap_eq, adScoringSignalsMap_eq]
  by_cases hrenders : isAbsentOrObject "renderUrls" document = true
  swap
  · rw [if_neg hrenders]
    exact iff_of_false id fun h => hrenders h.renderUrls
  by_cases hcomponents : isAbsentOrObject "adComponentRenderUrls" document = true
  swap
  · rw [if_pos hrenders, if_neg hcomponents]
    exact iff_of_false id fun h => hcomponents h.adComponentRenderUrls
  rw [if_pos hrenders, if_pos hcomponents]
  by_cases hnamed : ∀ ad ∈ rawRequest.adBids,
      NamedInFull (signalMembers "adComponentRenderUrls" document) ad.adComponents
  · obtain ⟨combined, hfold, hkept⟩ := combined_lookup hnamed rawRequest.protectedAppSignalsAdBids
    simp only [bind, Except.bind, hfold]
    constructor
    · intro hown
      exact apart_of_keptDocument hrenders hcomponents hnamed fun ad had =>
        (hkept ad had).symm.trans (hown ad had)
    · intro hapart ad had
      exact (hkept ad had).trans (hapart.keptDocument had)
  · obtain ⟨message, hfold⟩ := combineSignals_foldlM_internal
      (⟨fun url _ => rfl, fun url _ => rfl⟩ : Ready
        (signalMembers "adComponentRenderUrls" document) (signalMembers "renderUrls" document)
        rawRequest.adBids
        { renderUrlSignals := signalsMap (signalMembers "renderUrls" document)
          componentSignals := signalsMap (signalMembers "adComponentRenderUrls" document) })
      (fun url => mem_findSharedComponentUrls) hnamed
    simp only [bind, Except.bind, hfold]
    exact iff_of_false id fun h => hnamed fun ad had => h.namedInFull had

def twoComponents : Json :=
  .object [("renderUrls", .object [("ad", .number 1)]),
    ("adComponentRenderUrls", .object [("top", .number 2), ("side", .number 3)])]

/-- The text of `twoComponents`, and its parsed form. -/
def twoComponentsText : String :=
  "\x7b\"renderUrls\":\x7b\"ad\":1\x7d,\"adComponentRenderUrls\":\x7b\"top\":2,\"side\":3\x7d\x7d"

def parseTwoComponents (text : String) : Option Json :=
  if text = twoComponentsText then some twoComponents else none

theorem parsedSignals_twoComponents :
    parsedSignals parseTwoComponents twoComponentsText = some twoComponents := by
  have hcut : cString twoComponentsText = twoComponentsText := by rfl
  rw [parsedSignals, if_neg (by decide), hcut, parseTwoComponents, if_pos rfl]
  rfl

/-- A component of two ads, one of which has another one too. -/
def sharedTop : ScoreAdsRawRequest where
  adBids :=
    [{ render := "ad", adComponents := ["top", "side"] },
      { render := "other", adComponents := ["top"] }]

theorem haveOwnSignals_sharedTop :
    HaveOwnSignals twoComponents sharedTop.adBids
      (buildTrustedScoringSignals parseTwoComponents twoComponentsText sharedTop false) :=
  (haveOwnSignals_iff parseTwoComponents twoComponentsText sharedTop false
    parsedSignals_twoComponents).mpr
    (.inr ⟨by decide, by decide, by decide, by decide, by decide⟩)

/-- The second ad of a render URL gets the component signals of the first. -/
theorem sameRender_firstSignals :
    ¬ HaveOwnSignals twoComponents
      [{ render := "ad", adComponents := ["top"] }, { render := "ad", adComponents := ["side"] }]
      (buildTrustedScoringSignals parseTwoComponents twoComponentsText
        { adBids := [{ render := "ad", adComponents := ["top"] },
          { render := "ad", adComponents := ["side"] }] } false) := by
  rw [buildTrustedScoringSignals_eq _ _ parsedSignals_twoComponents]
  intro hown
  have hsecond := hown { render := "ad", adComponents := ["side"] } (by simp)
  have hfirst : ownSignals twoComponents { render := "ad", adComponents := ["top"] } =
      ownSignals twoComponents { render := "ad", adComponents := ["side"] } := hsecond
  have hnames := congrArg (List.map Prod.fst) (adDocument_injective hfirst).1
  exact absurd hnames (by decide)

end BiddingAuction

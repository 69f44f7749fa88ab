import BiddingAuction.BuyerFrontEnd.BiddingRequests
import BiddingAuction.KeyValue.V2Malformed

/-!
# Malformed bidding signals

Of the trusted bidding signals the data of each interest group is read, and what is not as
expected is skipped. The entry of an interest group is looked into without a look at its type.
-/

namespace BiddingAuction

open Foundation

namespace BuyerFrontEnd

open KvV2 (kPerInterestGroupData)
open SelectAd (InterestGroup BrowserSignalsForBidding BuyerInputForBidding)

abbrev BuyerGroup := InterestGroup BrowserSignalsForBidding

/-! ## Entries -/

def entryOf (perInterestGroupData : Json) (ig : BuyerGroup) : Option Json :=
  if ig.name = "" then none else perInterestGroupData.findMember (cString ig.name)

def updateIfOlderThanMs? (perInterestGroupData : Json) (ig : BuyerGroup) : Option ℕ :=
  ((entryOf perInterestGroupData ig).bind (Json.findMember "updateIfOlderThanMs")).bind uint?

def update? (perInterestGroupData : Json) (ig : BuyerGroup × ℕ) : Option UpdateInterestGroup :=
  (updateIfOlderThanMs? perInterestGroupData ig.1).map fun ms => ⟨ig.2, ms⟩

def priorityVector? (perInterestGroupData : Json) (ig : BuyerGroup) :
    Option (List (String × Json)) :=
  match (entryOf perInterestGroupData ig).bind (Json.findMember "priorityVector") with
  | some (.object priorityVector) => some (SelectAd.sanitizePriorityVector priorityVector)
  | _ => none

/-- What was read of some interest groups: what stands there as expected, and nothing else. -/
structure IsReadOf (perInterestGroupData : Json) (groups : List (BuyerGroup × ℕ))
    (result : BiddingSignalJsonComponents) : Prop where
  updates : result.updateIgs = groups.filterMap (update? perInterestGroupData)
  vectors : ∀ name vector, result.perIgPriorityVectors.lookup name = some vector →
    ∃ ig ∈ groups, ig.1.name = name ∧ priorityVector? perInterestGroupData ig.1 = some vector
  found : ∀ ig ∈ groups, ∀ vector, priorityVector? perInterestGroupData ig.1 = some vector →
    ∃ name, cString name = cString ig.1.name ∧
      result.perIgPriorityVectors.lookup name = some vector

theorem isReadOf_of_no_entry {perInterestGroupData : Json} {groups : List (BuyerGroup × ℕ)}
    (h : ∀ ig ∈ groups, entryOf perInterestGroupData ig.1 = none) :
    IsReadOf perInterestGroupData groups {} := by
  refine ⟨?_, fun _ _ h => (nomatch h), fun ig hig vector hvector => ?_⟩
  · refine (List.filterMap_eq_nil_iff.mpr fun ig hig => ?_).symm
    unfold update? updateIfOlderThanMs?
    rw [h ig hig]
    rfl
  · unfold priorityVector? at hvector
    rw [h ig hig] at hvector
    cases hvector

def IsExpected (perInterestGroupData : Json) (ig : BuyerGroup) : Prop :=
  ∀ entry, entryOf perInterestGroupData ig = some entry → ∃ members, entry = .object members

section Entries

variable {perInterestGroupData : Json} {groups : List (BuyerGroup × ℕ)}
  {result : BiddingSignalJsonComponents}

theorem parseInterestGroupData_eq_aborted {ig : BuyerGroup × ℕ}
    (h : ¬ IsExpected perInterestGroupData ig.1) :
    parseInterestGroupData perInterestGroupData result ig = .error .aborted := by
  unfold IsExpected entryOf at h
  push Not at h
  obtain ⟨entry, hentry, hobject⟩ := h
  unfold parseInterestGroupData
  split at hentry
  · cases hentry
  · rename_i hname
    rw [if_neg hname, hentry]
    cases entry with
    | object members => exact absurd rfl (hobject members)
    | _ => rfl

theorem priorityVector?_congr {ig ig' : BuyerGroup} (h : cString ig.name = cString ig'.name)
    (hname : ig.name ≠ "") (hname' : ig'.name ≠ "") :
    priorityVector? perInterestGroupData ig = priorityVector? perInterestGroupData ig' := by
  unfold priorityVector? entryOf
  rw [if_neg hname, if_neg hname', h]

theorem name_ne_of_priorityVector? {ig : BuyerGroup} {vector : List (String × Json)}
    (h : priorityVector? perInterestGroupData ig = some vector) : ig.name ≠ "" := by
  intro hname
  unfold priorityVector? entryOf at h
  rw [if_pos hname] at h
  cases h

/-- The vector of an interest group, unless it was moved out. -/
def addVector (vectors : FlatHashMap String (List (String × Json))) (ig : BuyerGroup)
    (vector : List (String × Json)) : FlatHashMap String (List (String × Json)) :=
  if vectors.keys.any fun name => cString name = cString ig.name then vectors
  else vectors.insert ig.name vector

def addEntry (perInterestGroupData : Json) (result : BiddingSignalJsonComponents)
    (ig : BuyerGroup × ℕ) : BiddingSignalJsonComponents where
  biddingSignals := result.biddingSignals
  updateIgs := result.updateIgs ++ (update? perInterestGroupData ig).toList
  perIgPriorityVectors := (priorityVector? perInterestGroupData ig.1).elim
    result.perIgPriorityVectors (addVector result.perIgPriorityVectors ig.1)

theorem parseInterestGroupData_eq {ig : BuyerGroup × ℕ}
    (h : IsExpected perInterestGroupData ig.1) :
    parseInterestGroupData perInterestGroupData result ig =
      .ok (addEntry perInterestGroupData result ig) := by
  unfold IsExpected at h
  unfold parseInterestGroupData addEntry update? updateIfOlderThanMs? priorityVector?
  by_cases hname : ig.1.name = ""
  · have hnone : entryOf perInterestGroupData ig.1 = none := if_pos hname
    rw [if_pos hname, hnone]
    simp
  · have hentry : entryOf perInterestGroupData ig.1 =
        perInterestGroupData.findMember (cString ig.1.name) := if_neg hname
    rw [if_neg hname, ← hentry]
    cases hfound : entryOf perInterestGroupData ig.1 with
    | none => simp
    | some entry =>
      obtain ⟨members, rfl⟩ := h entry hfound
      simp only [Option.bind_some]
      -- the update and the vector are read each for itself
      cases ((Json.object members).findMember "updateIfOlderThanMs").bind uint? <;>
        cases (Json.object members).findMember "priorityVector" with
        | none => simp
        | some value =>
          cases value with
          | object priorityVector =>
            unfold addVector
            dsimp only
            split <;> simp
          | _ => simp

theorem updateIgs_addEntry (h : IsReadOf perInterestGroupData groups result)
    (ig : BuyerGroup × ℕ) : (addEntry perInterestGroupData result ig).updateIgs =
      (groups ++ [ig]).filterMap (update? perInterestGroupData) := by
  rw [List.filterMap_append, ← h.updates]
  show _ ++ _ = _
  congr 1

theorem IsReadOf.keep (h : IsReadOf perInterestGroupData groups result) {ig : BuyerGroup × ℕ}
    {result' : BiddingSignalJsonComponents}
    (hupdates : result'.updateIgs = (groups ++ [ig]).filterMap (update? perInterestGroupData))
    (hsame : result'.perIgPriorityVectors = result.perIgPriorityVectors)
    (hfound : ∀ vector, priorityVector? perInterestGroupData ig.1 = some vector →
      ∃ name, cString name = cString ig.1.name ∧
        result.perIgPriorityVectors.lookup name = some vector) :
    IsReadOf perInterestGroupData (groups ++ [ig]) result' := by
  refine ⟨hupdates, fun name vector hvector => ?_, fun ig' hig' vector hvector => ?_⟩
  · rw [hsame] at hvector
    obtain ⟨ig', hig', hname⟩ := h.vectors name vector hvector
    exact ⟨ig', List.mem_append_left _ hig', hname⟩
  · rw [hsame]
    rcases List.mem_append.mp hig' with hold | hnew
    · exact h.found ig' hold vector hvector
    · cases List.mem_singleton.mp hnew
      exact hfound vector hvector

theorem IsReadOf.insert (h : IsReadOf perInterestGroupData groups result) {ig : BuyerGroup × ℕ}
    {result' : BiddingSignalJsonComponents} {own : List (String × Json)}
    (hown : priorityVector? perInterestGroupData ig.1 = some own)
    (hnew : ig.1.name ∉ result.perIgPriorityVectors.keys)
    (hupdates : result'.updateIgs = (groups ++ [ig]).filterMap (update? perInterestGroupData))
    (hinsert : result'.perIgPriorityVectors = result.perIgPriorityVectors.insert ig.1.name own) :
    IsReadOf perInterestGroupData (groups ++ [ig]) result' := by
  refine ⟨hupdates, fun name vector hvector => ?_, fun ig' hig' vector hvector => ?_⟩
  · rw [hinsert] at hvector
    by_cases hname : name = ig.1.name
    · subst hname
      rw [AList.lookup_insert] at hvector
      cases hvector
      exact ⟨ig, List.mem_append_right _ List.mem_cons_self, rfl, hown⟩
    · rw [AList.lookup_insert_ne hname] at hvector
      obtain ⟨ig', hig', hname'⟩ := h.vectors name vector hvector
      exact ⟨ig', List.mem_append_left _ hig', hname'⟩
  · rw [hinsert]
    rcases List.mem_append.mp hig' with hold | hlast
    · obtain ⟨name, hread, hlookup⟩ := h.found ig' hold vector hvector
      refine ⟨name, hread, ?_⟩
      rw [AList.lookup_insert_ne]
      · exact hlookup
      · rintro rfl
        exact hnew (AList.mem_keys.mpr (AList.lookup_isSome.mp (hlookup ▸ rfl)))
    · cases List.mem_singleton.mp hlast
      rw [hown] at hvector
      cases hvector
      exact ⟨ig.1.name, rfl, AList.lookup_insert _⟩

theorem IsReadOf.found_of_moved (h : IsReadOf perInterestGroupData groups result)
    {ig : BuyerGroup} {name : String} (hname : name ∈ result.perIgPriorityVectors.keys)
    (hread : cString name = cString ig.name) {vector : List (String × Json)}
    (hvector : priorityVector? perInterestGroupData ig = some vector) :
    result.perIgPriorityVectors.lookup name = some vector := by
  obtain ⟨moved, hlookup⟩ := Option.isSome_iff_exists.mp
    (AList.lookup_isSome.mpr (AList.mem_keys.mp hname))
  obtain ⟨ig', -, rfl, hmoved⟩ := h.vectors name moved hlookup
  rw [← priorityVector?_congr hread.symm (name_ne_of_priorityVector? hvector)
    (name_ne_of_priorityVector? hmoved), hvector] at hmoved
  cases hmoved
  exact hlookup

theorem IsReadOf.addEntry (h : IsReadOf perInterestGroupData groups result)
    (ig : BuyerGroup × ℕ) :
    IsReadOf perInterestGroupData (groups ++ [ig]) (addEntry perInterestGroupData result ig) := by
  have hupdates := updateIgs_addEntry h ig
  have hadd : (BuyerFrontEnd.addEntry perInterestGroupData result ig).perIgPriorityVectors =
      (priorityVector? perInterestGroupData ig.1).elim result.perIgPriorityVectors
        (addVector result.perIgPriorityVectors ig.1) := rfl
  cases hown : priorityVector? perInterestGroupData ig.1 with
  | none =>
    rw [hown] at hadd
    refine h.keep hupdates hadd fun vector hvector => ?_
    rw [hown] at hvector
    cases hvector
  | some own =>
    rw [hown, Option.elim_some] at hadd
    unfold addVector at hadd
    by_cases hmoved : (result.perIgPriorityVectors.keys.any fun name =>
        cString name = cString ig.1.name) = true
    · rw [if_pos hmoved] at hadd
      refine h.keep hupdates hadd fun vector hvector => ?_
      obtain ⟨name, hname, hread⟩ := List.any_eq_true.mp hmoved
      have hread := of_decide_eq_true hread
      exact ⟨name, hread, h.found_of_moved hname hread hvector⟩
    · rw [if_neg hmoved] at hadd
      refine h.insert hown (fun hname => hmoved ?_) hupdates hadd
      exact List.any_eq_true.mpr ⟨ig.1.name, hname, decide_eq_true rfl⟩

theorem foldlM_parseInterestGroupData_eq_ok {later : List (BuyerGroup × ℕ)}
    (h : IsReadOf perInterestGroupData groups result)
    (hexpected : ∀ ig ∈ later, IsExpected perInterestGroupData ig.1) :
    ∃ result', later.foldlM (parseInterestGroupData perInterestGroupData) result = .ok result' ∧
      IsReadOf perInterestGroupData (groups ++ later) result' := by
  induction later generalizing groups result with
  | nil =>
    rw [List.append_nil]
    exact ⟨result, rfl, h⟩
  | cons ig later ih =>
    obtain ⟨result', hrun, hread⟩ := ih (h.addEntry ig)
      fun ig' hig' => hexpected ig' (List.mem_cons_of_mem _ hig')
    refine ⟨result', ?_, ?_⟩
    · rw [List.foldlM_cons, parseInterestGroupData_eq (hexpected ig List.mem_cons_self)]
      exact hrun
    · rw [List.append_cons]
      exact hread

theorem foldlM_parseInterestGroupData_eq_aborted {later : List (BuyerGroup × ℕ)}
    {ig : BuyerGroup × ℕ} (hig : ig ∈ later) (h : ¬ IsExpected perInterestGroupData ig.1) :
    later.foldlM (parseInterestGroupData perInterestGroupData) result = .error .aborted := by
  induction later generalizing result with
  | nil => cases hig
  | cons first later ih =>
    rw [List.foldlM_cons]
    by_cases hfirst : IsExpected perInterestGroupData first.1
    · rw [parseInterestGroupData_eq hfirst]
      rcases List.mem_cons.mp hig with rfl | hig
      · exact absurd hfirst h
      · exact ih hig
    · rw [parseInterestGroupData_eq_aborted hfirst]
      rfl

end Entries

/-! ## The signals -/

/-- The data of interest groups in trusted signals, nothing where there is none. -/
def perInterestGroupData (trustedSignals : Json) : Json :=
  (trustedSignals.findMember kPerInterestGroupData).getD (.object [])

/-- Reading is not asserted against, and what is not as expected is skipped. -/
structure SkipsUnexpected (lib : Library) (biddingSignals : BiddingSignals)
    (buyerInput : BuyerInputForBidding) : Prop where
  notAborted : parseTrustedBiddingSignals lib biddingSignals buyerInput ≠ .error .aborted
  isRead : ∀ result, parseTrustedBiddingSignals lib biddingSignals buyerInput = .ok result →
    ∀ trustedSignals, lib.parseJsonString (biddingSignals.trustedSignals.getD "") =
      some trustedSignals →
    IsReadOf (perInterestGroupData trustedSignals) buyerInput.interestGroups.zipIdx result

/-- The signals are an object, in which the entries of the interest groups are objects. -/
def HasObjects (trustedSignals : Json) (buyerInput : BuyerInputForBidding) : Prop :=
  (∃ members, trustedSignals = .object members) ∧
    ∀ ig ∈ buyerInput.interestGroups, IsExpected (perInterestGroupData trustedSignals) ig

theorem entryOf_eq_none {document : Json} (h : ∀ name, document.findMember name = none)
    (ig : BuyerGroup) : entryOf document ig = none := by
  unfold entryOf
  split
  · rfl
  · exact h _

theorem parsePerInterestGroupData_spec (document : Json) (buyerInput : BuyerInputForBidding) :
    (∃ result, parsePerInterestGroupData document buyerInput = .ok result ∧
      IsReadOf document buyerInput.interestGroups.zipIdx result ∧
      ∀ ig ∈ buyerInput.interestGroups, IsExpected document ig) ∨
    parsePerInterestGroupData document buyerInput = .error .aborted ∧
      ¬ ∀ ig ∈ buyerInput.interestGroups, IsExpected document ig := by
  by_cases hobject : ∃ members, document = .object members
  · obtain ⟨members, rfl⟩ := hobject
    by_cases hexpected : ∀ ig ∈ buyerInput.interestGroups, IsExpected (.object members) ig
    · have hempty : IsReadOf (.object members) [] {} := isReadOf_of_no_entry fun ig h => nomatch h
      obtain ⟨result, hrun, hread⟩ := foldlM_parseInterestGroupData_eq_ok hempty
        fun ig hig => hexpected ig.1 (List.fst_mem_of_mem_zipIdx hig)
      exact .inl ⟨result, hrun, hread, hexpected⟩
    · refine .inr ⟨?_, hexpected⟩
      push Not at hexpected
      obtain ⟨ig, hig, hnot⟩ := hexpected
      obtain ⟨i, hi⟩ := List.mem_iff_getElem?.mp hig
      have hmem : (ig, i) ∈ buyerInput.interestGroups.zipIdx :=
        List.mk_mem_zipIdx_iff_getElem?.mpr hi
      exact foldlM_parseInterestGroupData_eq_aborted hmem hnot
  · have hnone (name : String) : document.findMember name = none := by
      cases document with
      | object members => exact absurd ⟨members, rfl⟩ hobject
      | _ => rfl
    refine .inl ⟨{}, ?_, isReadOf_of_no_entry fun ig _ => entryOf_eq_none hnone ig.1, ?_⟩
    · cases document with
      | object members => exact absurd ⟨members, rfl⟩ hobject
      | _ => rfl
    · intro ig _ entry hentry
      rw [entryOf_eq_none hnone] at hentry
      cases hentry

section Signals

variable {lib : Library} {biddingSignals : BiddingSignals} {buyerInput : BuyerInputForBidding}
  {members : List (String × Json)}

theorem perInterestGroupData_eq {trustedSignals data : Json}
    (h : trustedSignals.findMember kPerInterestGroupData = some data) :
    perInterestGroupData trustedSignals = data := by
  unfold perInterestGroupData
  rw [h]
  rfl

theorem entryOf_perInterestGroupData_eq_none {trustedSignals : Json}
    (h : trustedSignals.findMember kPerInterestGroupData = none) (ig : BuyerGroup) :
    entryOf (perInterestGroupData trustedSignals) ig = none := by
  unfold perInterestGroupData
  rw [h]
  exact entryOf_eq_none (fun name => rfl) ig

theorem parseTrustedBiddingSignals_of_hasObjects
    (htext : biddingSignals.trustedSignals.getD "" ≠ "")
    (hparse : lib.parseJsonString (biddingSignals.trustedSignals.getD "") = some (.object members))
    (hobjects : HasObjects (.object members) buyerInput) :
    parseTrustedBiddingSignals lib biddingSignals buyerInput ≠ .error .aborted ∧
      ∀ result, parseTrustedBiddingSignals lib biddingSignals buyerInput = .ok result →
        IsReadOf (perInterestGroupData (.object members)) buyerInput.interestGroups.zipIdx
          result := by
  have hinner : ∃ result, IsReadOf (perInterestGroupData (.object members))
      buyerInput.interestGroups.zipIdx result ∧
      ((∃ keys, parseTrustedBiddingSignals lib biddingSignals buyerInput =
        .ok { result with biddingSignals := some keys }) ∨
      parseTrustedBiddingSignals lib biddingSignals buyerInput =
        .error (.invalidArgument kBiddingSignalsJsonMissingKeysProperty)) := by
    unfold parseTrustedBiddingSignals
    rw [if_neg htext, hparse]
    dsimp only
    cases hfound : (Json.object members).findMember kPerInterestGroupData with
    | none =>
      refine ⟨{}, isReadOf_of_no_entry fun ig _ =>
        entryOf_perInterestGroupData_eq_none hfound ig.1, ?_⟩
      simp only [bind, Except.bind, pure, Except.pure]
      split
      · exact .inl ⟨_, rfl⟩
      · exact .inr rfl
    | some data =>
      rw [perInterestGroupData_eq hfound]
      rcases parsePerInterestGroupData_spec data buyerInput with
        ⟨result, hrun, hread, -⟩ | ⟨-, hnot⟩
      · refine ⟨result, hread, ?_⟩
        simp only [hrun, bind, Except.bind, pure, Except.pure]
        split
        · exact .inl ⟨_, rfl⟩
        · exact .inr rfl
      · rw [← perInterestGroupData_eq hfound] at hnot
        exact absurd hobjects.2 hnot
  obtain ⟨result, hread, ⟨keys, hrun⟩ | hrun⟩ := hinner
  · rw [hrun]
    refine ⟨fun h => (nomatch h), fun result' h => ?_⟩
    cases h
    exact ⟨hread.updates, hread.vectors, hread.found⟩
  · rw [hrun]
    exact ⟨fun h => (nomatch h), fun result' h => nomatch h⟩

theorem parseTrustedBiddingSignals_eq_aborted {trustedSignals : Json}
    (htext : biddingSignals.trustedSignals.getD "" ≠ "")
    (hparse : lib.parseJsonString (biddingSignals.trustedSignals.getD "") = some trustedSignals)
    (hobjects : ¬ HasObjects trustedSignals buyerInput) :
    parseTrustedBiddingSignals lib biddingSignals buyerInput = .error .aborted := by
  unfold parseTrustedBiddingSignals
  rw [if_neg htext, hparse]
  by_cases hobject : ∃ members, trustedSignals = .object members
  · obtain ⟨members, rfl⟩ := hobject
    have hentries : ¬ ∀ ig ∈ buyerInput.interestGroups,
        IsExpected (perInterestGroupData (.object members)) ig := fun h => hobjects ⟨⟨_, rfl⟩, h⟩
    dsimp only
    cases hfound : (Json.object members).findMember kPerInterestGroupData with
    | none =>
      refine absurd (fun ig _ entry hentry => ?_) hentries
      rw [entryOf_perInterestGroupData_eq_none hfound] at hentry
      cases hentry
    | some data =>
      rw [perInterestGroupData_eq hfound] at hentries
      rcases parsePerInterestGroupData_spec data buyerInput with ⟨result, -, -, hall⟩ | ⟨hrun, -⟩
      · exact absurd hall hentries
      · dsimp only
        rw [hrun]
        rfl
  · cases trustedSignals with
    | object members => exact absurd ⟨members, rfl⟩ hobject
    | _ => rfl

/-- What is not as expected is skipped if and only if the signals are an object with objects for
the interest groups, or are not read at all. -/
theorem skipsUnexpected_iff :
    SkipsUnexpected lib biddingSignals buyerInput ↔
      (biddingSignals.trustedSignals.getD "" ≠ "" → ∀ trustedSignals,
        lib.parseJsonString (biddingSignals.trustedSignals.getD "") = some trustedSignals →
          HasObjects trustedSignals buyerInput) := by
  constructor
  · intro h htext trustedSignals hparse
    by_contra hobjects
    exact h.notAborted (parseTrustedBiddingSignals_eq_aborted htext hparse hobjects)
  · intro h
    by_cases htext : biddingSignals.trustedSignals.getD "" = ""
    · have hrun : parseTrustedBiddingSignals lib biddingSignals buyerInput =
          .error (.invalidArgument kGetBiddingSignalsSuccessButEmpty) := by
        unfold parseTrustedBiddingSignals
        rw [if_pos htext]
        rfl
      refine ⟨fun h => ?_, fun result h => ?_⟩ <;> rw [hrun] at h <;> cases h
    cases hparse : lib.parseJsonString (biddingSignals.trustedSignals.getD "") with
    | none =>
      have hrun : parseTrustedBiddingSignals lib biddingSignals buyerInput =
          .error (.internal kBiddingSignalsJsonNotParseable) := by
        unfold parseTrustedBiddingSignals
        rw [if_neg htext, hparse]
        rfl
      refine ⟨fun h => ?_, fun result h => ?_⟩ <;> rw [hrun] at h <;> cases h
    | some trustedSignals =>
      have hobjects := h htext trustedSignals hparse
      obtain ⟨members, rfl⟩ := hobjects.1
      obtain ⟨hnot, hread⟩ := parseTrustedBiddingSignals_of_hasObjects htext hparse hobjects
      refine ⟨hnot, fun result hresult trustedSignals' hparse' => ?_⟩
      rw [hparse] at hparse'
      cases hparse'
      exact hread result hresult

end Signals

/-! ## Both -/

/-- A response of the key-value server is converted or rejected if nothing is come upon that is
fatal; bidding signals are read, with what is not as expected skipped, if they are an object with
objects for the interest groups. -/
theorem malformed_responses_iff (lib : Library) (ord : HashOrder) {keyTags : List String}
    (hnodup : keyTags.Nodup) (contents : List String) (stats : KvV2.KVV2AdapterStats)
    (biddingSignals : BiddingSignals) (buyerInput : BuyerInputForBidding) :
    (KvV2.convertKvV2ResponseToV1String lib ord keyTags contents stats ≠ .error .aborted ↔
      ∀ docs, KvV2.parseGroups lib contents = .ok docs → KvV2.ReadsSafely lib keyTags docs) ∧
    (SkipsUnexpected lib biddingSignals buyerInput ↔
      (biddingSignals.trustedSignals.getD "" ≠ "" → ∀ trustedSignals,
        lib.parseJsonString (biddingSignals.trustedSignals.getD "") = some trustedSignals →
          HasObjects trustedSignals buyerInput)) :=
  ⟨KvV2.convertKvV2ResponseToV1String_ne_aborted_iff lib ord hnodup contents stats,
    skipsUnexpected_iff⟩

def readingLibrary (text : String) (document : Json) : Library where
  parseJsonString s := if s = text then some document else none
  serializeJsonDoc _ := none
  messageToJsonString _ := none
  toString _ := ""
  toFloat := id

/-- The partitions of a compression group, one of them with these key groups. -/
def partitionsOf (keyGroupOutputs : List Json) : Json :=
  .array [.object [(KvV2.kKeyGroupOutputs, .array keyGroupOutputs)]]

theorem malformed_responses_iff_example :
    KvV2.convertKvV2ResponseToV1String
      (readingLibrary "[\x7b\"keyGroupOutputs\":[\x7b\x7d]\x7d]" (partitionsOf [.object []]))
      .stored ["keys"] ["[\x7b\"keyGroupOutputs\":[\x7b\x7d]\x7d]"] {} ≠ .error .aborted := by
  refine (malformed_responses_iff _ _ (by decide) _ _ {} {}).1.mpr ?_
  rintro docs h before item after hsplit -
  cases h
  have hmem : item ∈ KvV2.items ["keys"] [partitionsOf [.object []]] :=
    hsplit ▸ List.mem_append_right before List.mem_cons_self
  rcases List.mem_cons.mp hmem with rfl | hmem
  · exact not_false
  rcases List.mem_cons.mp hmem with rfl | hmem
  · exact not_false
  rcases List.mem_cons.mp hmem with rfl | hmem
  · rintro (hobject | ⟨value, hvalue, -⟩)
    · exact hobject ⟨[], rfl⟩
    · cases hvalue
  · cases hmem

/-- A number is read as a key group, and as the data of an interest group. -/
theorem not_skipsUnexpected_example :
    KvV2.convertKvV2ResponseToV1String
      (readingLibrary "[\x7b\"keyGroupOutputs\":[1]\x7d]" (partitionsOf [.number 1])) .stored
      ["keys", KvV2.kInterestGroupNames] ["[\x7b\"keyGroupOutputs\":[1]\x7d]"] {} =
        .error .aborted ∧
    ¬ SkipsUnexpected
      (readingLibrary "\x7b\"perInterestGroupData\":\x7b\"ig\":1\x7d,\"keys\":\x7b\x7d\x7d"
        (.object [("perInterestGroupData", .object [("ig", .number 1)]), ("keys", .object [])]))
      ⟨some "\x7b\"perInterestGroupData\":\x7b\"ig\":1\x7d,\"keys\":\x7b\x7d\x7d", 0, false⟩
      { interestGroups := [{ name := "ig" }] } := by
  exact ⟨by decide, fun h => h.notAborted rfl⟩

end BuyerFrontEnd

end BiddingAuction

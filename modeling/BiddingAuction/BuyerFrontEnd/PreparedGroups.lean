import BiddingAuction.Bidding.InterestGroupText
import BiddingAuction.BuyerFrontEnd.BiddingRequests
import BiddingAuction.Foundation.Runs
import Mathlib.Data.List.Perm.Basic

/-!
# `PrepareGenerateBidsRequest`, task by task

Each interest group is prepared by a task of its own. A task that adds its interest group to the
request does so under a lock, but fills it in without, so that tasks come in between.
-/

namespace BiddingAuction

open Foundation
open SelectAd (GetBidsRawRequest InterestGroup BrowserSignalsForBidding BuyerInputForBidding)

namespace BuyerFrontEnd

namespace Preparation

/-! ## The tasks -/

/-- An interest group of the request: added, and then filled in by its task. -/
inductive Slot where
  | added (fillsIn : Byob.InterestGroupForBidding)
  | filled (ig : Byob.InterestGroupForBidding)

def Slot.ig : Slot → Byob.InterestGroupForBidding
  | .added ig => ig
  | .filled ig => ig

def Slot.isAdded : Slot → Bool
  | .added _ => true
  | .filled _ => false

/-- The tasks that have not run, the interest groups of the request, and those that
`num_filtered_igs` counts. -/
structure State where
  waiting : List (InterestGroup BrowserSignalsForBidding)
  slots : List Slot := []
  filteredIgs : List (InterestGroup BrowserSignalsForBidding) := []

inductive Event where
  /-- A waiting task runs, up to where it has added its interest group. -/
  | run (task : ℕ)
  /-- The task of an interest group that was added fills it in. -/
  | fill (slot : ℕ)

section Tasks

variable (result : InterestGroup BrowserSignalsForBidding → TaskResult)

def runWaiting (s : State) (ig : InterestGroup BrowserSignalsForBidding) : State :=
  match result ig with
  | .skipped => s
  | .filtered => { s with filteredIgs := ig :: s.filteredIgs }
  | .added forBidding => { s with slots := s.slots ++ [.added forBidding] }

def step (s : State) : Event → Option State
  | .run task =>
    s.waiting[task]?.map fun ig =>
      runWaiting result { s with waiting := s.waiting.eraseIdx task } ig
  | .fill slot =>
    match s.slots[slot]? with
    | some (.added ig) => some { s with slots := s.slots.set slot (.filled ig) }
    | _ => none

def system (interestGroups : List (InterestGroup BrowserSignalsForBidding)) : LTS State Event :=
  .ofStep (fun s => s = { waiting := interestGroups }) (step result)

def State.IsDone (s : State) : Prop :=
  s.waiting = [] ∧ ∀ slot ∈ s.slots, slot.isAdded = false

/-! ## What the tasks come to -/

def isFiltered : TaskResult → Bool
  | .filtered => true
  | _ => false

/-- What is left and what is done is altogether what the tasks come to. -/
structure Accounts (interestGroups : List (InterestGroup BrowserSignalsForBidding)) (s : State) :
    Prop where
  slots : (s.slots.map Slot.ig ++ s.waiting.filterMap fun ig => (result ig).added?).Perm
    (interestGroups.filterMap fun ig => (result ig).added?)
  filtered : (s.filteredIgs ++ s.waiting.filter fun ig => isFiltered (result ig)).Perm
    (interestGroups.filter fun ig => isFiltered (result ig))

variable {result} {interestGroups : List (InterestGroup BrowserSignalsForBidding)}

theorem accounts_start : Accounts result interestGroups { waiting := interestGroups } :=
  ⟨.refl _, .refl _⟩

theorem Accounts.run {s : State} (h : Accounts result interestGroups s) {task : ℕ}
    {ig : InterestGroup BrowserSignalsForBidding} (hig : s.waiting[task]? = some ig) :
    Accounts result interestGroups
      (runWaiting result { s with waiting := s.waiting.eraseIdx task } ig) := by
  obtain ⟨htask, hget⟩ := List.getElem?_eq_some_iff.mp hig
  have hperm : (ig :: s.waiting.eraseIdx task).Perm s.waiting :=
    hget ▸ List.getElem_cons_eraseIdx_perm htask
  have hslots := hperm.filterMap fun ig => (result ig).added?
  have hfiltered := hperm.filter fun ig => isFiltered (result ig)
  unfold runWaiting
  cases hresult : result ig with
  | skipped =>
    rw [List.filterMap_cons_none (by rw [hresult]; rfl)] at hslots
    rw [List.filter_cons_of_neg (by rw [hresult]; exact Bool.false_ne_true)] at hfiltered
    exact ⟨(hslots.append_left _).trans h.slots, (hfiltered.append_left _).trans h.filtered⟩
  | filtered =>
    rw [List.filterMap_cons_none (by rw [hresult]; rfl)] at hslots
    rw [List.filter_cons_of_pos (by rw [hresult]; rfl)] at hfiltered
    refine ⟨(hslots.append_left _).trans h.slots, ?_⟩
    exact (List.perm_middle.symm.trans (hfiltered.append_left _)).trans h.filtered
  | added forBidding =>
    rw [List.filterMap_cons_some (by rw [hresult]; rfl)] at hslots
    rw [List.filter_cons_of_neg (by rw [hresult]; exact Bool.false_ne_true)] at hfiltered
    refine ⟨?_, (hfiltered.append_left _).trans h.filtered⟩
    show (List.map Slot.ig (s.slots ++ [Slot.added forBidding]) ++ _).Perm _
    rw [List.map_append, List.append_assoc]
    exact (hslots.append_left _).trans h.slots

theorem Accounts.fill {s : State} (h : Accounts result interestGroups s) {slot : ℕ}
    {ig : Byob.InterestGroupForBidding} (hslot : s.slots[slot]? = some (.added ig)) :
    Accounts result interestGroups { s with slots := s.slots.set slot (.filled ig) } := by
  have hsame : (s.slots.set slot (.filled ig)).map Slot.ig = s.slots.map Slot.ig := by
    obtain ⟨hlt, hget⟩ := List.getElem?_eq_some_iff.mp hslot
    have hlt' : slot < (s.slots.map Slot.ig).length := by
      rw [List.length_map]
      exact hlt
    have hself := List.set_getElem_self hlt'
    rw [List.getElem_map, hget] at hself
    rw [List.map_set]
    exact hself
  refine ⟨?_, h.filtered⟩
  show (List.map Slot.ig (s.slots.set slot (.filled ig)) ++ _).Perm _
  rw [hsame]
  exact h.slots

theorem Accounts.step {s s' : State} (h : Accounts result interestGroups s) {event : Event}
    (hstep : step result s event = some s') : Accounts result interestGroups s' := by
  cases event with
  | run task =>
    obtain ⟨ig, hig, rfl⟩ := Option.map_eq_some_iff.mp hstep
    exact h.run hig
  | fill slot =>
    unfold Preparation.step at hstep
    dsimp only at hstep
    split at hstep
    · rename_i ig hslot
      cases hstep
      exact h.fill hslot
    · cases hstep

/-! ## The tasks are done -/

def rank (s : State) : ℕ := 2 * s.waiting.length + s.slots.countP Slot.isAdded

theorem rank_step {s s' : State} {event : Event} (hstep : step result s event = some s') :
    rank s' < rank s := by
  cases event with
  | run task =>
    obtain ⟨ig, hig, rfl⟩ := Option.map_eq_some_iff.mp hstep
    obtain ⟨htask, -⟩ := List.getElem?_eq_some_iff.mp hig
    have hlength := List.length_eraseIdx_of_lt htask
    unfold runWaiting rank
    cases result ig with
    | skipped =>
      dsimp only
      omega
    | filtered =>
      dsimp only
      omega
    | added forBidding =>
      dsimp only
      have hadded : (Slot.added forBidding).isAdded = true := rfl
      rw [List.countP_append, List.countP_singleton, if_pos hadded]
      omega
  | fill slot =>
    unfold step at hstep
    dsimp only at hstep
    split at hstep
    · rename_i ig hslot
      cases hstep
      obtain ⟨hlt, hget⟩ := List.getElem?_eq_some_iff.mp hslot
      have hpos : 0 < s.slots.countP Slot.isAdded :=
        List.countP_pos_iff.mpr ⟨_, List.getElem_mem hlt, by rw [hget]; rfl⟩
      unfold rank
      dsimp only
      have hadded : (Slot.added ig).isAdded = true := rfl
      have hfilled : ¬ (Slot.filled ig).isAdded = true := Bool.false_ne_true
      rw [List.countP_set hlt, hget, if_pos hadded, if_neg hfilled]
      omega
    · cases hstep

variable (result) in
theorem isDone_or_step (s : State) : s.IsDone ∨ ∃ event s', step result s event = some s' := by
  by_cases hwaiting : s.waiting = []
  · by_cases hslots : ∀ slot ∈ s.slots, slot.isAdded = false
    · exact .inl ⟨hwaiting, hslots⟩
    · push Not at hslots
      obtain ⟨slot, hslot, hadded⟩ := hslots
      obtain ⟨i, hi⟩ := List.mem_iff_getElem?.mp hslot
      cases slot with
      | filled ig => exact absurd rfl hadded
      | added ig =>
        refine .inr ⟨.fill i, { s with slots := s.slots.set i (.filled ig) }, ?_⟩
        unfold step
        dsimp only
        rw [hi]
  · obtain ⟨ig, hig⟩ := List.exists_mem_of_ne_nil _ hwaiting
    obtain ⟨i, hi⟩ := List.mem_iff_getElem?.mp hig
    exact .inr ⟨.run i, _, Option.map_eq_some_iff.mpr ⟨ig, hi, rfl⟩⟩

/-- In whatever order they run the tasks are done in the end, and have come to what each of them
comes to. -/
theorem leads_to_done {s : State} (h : Accounts result interestGroups s) :
    (system result interestGroups).Leads
      (fun s => s.IsDone ∧ Accounts result interestGroups s) s := by
  refine LTS.inevitable_of_rank (I := Accounts result interestGroups) (μ := rank)
    (fun s event s' hs _ hstep => hs.step hstep) (fun s hs => ?_)
    (fun s event s' hstep => rank_step hstep) h
  rcases isDone_or_step result s with hdone | hstep
  · exact .inl ⟨hdone, hs⟩
  · exact .inr hstep

end Tasks

end Preparation

/-! ## Signals of an interest group -/

section Signals

variable {ord : HashOrder} {biddingSignalsKeys : List String}
  {biddingSignalsObj : FlatHashMap String String}

theorem mem_foldl_emplace_found (signals : FlatHashMap String String) (key : String) :
    key ∈ biddingSignalsKeys.foldl (fun signals key =>
      match biddingSignalsObj.lookup key with
      | none => signals
      | some value => signals.emplace key value) signals ↔
      key ∈ signals ∨ key ∈ biddingSignalsKeys ∧ key ∈ biddingSignalsObj := by
  induction biddingSignalsKeys generalizing signals with
  | nil => simp
  | cons first rest ih =>
    rw [List.foldl_cons, ih, List.mem_cons]
    cases hfirst : biddingSignalsObj.lookup first with
    | none =>
      have hnot : first ∉ biddingSignalsObj := AList.lookup_eq_none.mp hfirst
      refine or_congr_right (and_congr_left fun hkey => (or_iff_right ?_).symm)
      rintro rfl
      exact hnot hkey
    | some value =>
      have hin : first ∈ biddingSignalsObj := AList.lookup_isSome.mp (hfirst ▸ rfl)
      dsimp only
      rw [FlatHashMap.mem_emplace]
      constructor
      · rintro ((rfl | hold) | ⟨hrest, hkey⟩)
        · exact .inr ⟨.inl rfl, hin⟩
        · exact .inl hold
        · exact .inr ⟨.inr hrest, hkey⟩
      · rintro (hold | ⟨rfl | hrest, hkey⟩)
        · exact .inl (.inr hold)
        · exact .inl (.inl rfl)
        · exact .inr ⟨hrest, hkey⟩

theorem mem_getSignalsForIG_keys {key : String} :
    key ∈ (getSignalsForIG ord biddingSignalsKeys biddingSignalsObj).keys ↔
      key ∈ biddingSignalsKeys ∧ key ∈ biddingSignalsObj := by
  refine Iff.trans ?_
    ((mem_foldl_emplace_found ∅ key).trans (or_iff_right (AList.notMem_empty key)))
  unfold getSignalsForIG
  rw [← AList.lookup_isSome, Option.isSome_iff_exists, List.mem_map]
  constructor
  · rintro ⟨⟨key', value⟩, hmem, rfl⟩
    exact ⟨value, HashOrder.mem_entries.mp hmem⟩
  · rintro ⟨value, hlookup⟩
    exact ⟨(key, value), HashOrder.mem_entries.mpr hlookup, rfl⟩

theorem nodup_getSignalsForIG_keys :
    (getSignalsForIG ord biddingSignalsKeys biddingSignalsObj).keys.Nodup := HashOrder.keys_nodup

theorem getSignalsForIG_json_eq_empty :
    (getSignalsForIG ord biddingSignalsKeys biddingSignalsObj).json = "" ↔
      (getSignalsForIG ord biddingSignalsKeys biddingSignalsObj).keys = [] := by
  have hne (signals : List (String × String)) : serializeSignalsMap signals ≠ "" := by
    intro h
    have hchars := congrArg String.toList h
    unfold serializeSignalsMap at hchars
    simp at hchars
  unfold getSignalsForIG
  dsimp only
  rw [List.map_eq_nil_iff]
  split
  · rename_i hempty
    exact iff_of_true rfl (List.isEmpty_iff.mp hempty)
  · rename_i hempty
    exact iff_of_false (hne _) fun h => hempty (List.isEmpty_iff.mpr h)

end Signals

/-! ## What is to be sent -/

section Wanted

variable (config : PriorityVectorConfig) (biddingSignalsObj : FlatHashMap String String)
  (requireBiddingSignals : Bool)

def ownPriority (ig : InterestGroup BrowserSignalsForBidding) : ℚ :=
  (config.prioritySignals.map fun prioritySignals => priority config prioritySignals ig).getD 0

def priorityOfName (interestGroups : List (InterestGroup BrowserSignalsForBidding))
    (name : String) : ℚ :=
  ((interestGroups.reverse.find? fun ig => ig.name = name).map (ownPriority config)).getD 0

def isConsidered (ig : InterestGroup BrowserSignalsForBidding) : Bool :=
  ig.name ≠ "" && !(requireBiddingSignals && ig.biddingSignalsKeys.isEmpty)

def isDropped (ig : InterestGroup BrowserSignalsForBidding) : Bool :=
  isConsidered requireBiddingSignals ig && config.priorityVectorEnabled &&
    (ownPriority config ig < 0 : Bool)

/-- The interest group is to be sent: it has a name, a priority that is not negative, and keys that
signals were found for. -/
def isWanted (ig : InterestGroup BrowserSignalsForBidding) : Bool :=
  ig.name ≠ "" && (!config.priorityVectorEnabled || (0 ≤ ownPriority config ig : Bool)) &&
    (!requireBiddingSignals || ig.biddingSignalsKeys.any fun key => key ∈ biddingSignalsObj)

/-- The interest group with the keys that signals were found for. -/
structure IsSentAs (ig : InterestGroup BrowserSignalsForBidding)
    (sent : Byob.InterestGroupForBidding) : Prop where
  name : sent.name = ig.name
  userBiddingSignals : sent.userBiddingSignals = ig.userBiddingSignals
  adRenderIds : sent.adRenderIds = ig.adRenderIds
  adComponentRenderIds : sent.adComponentRenderIds = ig.componentAds
  deviceSignals : sent.deviceSignalsForBidding = ig.deviceSignals
  keys : ∀ key, key ∈ sent.trustedBiddingSignalsKeys ↔
    key ∈ ig.biddingSignalsKeys ∧ key ∈ biddingSignalsObj
  keysNodup : sent.trustedBiddingSignalsKeys.Nodup

variable {config biddingSignalsObj requireBiddingSignals}
variable {ord : HashOrder} {ig : InterestGroup BrowserSignalsForBidding}

theorem isSentAs_igForBidding (ord : HashOrder) (ig : InterestGroup BrowserSignalsForBidding) :
    IsSentAs biddingSignalsObj ig
      (igForBidding (getSignalsForIG ord ig.biddingSignalsKeys biddingSignalsObj) ig) := by
  have hkeys : (igForBidding (getSignalsForIG ord ig.biddingSignalsKeys biddingSignalsObj)
      ig).trustedBiddingSignalsKeys =
      (getSignalsForIG ord ig.biddingSignalsKeys biddingSignalsObj).keys := by
    unfold igForBidding
    dsimp only
    split
    · rfl
    · rename_i hempty
      exact (getSignalsForIG_json_eq_empty.mp (not_not.mp hempty)).symm
  refine ⟨rfl, rfl, rfl, rfl, rfl, fun key => ?_, ?_⟩
  · rw [hkeys]
    exact mem_getSignalsForIG_keys
  · rw [hkeys]
    exact nodup_getSignalsForIG_keys

theorem any_mem_iff (ord : HashOrder) :
    (ig.biddingSignalsKeys.any fun key => key ∈ biddingSignalsObj) = true ↔
    (getSignalsForIG ord ig.biddingSignalsKeys biddingSignalsObj).json ≠ "" := by
  rw [Ne, getSignalsForIG_json_eq_empty, List.any_eq_true, List.eq_nil_iff_forall_not_mem]
  push Not
  simp only [mem_getSignalsForIG_keys, decide_eq_true_eq]

theorem isFiltered_runTask (negative : Bool) :
    Preparation.isFiltered (runTask ord biddingSignalsObj requireBiddingSignals negative ig) =
      (isConsidered requireBiddingSignals ig && negative) := by
  unfold runTask isConsidered
  by_cases hskip : (ig.name = "" || requireBiddingSignals && ig.biddingSignalsKeys.isEmpty) = true
  · rw [if_pos hskip]
    have hnot : (decide (ig.name ≠ "") &&
        !(requireBiddingSignals && ig.biddingSignalsKeys.isEmpty)) = false := by
      rw [← Bool.not_eq_true, decide_not, ← Bool.not_or, hskip]
      exact Bool.false_ne_true
    rw [hnot]
    rfl
  · rw [if_neg hskip]
    have hconsidered : (decide (ig.name ≠ "") &&
        !(requireBiddingSignals && ig.biddingSignalsKeys.isEmpty)) = true := by
      rw [decide_not, ← Bool.not_or, (Bool.not_eq_true _).mp hskip]
      rfl
    rw [hconsidered, Bool.true_and]
    cases negative with
    | true => rfl
    | false =>
      rw [if_neg Bool.false_ne_true]
      dsimp only
      split <;> rfl

theorem added?_runTask (negative : Bool) :
    (runTask ord biddingSignalsObj requireBiddingSignals negative ig).added? =
      if (ig.name ≠ "" && !negative && (!requireBiddingSignals ||
          ig.biddingSignalsKeys.any fun key => key ∈ biddingSignalsObj)) = true then
        some (igForBidding (getSignalsForIG ord ig.biddingSignalsKeys biddingSignalsObj) ig)
      else none := by
  unfold runTask
  by_cases hname : ig.name = ""
  · simp [hname, TaskResult.added?]
  cases negative with
  | true =>
    simp only [hname, decide_false, Bool.false_or, if_true]
    split <;> simp [TaskResult.added?]
  | false =>
    cases requireBiddingSignals with
    | false => simp [hname, TaskResult.added?]
    | true =>
      by_cases hany : (ig.biddingSignalsKeys.any fun key => key ∈ biddingSignalsObj) = true
      · have hjson := (any_mem_iff ord).mp hany
        have hkeys : ig.biddingSignalsKeys ≠ [] := by
          intro hnil
          rw [hnil] at hany
          cases hany
        simp only [hname, hany]
        simp [hname, hjson, hkeys, TaskResult.added?]
      · have hjson := not_not.mp (mt (any_mem_iff ord).mpr hany)
        simp only [hname, hany]
        simp only [hjson]
        split <;> simp [TaskResult.added?]

end Wanted

/-! ## The result -/

structure PrepareGenerateBidsRequestResult where
  rawRequest : Byob.GenerateBidsRawRequest
  percentIgsFiltered : ℚ

def Preparation.State.result (s : Preparation.State) (rawRequest : GetBidsRawRequest)
    (buyerInput : BuyerInputForBidding) (dataVersion : UInt32) (enableKanon : Bool) :
    PrepareGenerateBidsRequestResult where
  rawRequest := generateBidsRawRequest rawRequest buyerInput dataVersion enableKanon
    (s.slots.map Preparation.Slot.ig)
  percentIgsFiltered := (s.filteredIgs.length : ℚ) / max 1 buyerInput.interestGroups.length

section Result

variable (ord : HashOrder) (rawRequest : GetBidsRawRequest) (buyerInput : BuyerInputForBidding)
  (biddingSignalsObj : FlatHashMap String String) (dataVersion : UInt32)
  (config : PriorityVectorConfig) (enableKanon requireBiddingSignals : Bool)

/-- The tasks of a request with these priorities. -/
abbrev tasks (priorities : FlatHashMap String ℚ) (ig : InterestGroup BrowserSignalsForBidding) :
    TaskResult :=
  runTask ord biddingSignalsObj requireBiddingSignals (isNegative config priorities ig) ig

/-- The interest groups of the request are those to be sent, and those that are counted are those
that were dropped for their priority. -/
structure IsExact (s : Preparation.State) : Prop where
  sent : ∃ sent, sent.Perm
      (s.result rawRequest buyerInput dataVersion enableKanon).rawRequest.interestGroupForBidding ∧
    List.Forall₂ (IsSentAs biddingSignalsObj)
      (buyerInput.interestGroups.filter
        (isWanted config biddingSignalsObj requireBiddingSignals)) sent
  filtered : s.filteredIgs.Perm
    (buyerInput.interestGroups.filter (isDropped config requireBiddingSignals))
  percent : (s.result rawRequest buyerInput dataVersion enableKanon).percentIgsFiltered =
    (buyerInput.interestGroups.countP (isDropped config requireBiddingSignals) : ℚ) /
      max 1 buyerInput.interestGroups.length

/-- Preparing ends, in whatever order the tasks run, with exactly the interest groups to be sent. -/
def PreparesExactly : Prop :=
  ∃ priorities, interestGroupPriorities config buyerInput = some priorities ∧
    (Preparation.system (tasks ord biddingSignalsObj config requireBiddingSignals priorities)
      buyerInput.interestGroups).Leads
      (fun s => s.IsDone ∧
        IsExact rawRequest buyerInput biddingSignalsObj dataVersion config enableKanon
          requireBiddingSignals s)
      { waiting := buyerInput.interestGroups }

/-- If there are priorities, there are signals for them, and the last interest group of a name has
a priority of the same sign as every other whose priority is looked at. -/
def PrioritiesAgree : Prop :=
  config.priorityVectorEnabled = true → config.prioritySignals.isSome = true ∧
    ∀ ig ∈ buyerInput.interestGroups, isConsidered requireBiddingSignals ig = true →
      (priorityOfName config buyerInput.interestGroups ig.name < 0 ↔ ownPriority config ig < 0)

end Result

section Exact

variable {ord : HashOrder} {rawRequest : GetBidsRawRequest} {buyerInput : BuyerInputForBidding}
  {biddingSignalsObj : FlatHashMap String String} {dataVersion : UInt32}
  {config : PriorityVectorConfig} {enableKanon requireBiddingSignals : Bool}
  {priorities : FlatHashMap String ℚ}

theorem isNegative_eq (h : interestGroupPriorities config buyerInput = some priorities)
    (ig : InterestGroup BrowserSignalsForBidding) :
    isNegative config priorities ig = (config.priorityVectorEnabled &&
      (priorityOfName config buyerInput.interestGroups ig.name < 0 : Bool)) := by
  unfold isNegative
  cases henabled : config.priorityVectorEnabled with
  | false => rfl
  | true =>
    unfold interestGroupPriorities at h
    rw [if_pos henabled] at h
    obtain ⟨prioritySignals, hsignals, rfl⟩ := Option.map_eq_some_iff.mp h
    have hown : ownPriority config = priority config prioritySignals := by
      funext ig
      unfold ownPriority
      rw [hsignals]
      rfl
    unfold calculateInterestGroupPriorities priorityOfName
    rw [FlatHashMap.lookup_foldl_insert_last, hown]

theorem added?_tasks (h : interestGroupPriorities config buyerInput = some priorities)
    (hagree : PrioritiesAgree buyerInput config requireBiddingSignals)
    {ig : InterestGroup BrowserSignalsForBidding} (hig : ig ∈ buyerInput.interestGroups) :
    (tasks ord biddingSignalsObj config requireBiddingSignals priorities ig).added? =
      if isWanted config biddingSignalsObj requireBiddingSignals ig = true then
        some (igForBidding (getSignalsForIG ord ig.biddingSignalsKeys biddingSignalsObj) ig)
      else none := by
  unfold tasks
  rw [added?_runTask, isNegative_eq h]
  congr 1
  unfold isWanted
  cases henabled : config.priorityVectorEnabled with
  | false => rfl
  | true =>
    by_cases hconsidered : isConsidered requireBiddingSignals ig = true
    · have hsame := (hagree henabled).2 ig hig hconsidered
      have hsign : (!(decide (priorityOfName config buyerInput.interestGroups ig.name < 0))) =
          decide (0 ≤ ownPriority config ig) := by
        rw [← decide_not, decide_eq_decide, not_lt, ← not_lt, hsame, not_lt]
      rw [Bool.true_and, hsign, Bool.not_true, Bool.false_or]
    · -- its priority is not looked at: it has no name or no keys
      unfold isConsidered at hconsidered
      by_cases hname : ig.name = ""
      · simp [hname]
      · have hkeys : requireBiddingSignals = true ∧ ig.biddingSignalsKeys = [] := by
          simpa [hname] using hconsidered
        simp [hkeys.1, hkeys.2]

theorem isFiltered_tasks (h : interestGroupPriorities config buyerInput = some priorities)
    (ig : InterestGroup BrowserSignalsForBidding) :
    Preparation.isFiltered
        (tasks ord biddingSignalsObj config requireBiddingSignals priorities ig) =
      (isConsidered requireBiddingSignals ig && (config.priorityVectorEnabled &&
        (priorityOfName config buyerInput.interestGroups ig.name < 0 : Bool))) := by
  unfold tasks
  rw [isFiltered_runTask, isNegative_eq h]

theorem isFiltered_tasks_eq_isDropped
    (h : interestGroupPriorities config buyerInput = some priorities)
    (hagree : PrioritiesAgree buyerInput config requireBiddingSignals)
    {ig : InterestGroup BrowserSignalsForBidding} (hig : ig ∈ buyerInput.interestGroups) :
    Preparation.isFiltered
        (tasks ord biddingSignalsObj config requireBiddingSignals priorities ig) =
      isDropped config requireBiddingSignals ig := by
  rw [isFiltered_tasks h, ← Bool.and_assoc]
  unfold isDropped
  cases henabled : config.priorityVectorEnabled with
  | false => simp
  | true =>
    cases hconsidered : isConsidered requireBiddingSignals ig with
    | false => rfl
    | true => rw [decide_eq_decide.mpr ((hagree henabled).2 ig hig hconsidered)]

theorem filterMap_if {α β : Type} (p : α → Bool) (f : α → β) (l : List α) :
    (l.filterMap fun a => if p a = true then some (f a) else none) = (l.filter p).map f := by
  induction l with
  | nil => rfl
  | cons a l ih => by_cases h : p a = true <;> simp [h, ih]

theorem isExact_of_accounts (h : interestGroupPriorities config buyerInput = some priorities)
    (hagree : PrioritiesAgree buyerInput config requireBiddingSignals) {s : Preparation.State}
    (hdone : s.IsDone) (haccounts : Preparation.Accounts
      (tasks ord biddingSignalsObj config requireBiddingSignals priorities)
      buyerInput.interestGroups s) :
    IsExact rawRequest buyerInput biddingSignalsObj dataVersion config enableKanon
      requireBiddingSignals s := by
  have hslots := haccounts.slots
  have hfiltered := haccounts.filtered
  rw [hdone.1, List.filterMap_nil, List.append_nil,
    List.filterMap_congr fun ig hig => added?_tasks h hagree hig, filterMap_if] at hslots
  rw [hdone.1, List.filter_nil, List.append_nil,
    List.filter_congr fun ig hig => isFiltered_tasks_eq_isDropped h hagree hig] at hfiltered
  refine ⟨⟨_, hslots.symm, ?_⟩, hfiltered, ?_⟩
  · rw [List.forall₂_map_right_iff, List.forall₂_same]
    exact fun ig _ => isSentAs_igForBidding ord ig
  · show (s.filteredIgs.length : ℚ) / _ = _
    rw [hfiltered.length_eq, List.countP_eq_length_filter]

theorem prioritiesAgree_of_filtered
    (h : interestGroupPriorities config buyerInput = some priorities) {s : Preparation.State}
    (hdone : s.IsDone) (haccounts : Preparation.Accounts
      (tasks ord biddingSignalsObj config requireBiddingSignals priorities)
      buyerInput.interestGroups s)
    (hfiltered : s.filteredIgs.Perm
      (buyerInput.interestGroups.filter (isDropped config requireBiddingSignals))) :
    PrioritiesAgree buyerInput config requireBiddingSignals := by
  intro henabled
  have hsignals : config.prioritySignals.isSome = true := by
    unfold interestGroupPriorities at h
    rw [if_pos henabled] at h
    obtain ⟨prioritySignals, hsignals, -⟩ := Option.map_eq_some_iff.mp h
    rw [hsignals]
    rfl
  refine ⟨hsignals, fun ig hig hconsidered => ?_⟩
  have hcounted := haccounts.filtered
  rw [hdone.1, List.filter_nil, List.append_nil] at hcounted
  have hmem := (hcounted.symm.trans hfiltered).mem_iff (a := ig)
  rw [List.mem_filter, List.mem_filter, and_iff_right hig, and_iff_right hig,
    isFiltered_tasks h] at hmem
  unfold isDropped at hmem
  simpa [henabled, hconsidered] using hmem

theorem prioritiesAgree_of_preparesExactly
    (h : PreparesExactly ord rawRequest buyerInput biddingSignalsObj dataVersion config enableKanon
      requireBiddingSignals) : PrioritiesAgree buyerInput config requireBiddingSignals := by
  obtain ⟨priorities, hpriorities, hleads⟩ := h
  obtain ⟨s, haccounts, hdone, hexact⟩ := hleads.exists_of_invariant
    (fun s event s' hs hstep => hs.step hstep) Preparation.accounts_start
  exact prioritiesAgree_of_filtered hpriorities hdone haccounts hexact.filtered

/-- The interest groups to be sent are sent, and the dropped ones are counted, in whatever order
the tasks run, if and only if the priorities agree. -/
theorem preparesExactly_iff :
    PreparesExactly ord rawRequest buyerInput biddingSignalsObj dataVersion config enableKanon
        requireBiddingSignals ↔
      PrioritiesAgree buyerInput config requireBiddingSignals := by
  refine ⟨prioritiesAgree_of_preparesExactly, fun hagree => ?_⟩
  have hpriorities : ∃ priorities, interestGroupPriorities config buyerInput = some priorities := by
    unfold interestGroupPriorities
    split
    · rename_i henabled
      obtain ⟨prioritySignals, hsignals⟩ := Option.isSome_iff_exists.mp (hagree henabled).1
      exact ⟨_, Option.map_eq_some_iff.mpr ⟨prioritySignals, hsignals, rfl⟩⟩
    · exact ⟨∅, rfl⟩
  obtain ⟨priorities, hpriorities⟩ := hpriorities
  refine ⟨priorities, hpriorities, ?_⟩
  exact (Preparation.leads_to_done Preparation.accounts_start).imp fun s hs =>
    ⟨hs.1, isExact_of_accounts hpriorities hagree hs.1 hs.2⟩

end Exact

/-- Priorities by the age of an interest group, all with an empty vector. -/
def ageConfig (prioritySignals : Option (List (String × Json))) : PriorityVectorConfig where
  priorityVectorEnabled := true
  prioritySignals := prioritySignals
  perIgPriorityVectors := (∅ : FlatHashMap String (List (String × Json))).insert "shoes" []
  calculateDotProduct _ browserSignals _ := if 0 < browserSignals.recency then -1 else 1

/-- Two interest groups of one name, of which the first is the older. -/
def olderGroup : InterestGroup BrowserSignalsForBidding :=
  { name := "shoes", deviceSignals := some (.browser { recency := 2 }) }

def newerGroup : InterestGroup BrowserSignalsForBidding :=
  { name := "shoes", deviceSignals := some (.browser {}) }

/-- Without priority signals nothing is prepared, and the priority of the last interest group of a
name stands for those before it. -/
theorem not_preparesExactly_example :
    ¬ PreparesExactly .stored {} { interestGroups := [olderGroup] } ∅ 0 (ageConfig none)
      false false ∧
    ¬ PreparesExactly .stored {} { interestGroups := [olderGroup, newerGroup] } ∅ 0
      (ageConfig (some [])) false false := by
  constructor
  · rintro ⟨priorities, h, -⟩
    cases h
  · intro h
    have hsame := (prioritiesAgree_of_preparesExactly h rfl).2 olderGroup List.mem_cons_self rfl
    have hown : ownPriority (ageConfig (some [])) olderGroup = -1 := rfl
    have hname : priorityOfName (ageConfig (some [])) [olderGroup, newerGroup] "shoes" = 1 := rfl
    rw [hown] at hsame
    refine absurd (hsame.mpr (by norm_num)) ?_
    show ¬ priorityOfName (ageConfig (some [])) [olderGroup, newerGroup] "shoes" < 0
    rw [hname]
    norm_num

end BuyerFrontEnd

end BiddingAuction

/-!
# The texts for the script

The signals of an interest group are put together by hand as well: each key between quotes as it
is, with the text of its value.
-/

namespace BiddingAuction

open JsonText

namespace BuyerFrontEnd

/-! ## `SerializeSignalsMap` -/

theorem toList_serializeSignalsMap (signals : List (String × String)) :
    (serializeSignalsMap signals).toList =
      objectText (signals.map fun signal => (signal.1.toList, signal.2.toList)) := by
  unfold serializeSignalsMap objectText
  rw [String.toList_append, String.toList_append, String.toList_intercalate, List.map_map,
    List.map_map]
  have hmember : String.toList ∘ (fun signal : String × String =>
        "\"" ++ signal.1 ++ "\":" ++ signal.2) =
      memberText ∘ fun signal => (signal.1.toList, signal.2.toList) := by
    funext signal
    simp [memberText, String.toList_append]
  rw [hmember]
  rfl

/-- A key with the text of its value, and the member they stand for. -/
structure IsSignal (signal : String × String) (member : String × Json) : Prop where
  key : member.1 = signal.1
  parse_eq : parse signal.2 = some member.2

theorem parse_serializeSignalsMap_eq_iff {signals : List (String × String)}
    {members : List (String × Json)} (h : List.Forall₂ IsSignal signals members) :
    parse (serializeSignalsMap signals) = some (.object members) ↔
      ∀ signal ∈ signals, IsClean signal.1.toList := by
  have hmembers : List.Forall₂ IsMember
      (signals.map fun signal => (signal.1.toList, signal.2.toList)) members := by
    rw [List.forall₂_map_left_iff]
    refine h.imp fun signal member hsignal => ?_
    exact ⟨by rw [String.ofList_toList, hsignal.key], parse_eq_some_iff_isText.mp hsignal.parse_eq⟩
  rw [parse_eq_some_iff_isText, toList_serializeSignalsMap, isText_objectText_iff hmembers]
  exact List.forall_mem_map

/-! ## `GetSignalsForIG` -/

section Signals

variable {ord : HashOrder} {biddingSignalsKeys : List String}
  {biddingSignalsObj : FlatHashMap String String}

theorem lookup_of_foldl_emplace {signals : FlatHashMap String String}
    (hsignals : ∀ key text, signals.lookup key = some text →
      biddingSignalsObj.lookup key = some text) {key text : String}
    (h : (biddingSignalsKeys.foldl (fun signals key =>
      match biddingSignalsObj.lookup key with
      | none => signals
      | some value => signals.emplace key value) signals).lookup key = some text) :
    biddingSignalsObj.lookup key = some text := by
  induction biddingSignalsKeys generalizing signals with
  | nil => exact hsignals key text h
  | cons first rest ih =>
    refine ih (fun key' text' hkey => ?_) h
    dsimp only at hkey
    cases hfirst : biddingSignalsObj.lookup first with
    | none =>
      rw [hfirst] at hkey
      exact hsignals key' text' hkey
    | some value =>
      rw [hfirst] at hkey
      by_cases hsame : key' = first
      · subst hsame
        rw [FlatHashMap.lookup_emplace_self] at hkey
        cases hheld : signals.lookup key' with
        | none =>
          rw [hheld] at hkey
          exact hfirst.trans hkey
        | some held =>
          rw [hheld] at hkey
          cases hkey
          exact hsignals key' held hheld
      · rw [FlatHashMap.lookup_emplace_ne hsame] at hkey
        exact hsignals key' text' hkey

theorem exists_entries (ord : HashOrder) (biddingSignalsKeys : List String)
    (biddingSignalsObj : FlatHashMap String String) : ∃ entries : List (String × String),
      getSignalsForIG ord biddingSignalsKeys biddingSignalsObj =
        { json := if entries.isEmpty then "" else serializeSignalsMap entries
          keys := entries.map Prod.fst } ∧
      ∀ key text, (key, text) ∈ entries → biddingSignalsObj.lookup key = some text := by
  refine ⟨_, rfl, fun key text hentry => ?_⟩
  refine lookup_of_foldl_emplace (fun key' text' hnone => ?_) (HashOrder.mem_entries.mp hentry)
  rw [AList.lookup_empty] at hnone
  cases hnone

/-- The text has the signals of the keys of the interest group that there are signals of, each with
its value. -/
structure IsTextOfSignals (ord : HashOrder) (biddingSignalsKeys : List String)
    (biddingSignalsObj : FlatHashMap String String) (value : String → Json) : Prop where
  nodup : (getSignalsForIG ord biddingSignalsKeys biddingSignalsObj).keys.Nodup
  mem_keys (key : String) : key ∈ (getSignalsForIG ord biddingSignalsKeys biddingSignalsObj).keys ↔
    key ∈ biddingSignalsKeys ∧ key ∈ biddingSignalsObj
  empty : (getSignalsForIG ord biddingSignalsKeys biddingSignalsObj).keys = [] →
    (getSignalsForIG ord biddingSignalsKeys biddingSignalsObj).json = ""
  parse_eq : (getSignalsForIG ord biddingSignalsKeys biddingSignalsObj).keys ≠ [] →
    parse (getSignalsForIG ord biddingSignalsKeys biddingSignalsObj).json =
      some (.object ((getSignalsForIG ord biddingSignalsKeys biddingSignalsObj).keys.map
        fun key => (key, value key)))

/-- The signals of an interest group are those of its keys if and only if each key that there are
signals of is clean. -/
theorem isTextOfSignals_iff {value : String → Json}
    (hvalues : ∀ key text, biddingSignalsObj.lookup key = some text →
      parse text = some (value key)) :
    IsTextOfSignals ord biddingSignalsKeys biddingSignalsObj value ↔
      ∀ key ∈ biddingSignalsKeys, key ∈ biddingSignalsObj → IsClean key.toList := by
  obtain ⟨entries, hparsed, hentries⟩ := exists_entries ord biddingSignalsKeys biddingSignalsObj
  have hmem (key : String) : key ∈ entries.map Prod.fst ↔
      key ∈ biddingSignalsKeys ∧ key ∈ biddingSignalsObj := by
    have h := @mem_getSignalsForIG_keys ord biddingSignalsKeys biddingSignalsObj key
    rwa [hparsed] at h
  have hmembers : List.Forall₂ IsSignal entries
      ((entries.map Prod.fst).map fun key => (key, value key)) := by
    rw [List.forall₂_map_right_iff, List.forall₂_map_right_iff, List.forall₂_same]
    rintro ⟨key, text⟩ hentry
    exact ⟨rfl, hvalues key text (hentries key text hentry)⟩
  have hclean : (∀ signal ∈ entries, IsClean signal.1.toList) ↔
      ∀ key ∈ biddingSignalsKeys, key ∈ biddingSignalsObj → IsClean key.toList := by
    constructor
    · intro h key hkey hobj
      obtain ⟨signal, hsignal, rfl⟩ := List.mem_map.mp ((hmem key).mpr ⟨hkey, hobj⟩)
      exact h signal hsignal
    · intro h signal hsignal
      obtain ⟨hkey, hobj⟩ := (hmem signal.1).mp (List.mem_map_of_mem hsignal)
      exact h signal.1 hkey hobj
  rw [← hclean]
  constructor
  · intro h
    have hparse := h.parse_eq
    rw [hparsed] at hparse
    cases entries with
    | nil => exact fun signal hsignal => absurd hsignal List.not_mem_nil
    | cons signal rest =>
      exact (parse_serializeSignalsMap_eq_iff hmembers).mp (hparse (List.cons_ne_nil _ _))
  · intro h
    refine ⟨nodup_getSignalsForIG_keys, fun key => mem_getSignalsForIG_keys, ?_, ?_⟩
    · exact fun hnone => getSignalsForIG_json_eq_empty.mpr hnone
    · rw [hparsed]
      intro hsome
      cases entries with
      | nil => exact absurd rfl hsome
      | cons signal rest => exact (parse_serializeSignalsMap_eq_iff hmembers).mpr h

end Signals

/-! ## Both texts -/

open InterestGroupText (fields IsPlain parse_serializeIG_eq_iff)

/-- For every interest group and all signals, the text of the interest group is that of its fields
if and only if its name is there and clean and no string of its lists is cut, and the text of the
signals is that of their object if and only if each key is clean. -/
theorem handmadeTexts_iff (ig : Byob.InterestGroupForBidding) (userBiddingSignals : Json)
    (ord : HashOrder) (biddingSignalsKeys : List String)
    (biddingSignalsObj : FlatHashMap String String) (value : String → Json)
    (hsignals : ig.userBiddingSignals ≠ "" →
      parse ig.userBiddingSignals = some userBiddingSignals)
    (hvalues : ∀ key text, biddingSignalsObj.lookup key = some text →
      parse text = some (value key)) :
    (parse (serializeIG ig) = some (.object (fields ig userBiddingSignals)) ↔ IsPlain ig) ∧
    (IsTextOfSignals ord biddingSignalsKeys biddingSignalsObj value ↔
      ∀ key ∈ biddingSignalsKeys, key ∈ biddingSignalsObj → IsClean key.toList) :=
  ⟨parse_serializeIG_eq_iff hsignals, isTextOfSignals_iff hvalues⟩

/-- An interest group with user bidding signals, and the signals of one of two keys. -/
theorem handmadeTexts_iff_example :
    let ig : Byob.InterestGroupForBidding :=
      { name := "shoes", adRenderIds := ["1", "2\"3"], userBiddingSignals := "\"warm\"" }
    let biddingSignalsObj : FlatHashMap String String := AList.singleton "red" "\"dark\""
    parse (serializeIG ig) = some (.object (fields ig (.string "warm"))) ∧
      IsTextOfSignals .stored ["red", "blue"] biddingSignalsObj fun _ => .string "dark" := by
  intro ig biddingSignalsObj
  have hwarm : parse "\"warm\"" = some (.string "warm") :=
    parse_eq_some_iff_isText.mpr (@isText_quoted "warm".toList (by decide))
  have hdark : parse "\"dark\"" = some (.string "dark") :=
    parse_eq_some_iff_isText.mpr (@isText_quoted "dark".toList (by decide))
  have hvalues : ∀ key text, biddingSignalsObj.lookup key = some text →
      parse text = some (.string "dark") := by
    intro key text hlookup
    by_cases hkey : key = "red"
    · subst hkey
      cases hlookup
      exact hdark
    · rw [AList.lookup_eq_none.mpr fun hmem => hkey (List.mem_singleton.mp hmem)] at hlookup
      cases hlookup
  obtain ⟨hgroup, htext⟩ := handmadeTexts_iff ig (.string "warm") .stored ["red", "blue"]
    biddingSignalsObj (fun _ => .string "dark") (fun _ => hwarm) hvalues
  refine ⟨hgroup.mpr ⟨by decide, by decide, by simp [ig], ?_, by simp [ig]⟩, htext.mpr ?_⟩
  · decide
  · decide

theorem not_handmadeTexts_example :
    ¬ ∀ (ig : Byob.InterestGroupForBidding) (userBiddingSignals : Json) (ord : HashOrder)
      (biddingSignalsKeys : List String) (biddingSignalsObj : FlatHashMap String String)
      (value : String → Json),
      (ig.userBiddingSignals ≠ "" → parse ig.userBiddingSignals = some userBiddingSignals) →
      (∀ key text, biddingSignalsObj.lookup key = some text → parse text = some (value key)) →
      parse (serializeIG ig) = some (.object (fields ig userBiddingSignals)) ∧
        IsTextOfSignals ord biddingSignalsKeys biddingSignalsObj value := by
  intro h
  have hsignals : ("" : String) ≠ "" → parse "" = some Json.null := fun hne => absurd rfl hne
  have hvalues : ∀ key text, (∅ : FlatHashMap String String).lookup key = some text →
      parse text = some Json.null := by
    intro key text hlookup
    rw [AList.lookup_empty] at hlookup
    cases hlookup
  have hread := (h { name := "say \"hi\"" } .null .stored [] ∅ (fun _ => .null) hsignals hvalues).1
  have hclean := ((parse_serializeIG_eq_iff hsignals).mp hread).isClean
  exact absurd hclean (by decide)

end BuyerFrontEnd

end BiddingAuction

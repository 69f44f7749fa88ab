import BiddingAuction.Bidding.PasReactor

/-!
# The bidding call finishes once

A call is in one place: not started, under way in a callback, finished, or gone with the
process. Every handler takes it from one place to another, so `EncryptResponseAndFinish`
is called at most once, and once unless the process ends.
-/

namespace BiddingAuction

open Foundation

namespace PasBidding

namespace Reactor

variable {u : Setup} {lib : Library} {o : Outcome} {r r' : Reactor}

/-! ## How a handler leaves -/

def places (r : Reactor) : ℕ :=
  r.pending.length + r.encryptedAndFinished.length + r.aborted.toNat

/-- The batches of `generateBid` that were executed. -/
def generateBids (r : Reactor) : List (List DispatchRequest) :=
  (r.executions.filter fun execution => execution.1 = .generateBid).map Prod.snd

/-- A handler finishes the call, or waits for a callback with `P`, or the process ends. -/
structure Left (P : Pending → Prop) (r r' : Reactor) : Prop where
  places : r'.places = r.places + 1
  pending : r'.pending = r.pending ∨ ∃ p, P p ∧ r'.pending = p :: r.pending
  executed : r'.executed = r.executed

section Exits

variable {P : Pending → Prop}

theorem Left.of_same {r₁ : Reactor} (h : Left P r₁ r') (hpending : r₁.pending = r.pending)
    (hfinished : r₁.encryptedAndFinished = r.encryptedAndFinished)
    (haborted : r₁.aborted = r.aborted) (hexecuted : r₁.executed = r.executed) : Left P r r' := by
  refine ⟨?_, ?_, ?_⟩
  · rw [h.places, Reactor.places, Reactor.places, hpending, hfinished, haborted]
  · rw [← hpending]
    exact h.pending
  · rw [h.executed, hexecuted]

theorem left_finish {status : Status} : Left P r (r.encryptResponseAndFinish o status) := by
  refine ⟨?_, .inl rfl, rfl⟩
  simp only [Reactor.places, encryptResponseAndFinish, List.length_cons]
  omega

theorem left_await {p : Pending} (hp : P p) : Left P r (r.await p) := by
  refine ⟨?_, .inr ⟨p, hp, rfl⟩, rfl⟩
  simp only [Reactor.places, await, List.length_cons]
  omega

theorem left_abort (halive : r.aborted = false) : Left P r r.abort := by
  refine ⟨?_, .inl rfl, rfl⟩
  simp only [Reactor.places, abort, halive, Bool.toNat_true, Bool.toNat_false]

theorem left_executeRomaRequests {call : RomaCall} {requests : List DispatchRequest}
    (hp : P (.roma call)) : Left P r (r.executeRomaRequests u o call requests) := by
  unfold executeRomaRequests
  split
  · exact left_finish
  · suffices Left P { r with executions := (call, requests) :: r.executions } _ from
      this.of_same rfl rfl rfl rfl
    split
    · exact left_await hp
    · exact left_finish

theorem left_fetch {source : AdsSource} {prepared : String} (halive : r.aborted = false)
    (hp : P (.ads source prepared)) : Left P r (r.fetch u o source prepared) := by
  unfold fetch
  split
  · exact left_finish
  · dsimp only
    split
    · exact left_abort halive
    · let request := u.createAdsRequest source r.metadata prepared
      suffices Left P { r with fetches := request :: r.fetches } _ from
        this.of_same rfl rfl rfl rfl
      split
      · exact left_await hp
      · exact left_finish

end Exits

/-- What `Execute` waits for. -/
def Started (u : Setup) (p : Pending) : Prop :=
  p = if u.isContextualRetrievalRequest then .ads .kv "" else .roma .prepareDataForAdRetrieval

/-- What the script prepared, as it is read from what it returned. -/
def PreparedFrom (lib : Library) (result : List (Except String String)) (prepared : String) :
    Prop :=
  ∃ response document value, result = [.ok response] ∧
    lib.parseJsonString response = .ok document ∧
    document.findMember "response" = some value ∧ lib.serializeJsonDoc value = .ok prepared

theorem validateRomaResponse_eq_ok {result : List (Except String String)} {response : String} :
    validateRomaResponse result = .ok response ↔ result = [.ok response] := by
  unfold validateRomaResponse
  split <;> simp_all

theorem left_execute (u : Setup) (o : Outcome) (halive : r.aborted = false) :
    Left (Started u) { r with executed := true } (r.execute u o) := by
  unfold execute
  dsimp only
  split
  · exact left_finish
  · split
    · exact left_finish
    · split
      · rename_i metadata _ hcontextual
        unfold startContextualAdsRetrieval fetchAdsMetadata
        refine Left.of_same (left_fetch ?_ ?_) rfl rfl rfl rfl
        · exact halive
        · rw [Started, if_pos hcontextual]
      · rename_i hcontextual
        unfold startNonContextualAdsRetrieval
        refine Left.of_same (left_executeRomaRequests ?_) rfl rfl rfl rfl
        rw [Started, if_neg hcontextual]

theorem left_onPrepareDataForAdRetrievalDone (u : Setup) (lib : Library) (o : Outcome)
    (result : List (Except String String)) (halive : r.aborted = false) :
    Left (fun p => ∃ prepared, p = .ads .adRetrieval prepared ∧ PreparedFrom lib result prepared) r
      (r.onPrepareDataForAdRetrievalDone u lib o result) := by
  unfold onPrepareDataForAdRetrievalDone
  split
  · exact left_finish
  · split
    · exact left_finish
    · rename_i response hresponse
      split
      · exact left_abort halive
      · exact left_finish
      · rename_i prepared hparsed
        obtain ⟨document, value, hdocument, hvalue, hprepared⟩ :=
          JsonTexts.parsePreparedData_eq_ok.mp hparsed
        exact left_fetch halive ⟨prepared, rfl, response, document, value,
          validateRomaResponse_eq_ok.mp hresponse, hdocument, hvalue, hprepared⟩

theorem left_onAdsResult (u : Setup) (o : Outcome) (r : Reactor) (result : Except String String)
    (prepared : String) :
    Left (fun p => p = .roma .generateBid) r (r.onAdsResult u o result prepared) := by
  unfold onAdsResult
  split
  · exact left_finish
  · split
    · exact left_finish
    · unfold onFetchAdsDataDone
      split
      · exact left_finish
      · refine Left.of_same (left_executeRomaRequests ?_) rfl rfl rfl rfl
        rfl

theorem left_onGenerateBidDone (u : Setup) (lib : Library) (o : Outcome)
    (result : List (Except String String)) (halive : r.aborted = false) :
    Left (fun _ => False) r (r.onGenerateBidDone u lib o result) := by
  unfold onGenerateBidDone
  split
  · exact left_finish
  · split
    · exact left_finish
    · split
      · exact left_abort halive
      · exact left_finish
      · exact Left.of_same left_finish rfl rfl rfl rfl

/-! ## What a handler sends -/

def Unsent (r : Reactor) : Prop := r.dispatchRequests = [] ∧ r.generateBids = []

theorem unsent_executeRomaRequests {requests : List DispatchRequest} (h : r.Unsent) :
    (r.executeRomaRequests u o .prepareDataForAdRetrieval requests).Unsent := by
  unfold executeRomaRequests
  split
  · exact h
  · dsimp only
    split <;> exact h

theorem unsent_fetch {source : AdsSource} {prepared : String} (h : r.Unsent) :
    (r.fetch u o source prepared).Unsent := by
  unfold fetch
  split
  · exact h
  · dsimp only
    split
    · exact h
    · split <;> exact h

theorem unsent_execute (h : r.Unsent) : (r.execute u o).Unsent := by
  unfold execute
  dsimp only
  split
  · exact h
  · split
    · exact h
    · split
      · exact unsent_fetch h
      · exact unsent_executeRomaRequests h

theorem unsent_onPrepareDataForAdRetrievalDone {result : List (Except String String)}
    (h : r.Unsent) : (r.onPrepareDataForAdRetrievalDone u lib o result).Unsent := by
  unfold onPrepareDataForAdRetrievalDone
  split
  · exact h
  · split
    · exact h
    · split
      · exact h
      · exact h
      · exact unsent_fetch h

theorem generateBids_onAdsResult (u : Setup) (o : Outcome) (r : Reactor)
    (result : Except String String) (prepared : String) :
    (r.onAdsResult u o result prepared).generateBids = r.generateBids ∨
      ∃ adsData, result = .ok adsData ∧ adsData ≠ "" ∧
        (r.onAdsResult u o result prepared).generateBids =
          (r.dispatchRequests ++ [u.createGenerateBidsRequest adsData prepared]) ::
            r.generateBids := by
  unfold onAdsResult
  split
  · exact .inl rfl
  · split
    · exact .inl rfl
    · rename_i adsData
      unfold onFetchAdsDataDone
      split
      · exact .inl rfl
      · rename_i hne
        unfold executeRomaRequests
        dsimp only
        split
        · exact .inl rfl
        · refine .inr ⟨adsData, rfl, hne, ?_⟩
          split <;> rfl

theorem generateBids_onGenerateBidDone {result : List (Except String String)} :
    (r.onGenerateBidDone u lib o result).generateBids = r.generateBids := by
  unfold onGenerateBidDone
  split
  · rfl
  · split
    · rfl
    · split <;> rfl

/-! ## Steps -/

theorem step_execute (h : r.step u lib (.execute o) = some r') :
    r.aborted = false ∧ r.executed = false ∧ r' = r.execute u o := by
  simp only [step] at h
  split at h
  · cases h
  · rename_i halive
    split at h
    · cases h
    · rename_i hexecuted
      exact ⟨by simpa using halive, by simpa using hexecuted, (Option.some.inj h).symm⟩

theorem step_romaDone {call : RomaCall} {result : List (Except String String)}
    (h : r.step u lib (.romaDone call result o) = some r') :
    r.aborted = false ∧ .roma call ∈ r.pending ∧
      r' = (r.take (.roma call)).romaDone u lib o call result := by
  simp only [step] at h
  split at h
  · cases h
  · rename_i halive
    split at h
    · rename_i hpending
      exact ⟨by simpa using halive, hpending, (Option.some.inj h).symm⟩
    · cases h

theorem step_adsDone {source : AdsSource} {prepared : String} {result : Except String String}
    (h : r.step u lib (.adsDone source prepared result o) = some r') :
    r.aborted = false ∧ .ads source prepared ∈ r.pending ∧
      r' = (r.take (.ads source prepared)).onAdsResult u o result prepared := by
  simp only [step] at h
  split at h
  · cases h
  · rename_i halive
    split at h
    · rename_i hpending
      exact ⟨by simpa using halive, hpending, (Option.some.inj h).symm⟩
    · cases h

/-! ## Runs -/

/-- How the data of a fetch was prepared: by the script, or not at all with contextual
ads. -/
def PreparedFor (u : Setup) (lib : Library) (trace : List Event) (prepared : String) :
    AdsSource → Prop
  | .kv => u.isContextualRetrievalRequest = true ∧ prepared = ""
  | .adRetrieval => u.isContextualRetrievalRequest = false ∧ ∃ result o,
      Event.romaDone .prepareDataForAdRetrieval result o ∈ trace ∧ PreparedFrom lib result prepared

/-- A batch asks for the bids of ads data that has come, and of what was prepared for it. -/
def Sent (u : Setup) (lib : Library) (trace : List Event) (requests : List DispatchRequest) :
    Prop :=
  ∃ source prepared adsData o, Event.adsDone source prepared (.ok adsData) o ∈ trace ∧
    adsData ≠ "" ∧ PreparedFor u lib trace prepared source ∧
    requests = [u.createGenerateBidsRequest adsData prepared]

theorem PreparedFor.cons {trace : List Event} {prepared : String} {source : AdsSource}
    (h : PreparedFor u lib trace prepared source) (e : Event) :
    PreparedFor u lib (e :: trace) prepared source := by
  cases source with
  | kv => exact h
  | adRetrieval =>
    obtain ⟨hmode, result, o, hmem, hprepared⟩ := h
    exact ⟨hmode, result, o, List.mem_cons_of_mem _ hmem, hprepared⟩

theorem Sent.cons {trace : List Event} {requests : List DispatchRequest}
    (h : Sent u lib trace requests) (e : Event) : Sent u lib (e :: trace) requests := by
  obtain ⟨source, prepared, adsData, o, hmem, hne, hprepared, hrequests⟩ := h
  exact ⟨source, prepared, adsData, o, List.mem_cons_of_mem _ hmem, hne, hprepared.cons e,
    hrequests⟩

/-- The invariant of a call. -/
structure Placed (u : Setup) (lib : Library) (trace : List Event) (r : Reactor) : Prop where
  /-- The call is in one place. -/
  once : (!r.executed).toNat + r.places = 1
  /-- Before the ads data has come no bids are asked for. -/
  unsent : (r.executed = false ∨ ∃ p ∈ r.pending, p ≠ .roma .generateBid) → r.Unsent
  dispatches : r.generateBids.length ≤ 1
  /-- A script runs first exactly if there are no contextual ads. -/
  prepares : .roma .prepareDataForAdRetrieval ∈ r.pending → u.isContextualRetrievalRequest = false
  prepared : ∀ source prepared, .ads source prepared ∈ r.pending →
    PreparedFor u lib trace prepared source
  sent : ∀ requests ∈ r.generateBids, Sent u lib trace requests

theorem Placed.start : Placed u lib [] {} := by
  refine ⟨rfl, fun _ => ⟨rfl, rfl⟩, Nat.zero_le _, ?_, ?_, ?_⟩
  · intro h
    cases h
  · intro _ _ h
    cases h
  · intro _ h
    cases h

theorem Placed.pending_eq {trace : List Event} (h : Placed u lib trace r) {p : Pending}
    (hp : p ∈ r.pending) :
    r.pending = [p] ∧ r.executed = true ∧ r.encryptedAndFinished = [] ∧ r.aborted = false := by
  have honce := h.once
  rw [Reactor.places] at honce
  have hpos := List.length_pos_of_mem hp
  have hlength : r.pending.length = 1 := by omega
  obtain ⟨q, hq⟩ := List.length_eq_one_iff.mp hlength
  rw [hq, List.mem_singleton] at hp
  refine ⟨hp ▸ hq, ?_, List.eq_nil_of_length_eq_zero (by omega), ?_⟩
  · cases hexecuted : r.executed with
    | true => rfl
    | false =>
      rw [hexecuted, Bool.not_false, Bool.toNat_true] at honce
      omega
  · cases haborted : r.aborted with
    | false => rfl
    | true =>
      rw [haborted, Bool.toNat_true] at honce
      omega

theorem places_take {p : Pending} (hp : r.pending = [p]) : (r.take p).places + 1 = r.places := by
  simp only [Reactor.places, take, hp, List.erase_cons_head, List.length_nil, List.length_cons]
  omega

theorem Left.once {P : Pending → Prop} {p : Pending} (left : Left P (r.take p) r')
    (hp : r.pending = [p]) (honce : (!r.executed).toNat + r.places = 1) :
    (!r'.executed).toNat + r'.places = 1 := by
  have htake := places_take hp
  rw [left.executed, left.places]
  show (!r.executed).toNat + ((r.take p).places + 1) = 1
  omega

theorem Left.mem_pending {P : Pending → Prop} {p : Pending} (left : Left P (r.take p) r')
    (hp : r.pending = [p]) {q : Pending} (hq : q ∈ r'.pending) : P q := by
  have htake : (r.take p).pending = [] := by simp [take, hp]
  rcases left.pending with hsame | ⟨p', hP, hcons⟩
  · rw [hsame, htake] at hq
    cases hq
  · rw [hcons, htake, List.mem_singleton] at hq
    exact hq ▸ hP

theorem Placed.sent_cons {trace : List Event} (h : Placed u lib trace r) (e : Event) :
    ∀ requests ∈ r.generateBids, Sent u lib (e :: trace) requests :=
  fun requests hrequests => (h.sent requests hrequests).cons e

theorem Placed.execute {trace : List Event} (h : Placed u lib trace r) (halive : r.aborted = false)
    (hexecuted : r.executed = false) : Placed u lib (.execute o :: trace) (r.execute u o) := by
  have left := left_execute u o halive
  have honce := h.once
  rw [hexecuted, Bool.not_false, Bool.toNat_true] at honce
  have hnone : r.pending = [] := by
    rw [Reactor.places] at honce
    exact List.eq_nil_of_length_eq_zero (by omega)
  have hunsent : (r.execute u o).Unsent := unsent_execute (h.unsent (.inl hexecuted))
  have hstarted : ∀ p ∈ (r.execute u o).pending, Started u p := by
    intro p hp
    rcases left.pending with hsame | ⟨q, hq, hcons⟩
    · rw [hsame] at hp
      exact absurd (hnone ▸ hp) List.not_mem_nil
    · rw [hcons] at hp
      exact (List.mem_singleton.mp (hnone ▸ hp)) ▸ hq
  refine ⟨?_, fun _ => hunsent, by simp [hunsent.2], ?_, ?_, by simp [hunsent.2]⟩
  · rw [left.executed, left.places]
    show 0 + (r.places + 1) = 1
    omega
  · intro hp
    have hstart := hstarted _ hp
    unfold Started at hstart
    split at hstart
    · cases hstart
    · rename_i hmode
      simpa using hmode
  · intro source prepared hp
    have hstart := hstarted _ hp
    unfold Started at hstart
    split at hstart
    · rename_i hmode
      cases hstart
      exact ⟨hmode, rfl⟩
    · cases hstart

theorem Placed.prepareDone {trace : List Event} {result : List (Except String String)}
    (h : Placed u lib trace r) (hp : .roma .prepareDataForAdRetrieval ∈ r.pending) :
    Placed u lib (.romaDone .prepareDataForAdRetrieval result o :: trace)
      ((r.take (.roma .prepareDataForAdRetrieval)).onPrepareDataForAdRetrievalDone u lib o
        result) := by
  obtain ⟨hpending, -, -, halive⟩ := h.pending_eq hp
  have left := left_onPrepareDataForAdRetrievalDone
    (r := r.take (.roma .prepareDataForAdRetrieval)) u lib o result halive
  have hunsent : ((r.take (.roma .prepareDataForAdRetrieval)).onPrepareDataForAdRetrievalDone u lib
      o result).Unsent :=
    unsent_onPrepareDataForAdRetrievalDone (h.unsent (.inr ⟨_, hp, by simp⟩))
  refine ⟨left.once hpending h.once, fun _ => hunsent, by simp [hunsent.2], ?_, ?_,
    by simp [hunsent.2]⟩
  · intro hq
    obtain ⟨_, hads, -⟩ := left.mem_pending hpending hq
    cases hads
  · intro source prepared hq
    obtain ⟨_, hads, hprepared⟩ := left.mem_pending hpending hq
    cases hads
    exact ⟨h.prepares hp, result, o, List.mem_cons_self, hprepared⟩

theorem Placed.adsDone {trace : List Event} {source : AdsSource} {prepared : String}
    {result : Except String String} (h : Placed u lib trace r)
    (hp : .ads source prepared ∈ r.pending) :
    Placed u lib (.adsDone source prepared result o :: trace)
      ((r.take (.ads source prepared)).onAdsResult u o result prepared) := by
  obtain ⟨hpending, hexecuted, -, -⟩ := h.pending_eq hp
  have left := left_onAdsResult u o (r.take (.ads source prepared)) result prepared
  obtain ⟨hrequests, hbids⟩ := h.unsent (.inr ⟨_, hp, by simp⟩)
  have hbids' : (r.take (.ads source prepared)).generateBids = [] := hbids
  have hprepared := (h.prepared source prepared hp).cons (.adsDone source prepared result o)
  refine ⟨left.once hpending h.once, ?_, ?_, ?_, ?_, ?_⟩
  · rintro (hnot | ⟨q, hq, hne⟩)
    · rw [left.executed] at hnot
      exact absurd (hexecuted.symm.trans hnot) (by simp)
    · exact absurd (left.mem_pending hpending hq) hne
  · rcases generateBids_onAdsResult u o (r.take (.ads source prepared)) result prepared with
      hsame | ⟨adsData, -, -, hcons⟩
    · rw [hsame, hbids']
      exact Nat.zero_le _
    · rw [hcons, hbids']
      exact le_rfl
  · intro hq
    cases left.mem_pending hpending hq
  · intro _ _ hq
    cases left.mem_pending hpending hq
  · rcases generateBids_onAdsResult u o (r.take (.ads source prepared)) result prepared with
      hsame | ⟨adsData, rfl, hne, hcons⟩
    · rw [hsame, hbids']
      simp
    · intro requests hmem
      rw [hcons, hbids', List.mem_singleton] at hmem
      refine ⟨source, prepared, adsData, o, List.mem_cons_self, hne, hprepared, ?_⟩
      rw [hmem]
      show r.dispatchRequests ++ _ = _
      rw [hrequests, List.nil_append]

theorem Placed.generateBidDone {trace : List Event} {result : List (Except String String)}
    (h : Placed u lib trace r) (hp : .roma .generateBid ∈ r.pending) :
    Placed u lib (.romaDone .generateBid result o :: trace)
      ((r.take (.roma .generateBid)).onGenerateBidDone u lib o result) := by
  obtain ⟨hpending, hexecuted, -, halive⟩ := h.pending_eq hp
  have left := left_onGenerateBidDone (r := r.take (.roma .generateBid)) u lib o result halive
  have hbids : ((r.take (.roma .generateBid)).onGenerateBidDone u lib o result).generateBids =
      r.generateBids := generateBids_onGenerateBidDone
  refine ⟨left.once hpending h.once, ?_, hbids ▸ h.dispatches, ?_, ?_, ?_⟩
  · rintro (hnot | ⟨q, hq, -⟩)
    · rw [left.executed] at hnot
      exact absurd (hexecuted.symm.trans hnot) (by simp)
    · exact (left.mem_pending hpending hq).elim
  · exact fun hq => (left.mem_pending hpending hq).elim
  · exact fun _ _ hq => (left.mem_pending hpending hq).elim
  · rw [hbids]
    exact h.sent_cons _

theorem Placed.step {trace : List Event} {e : Event} (h : Placed u lib trace r)
    (hstep : r.step u lib e = some r') : Placed u lib (e :: trace) r' := by
  cases e with
  | execute o =>
    obtain ⟨halive, hexecuted, rfl⟩ := step_execute hstep
    exact h.execute halive hexecuted
  | romaDone call result o =>
    obtain ⟨-, hp, rfl⟩ := step_romaDone hstep
    cases call with
    | prepareDataForAdRetrieval => exact h.prepareDone hp
    | generateBid => exact h.generateBidDone hp
  | adsDone source prepared result o =>
    obtain ⟨-, hp, rfl⟩ := step_adsDone hstep
    exact h.adsDone hp

theorem placed_of_run {trace : List Event} (run : (system u lib).Run trace r) :
    Placed u lib trace r := by
  refine run.invariant ?_ ?_
  · rintro r rfl
    exact .start
  · rintro trace r e r' h - hstep
    exact h.step hstep

/-! ## The end of a call -/

def IsOver (u : Setup) (lib : Library) (r : Reactor) : Prop := ∀ e, r.step u lib e = none

theorem isOver_iff : IsOver u lib r ↔ r.aborted = true ∨ r.executed = true ∧ r.pending = [] := by
  constructor
  · intro hover
    by_cases haborted : r.aborted = true
    · exact .inl haborted
    · refine .inr ⟨?_, ?_⟩
      · have hexecute := hover (.execute {})
        simp only [step, haborted] at hexecute
        by_contra hnot
        simp [hnot] at hexecute
      · refine List.eq_nil_iff_forall_not_mem.mpr fun p hp => ?_
        cases p with
        | roma call =>
          have hdone := hover (.romaDone call [] {})
          simp [step, haborted, hp] at hdone
        | ads source prepared =>
          have hdone := hover (.adsDone source prepared (.ok "") {})
          simp [step, haborted, hp] at hdone
  · rintro (haborted | ⟨hexecuted, hnone⟩) e
    · simp [step, haborted]
    · cases e <;> simp [step, hexecuted, hnone]

/-- How many callbacks may still come after one is awaited, itself counted. -/
def weight : Pending → ℕ
  | .roma .prepareDataForAdRetrieval => 3
  | .ads _ _ => 2
  | .roma .generateBid => 1

def rank (r : Reactor) : ℕ := (if r.executed then 0 else 4) + total weight r.pending

theorem Left.rank_lt {P : Pending → Prop} {p : Pending} (left : Left P (r.take p) r')
    (hp : r.pending = [p]) (hexecuted : r.executed = true)
    (hless : ∀ q, P q → weight q < weight p) (hpos : 0 < weight p) : r'.rank < r.rank := by
  have htake : (r.take p).pending = [] := by simp [take, hp]
  have hexecuted' : r'.executed = true := left.executed.trans hexecuted
  unfold rank
  rw [hexecuted, hexecuted', hp]
  rcases left.pending with hsame | ⟨q, hq, hcons⟩
  · rw [hsame, htake]
    simpa using hpos
  · rw [hcons, htake]
    simpa using hless q hq

theorem rank_lt_of_step {trace : List Event} {e : Event} (h : Placed u lib trace r)
    (hstep : r.step u lib e = some r') : r'.rank < r.rank := by
  cases e with
  | execute o =>
    obtain ⟨halive, hexecuted, rfl⟩ := step_execute hstep
    have left := left_execute u o halive
    have hexecuted' : (r.execute u o).executed = true := left.executed
    have hnone : r.pending = [] := by
      have honce := h.once
      rw [hexecuted, Bool.not_false, Bool.toNat_true, Reactor.places] at honce
      exact List.eq_nil_of_length_eq_zero (by omega)
    unfold rank
    rw [hexecuted', hexecuted, hnone]
    rcases left.pending with hsame | ⟨q, hq, hcons⟩
    · rw [hsame, hnone]
      simp
    · rw [hcons, hnone]
      unfold Started at hq
      split at hq <;> simp [hq, weight]
  | romaDone call result o =>
    obtain ⟨halive, hp, rfl⟩ := step_romaDone hstep
    obtain ⟨hpending, hexecuted, -, -⟩ := h.pending_eq hp
    cases call with
    | prepareDataForAdRetrieval =>
      refine (left_onPrepareDataForAdRetrievalDone
        (r := r.take (.roma .prepareDataForAdRetrieval)) u lib o result halive).rank_lt hpending
        hexecuted ?_ (by simp [weight])
      rintro _ ⟨prepared, rfl, -⟩
      simp [weight]
    | generateBid =>
      refine (left_onGenerateBidDone (r := r.take (.roma .generateBid)) u lib o result
        halive).rank_lt hpending hexecuted ?_ (by simp [weight])
      exact fun _ h => h.elim
  | adsDone source prepared result o =>
    obtain ⟨-, hp, rfl⟩ := step_adsDone hstep
    obtain ⟨hpending, hexecuted, -, -⟩ := h.pending_eq hp
    refine (left_onAdsResult u o _ result prepared).rank_lt hpending hexecuted ?_
      (by simp [weight])
    rintro _ rfl
    simp [weight]

theorem leads_to_end {trace : List Event} (h : Placed u lib trace r) :
    (system u lib).Leads (IsOver u lib) r :=
  LTS.ofStep_leads_to_end (I := Placed u lib) (fun _ _ _ _ h hstep => h.step hstep)
    (fun _ _ _ _ h hstep => rank_lt_of_step h hstep) h

/-! ## The process goes on -/

/-- The handler reaches no client that is not there, and reads no member `response` that
is not there and no logs that are not strings. -/
def IsClean (u : Setup) (lib : Library) : Event → Prop
  | .execute o =>
    (u.enableCancellation && o.isCancelled) = false →
      (∃ metadata, grpcMetadataToRequestMetadata u.clientMetadata = .ok metadata) →
      u.isContextualRetrievalRequest = true →
      (u.enableCancellation && o.isCancelledAtNext) = false → u.kvAsyncClient = true
  | .romaDone .prepareDataForAdRetrieval result o =>
    (u.enableCancellation && o.isCancelled) = false → ∀ response document,
      result = [.ok response] → lib.parseJsonString response = .ok document →
      ∃ value, document.findMember "response" = some value ∧
        ((∃ prepared, lib.serializeJsonDoc value = .ok prepared) →
          (u.enableCancellation && o.isCancelledAtNext) = false → u.adRetrievalAsyncClient = true)
  | .romaDone .generateBid result o =>
    (u.enableCancellation && o.isCancelled) = false → ∀ response document,
      result = [.ok response] → lib.parseJsonString response = .ok document →
      u.enableAdtechCodeLogging = true → document.isLoggedResponse = true
  | .adsDone _ _ _ _ => True

theorem aborted_executeRomaRequests {call : RomaCall} {requests : List DispatchRequest} :
    (r.executeRomaRequests u o call requests).aborted = r.aborted := by
  unfold executeRomaRequests
  split
  · rfl
  · dsimp only
    split <;> rfl

theorem aborted_fetch {source : AdsSource} {prepared : String} (halive : r.aborted = false) :
    (r.fetch u o source prepared).aborted = false ↔
      ((u.enableCancellation && o.isCancelledAtNext) = false → u.hasClient source = true) := by
  unfold fetch
  split
  · rename_i hcancelled
    simp [encryptResponseAndFinish, halive, hcancelled]
  · rename_i hcancelled
    dsimp only
    split
    · rename_i hclient
      simp only [abort, Bool.true_eq_false, false_iff]
      intro hall
      simp [hall (by simpa using hcancelled)] at hclient
    · rename_i hclient
      have hclient' : u.hasClient source = true := by simpa using hclient
      split <;> simp [encryptResponseAndFinish, await, halive, hclient']

theorem aborted_execute (halive : r.aborted = false) :
    (r.execute u o).aborted = false ↔ IsClean u lib (.execute o) := by
  unfold execute
  dsimp only
  split
  · rename_i hcancelled
    refine iff_of_true halive fun hnot => ?_
    rw [hcancelled] at hnot
    cases hnot
  · rename_i hcancelled
    have hcancelled' : (u.enableCancellation && o.isCancelled) = false := by
      simpa using hcancelled
    split
    · rename_i status hmetadata
      refine iff_of_true halive fun _ ⟨metadata, hok⟩ => ?_
      rw [hmetadata] at hok
      cases hok
    · rename_i metadata hmetadata
      split
      · rename_i hmode
        unfold startContextualAdsRetrieval fetchAdsMetadata
        rw [aborted_fetch (by exact halive)]
        exact ⟨fun h _ _ _ => h, fun h => h hcancelled' ⟨metadata, hmetadata⟩ hmode⟩
      · rename_i hmode
        refine iff_of_true ?_ fun _ _ hmode' => absurd hmode' hmode
        exact aborted_executeRomaRequests.trans halive

theorem aborted_onPrepareDataForAdRetrievalDone {result : List (Except String String)}
    (halive : r.aborted = false) :
    (r.onPrepareDataForAdRetrievalDone u lib o result).aborted = false ↔
      IsClean u lib (.romaDone .prepareDataForAdRetrieval result o) := by
  unfold onPrepareDataForAdRetrievalDone
  split
  · rename_i hcancelled
    refine iff_of_true halive fun hnot => ?_
    rw [hcancelled] at hnot
    cases hnot
  · rename_i hcancelled
    have hcancelled' : (u.enableCancellation && o.isCancelled) = false := by
      simpa using hcancelled
    split
    · rename_i status hstatus
      refine iff_of_true halive fun _ response _ hresult => ?_
      rw [validateRomaResponse_eq_ok.mpr hresult] at hstatus
      cases hstatus
    · rename_i response hresponse
      have hresult := validateRomaResponse_eq_ok.mp hresponse
      cases hparse : lib.parseJsonString response with
      | error status =>
        unfold JsonTexts.parsePreparedData
        rw [hparse]
        refine iff_of_true halive fun _ response' document hresult' hdocument => ?_
        cases hresult.symm.trans hresult'
        rw [hparse] at hdocument
        cases hdocument
      | ok document =>
        have hclean : IsClean u lib (.romaDone .prepareDataForAdRetrieval result o) ↔
            ∃ value, document.findMember "response" = some value ∧
              ((∃ prepared, lib.serializeJsonDoc value = .ok prepared) →
                (u.enableCancellation && o.isCancelledAtNext) = false →
                  u.adRetrievalAsyncClient = true) := by
          constructor
          · intro h
            exact h hcancelled' response document hresult hparse
          · rintro h - response' document' hresult' hdocument'
            cases hresult.symm.trans hresult'
            cases hparse.symm.trans hdocument'
            exact h
        rw [hclean, JsonTexts.parsePreparedData_guarded hparse]
        unfold Json.hasResponse Json.responseRead
        cases hvalue : document.findMember "response" with
        | none =>
          refine iff_of_false ?_ fun ⟨_, h, _⟩ => nomatch h
          show r.abort.aborted ≠ false
          exact Bool.noConfusion
        | some value =>
          rw [Option.isSome_some, guarded_true, Option.getD_some]
          cases hprepared : lib.serializeJsonDoc value with
          | error status =>
            refine iff_of_true halive ⟨value, rfl, fun ⟨prepared, h⟩ => ?_⟩
            rw [hprepared] at h
            cases h
          | ok prepared =>
            refine (aborted_fetch halive).trans ?_
            constructor
            · exact fun h => ⟨value, rfl, fun _ => h⟩
            · rintro ⟨value', hvalue', h⟩
              obtain rfl := Option.some.inj hvalue'
              exact h ⟨prepared, hprepared⟩

theorem aborted_onAdsResult {result : Except String String} {prepared : String} :
    (r.onAdsResult u o result prepared).aborted = r.aborted := by
  unfold onAdsResult
  split
  · rfl
  · split
    · rfl
    · unfold onFetchAdsDataDone
      split
      · rfl
      · exact aborted_executeRomaRequests

theorem aborted_onGenerateBidDone {result : List (Except String String)}
    (halive : r.aborted = false) : (r.onGenerateBidDone u lib o result).aborted = false ↔
      IsClean u lib (.romaDone .generateBid result o) := by
  unfold onGenerateBidDone
  split
  · rename_i hcancelled
    refine iff_of_true halive fun hnot => ?_
    rw [hcancelled] at hnot
    cases hnot
  · rename_i hcancelled
    have hcancelled' : (u.enableCancellation && o.isCancelled) = false := by
      simpa using hcancelled
    split
    · rename_i status hstatus
      refine iff_of_true halive fun _ response _ hresult => ?_
      rw [validateRomaResponse_eq_ok.mpr hresult] at hstatus
      cases hstatus
    · rename_i response hresponse
      have hresult := validateRomaResponse_eq_ok.mp hresponse
      have hclean : IsClean u lib (.romaDone .generateBid result o) ↔
          lib.Readable u.enableAdtechCodeLogging response := by
        constructor
        · intro h hlogging document hdocument
          exact h hcancelled' response document hresult hdocument hlogging
        · rintro h - response' document hresult' hdocument hlogging
          cases hresult.symm.trans hresult'
          exact h hlogging document hdocument
      rw [hclean, ← JsonTexts.readable_iff]
      cases hparsed : lib.parseAndGetResponseJsonArray u.enableAdtechCodeLogging response with
      | error e =>
        unfold parseProtectedSignalsGenerateBidsResponse
        rw [hparsed, JsonTexts.parseAndGetResponseJsonArray_error hparsed]
        refine iff_of_false ?_ fun h => h rfl
        show r.abort.aborted ≠ false
        exact Bool.noConfusion
      | ok texts =>
        have hbids : parseProtectedSignalsGenerateBidsResponse u lib response =
            .ok (texts >>= List.mapM lib.jsonStringToMessage) := by
          unfold parseProtectedSignalsGenerateBidsResponse
          rw [hparsed]
          rfl
        refine iff_of_true ?_ fun h => nomatch h
        rw [hbids]
        cases texts >>= List.mapM lib.jsonStringToMessage with
        | error status => exact halive
        | ok bids => exact halive

theorem aborted_of_step {e : Event} (hstep : r.step u lib e = some r') :
    r'.aborted = false ↔ IsClean u lib e := by
  cases e with
  | execute o =>
    obtain ⟨halive, -, rfl⟩ := step_execute hstep
    exact aborted_execute halive
  | romaDone call result o =>
    obtain ⟨halive, -, rfl⟩ := step_romaDone hstep
    cases call with
    | prepareDataForAdRetrieval =>
      exact aborted_onPrepareDataForAdRetrievalDone (r := r.take _) halive
    | generateBid => exact aborted_onGenerateBidDone (r := r.take _) halive
  | adsDone source prepared result o =>
    obtain ⟨halive, -, rfl⟩ := step_adsDone hstep
    exact iff_of_true (aborted_onAdsResult.trans halive) trivial

theorem aborted_iff_clean {trace : List Event} (run : (system u lib).Run trace r) :
    r.aborted = false ↔ (system u lib).RunWhere (fun _ e => IsClean u lib e) trace r := by
  refine LTS.holds_iff_runWhere (P := fun r => r.aborted = false) ?_ ?_ ?_ run
  · rintro r rfl
    rfl
  · intro r e r' hstep _
    exact aborted_of_step hstep
  · intro r e r' hstep _
    cases e with
    | execute o => exact (step_execute hstep).1
    | romaDone call result o => exact (step_romaDone hstep).1
    | adsDone source prepared result o => exact (step_adsDone hstep).1

end Reactor

/-! ## One call -/

def oneCallLibrary : Library where
  parseJsonString response :=
    if response = "[]" then .ok (.array [])
    else .ok (.object [("response", .string "embeddings")])
  serializeJsonDoc _ := .ok "\"embeddings\""
  jsonStringToMessage _ := .error "not a bid"
  getSerializedEgressPayload _ _ _ := .error "no schema"

/-- A server without a key-value server, and a request with contextual ads. -/
def withoutKVServer : Setup where
  rawRequest := { contextualProtectedAppSignalsData := some { adRenderIds := ["ad"] } }
  kvAsyncClient := false

def oneCall : List Reactor.Event :=
  [.execute {}, .romaDone .prepareDataForAdRetrieval [.ok "embeddings"] {},
    .adsDone .adRetrieval "\"embeddings\"" (.ok "ads") {}, .romaDone .generateBid [.ok "[]"] {}]

end PasBidding

end BiddingAuction

import BiddingAuction.BuyerFrontEnd.GetBidsTasks

/-!
# `GetBids` finishes once

Each announced task is in one place: open, with a callback to come; completed; dropped by
a handler that returned without either; or given up by a handler that finished the call by
itself. The last completed task finishes the call, so a call that starts its tasks is
finished once if no task is dropped, or one is given up, and not at all otherwise.
-/

namespace BiddingAuction

open Foundation

namespace BuyerFrontEnd

namespace Reactor

variable {u : Setup} {e : Event} {r r₁ r' : Reactor}

/-! ## What a handler leaves -/

def allDone (r : Reactor) : ℕ := if r.asyncTaskTracker.pendingTasksCount = 0 then 1 else 0

def earlyFinishes (r : Reactor) : ℕ := r.finished.countP fun finished => finished.1 = .early

/-- What is left of the account, where a task was open. -/
structure Accounts (task : Task) (bound : ℕ) (r r' : Reactor) (drops early aborts : Bool) :
    Prop where
  executed : r'.executed = r.executed
  announced : r'.announced = r.announced
  aborted : r'.aborted = (r.aborted || aborts)
  places : r'.pending.length + r'.completed.length + drops.toNat + early.toNat + aborts.toNat =
    r.pending.length + r.completed.length + 1
  tracker : r'.asyncTaskTracker.pendingTasksCount + r'.completed.length =
    r.asyncTaskTracker.pendingTasksCount + r.completed.length
  pending : r'.pending = r.pending ∨ (early = false ∧ aborts = false) ∧
    ∃ p : Pending, p.task? = some task ∧ p.weight < bound ∧ r'.pending = p :: r.pending
  audience : early = true ∨ aborts = true → task = .protectedAudience
  single : early.toNat + aborts.toNat ≤ 1
  finished : r'.finished.length = r.finished.length + early.toNat + r'.allDone
  earlyFinishes : r'.earlyFinishes = r.earlyFinishes + early.toNat

theorem accounts_taskCompleted (task : Task) (bound : ℕ) (o : Outcome) (status : TaskStatus)
    (r : Reactor) : Accounts task bound r (r.taskCompleted u o status) false false false := by
  have hpending := r.asyncTaskTracker.taskCompleted_pending status
  have hdone (r : Reactor) (any : Bool) : ∃ st, r.onAllBidsDone u o any =
      r.finish .allBidsDone st := by
    unfold onAllBidsDone
    split
    · exact ⟨_, rfl⟩
    · split
      · exact ⟨_, rfl⟩
      · split <;> exact ⟨_, rfl⟩
  have hsome := r.asyncTaskTracker.taskCompleted_isSome status
  unfold taskCompleted
  dsimp only
  cases hlast : (r.asyncTaskTracker.taskCompleted status).2 with
  | none =>
    rw [hlast] at hsome
    have hmore : (r.asyncTaskTracker.taskCompleted status).1.pendingTasksCount ≠ 0 := by
      rw [hpending]
      intro hzero
      have : r.asyncTaskTracker.pendingTasksCount = 1 := by omega
      exact absurd (hsome.mpr this) (by simp)
    refine ⟨rfl, rfl, by simp, ?_, ?_, .inl rfl, by simp, by simp, ?_, by simp [earlyFinishes]⟩
    · simp only [List.length_cons, Bool.toNat_false]
      omega
    · simp only [hpending, List.length_cons]
      omega
    · unfold allDone
      rw [if_neg hmore]
      rfl
  | some any =>
    rw [hlast] at hsome
    have hone := hsome.mp rfl
    have hzero : (r.asyncTaskTracker.taskCompleted status).1.pendingTasksCount = 0 := by
      rw [hpending]
      omega
    obtain ⟨st, hfinish⟩ := hdone
      { r with
        asyncTaskTracker := (r.asyncTaskTracker.taskCompleted status).1
        completed := status :: r.completed } any
    dsimp only
    rw [hfinish]
    refine ⟨rfl, rfl, by simp [finish], ?_, ?_, .inl rfl, by simp, by simp, ?_, ?_⟩
    · simp only [finish, List.length_cons, Bool.toNat_false]
      omega
    · simp only [finish, hpending, List.length_cons]
      omega
    · simp only [allDone, finish, hzero, if_true, List.length_cons, Bool.toNat_false, Nat.add_zero]
    · simp [finish, earlyFinishes]

theorem Left.accounts {task : Task} {bound : ℕ} {drops early aborts : Bool}
    (h : Left u task bound r r' drops early aborts)
    (hopen : r.asyncTaskTracker.pendingTasksCount ≠ 0) :
    Accounts task bound r r' drops early aborts := by
  cases h with
  | completes same o status =>
    have h := accounts_taskCompleted (u := u) task bound o status (r := ‹_›)
    refine ⟨?_, ?_, ?_, ?_, ?_, ?_, ?_, h.single, ?_, ?_⟩
    · rw [h.executed, same.executed]
    · rw [h.announced, same.announced]
    · rw [h.aborted, same.aborted]
    · rw [h.places, same.pending, same.completed]
    · rw [h.tracker, same.tracker, same.completed]
    · rw [← same.pending]
      exact h.pending
    · exact h.audience
    · rw [h.finished, same.finished]
    · rw [h.earlyFinishes, earlyFinishes, earlyFinishes, same.finished]
  | awaits same htask hweight =>
    refine ⟨same.executed, same.announced, by simp [await, same.aborted], ?_, ?_, ?_, by simp,
      by simp, ?_, ?_⟩
    · simp only [await, List.length_cons, same.pending, same.completed, Bool.toNat_false]
      omega
    · simp only [await, same.tracker, same.completed]
    · refine .inr ⟨⟨rfl, rfl⟩, _, htask, hweight, ?_⟩
      simp only [await, same.pending]
    · simp [await, allDone, same.finished, same.tracker, hopen]
    · simp [await, earlyFinishes, same.finished]
  | drops same =>
    refine ⟨same.executed, same.announced, by simp [same.aborted], ?_, ?_, .inl same.pending,
      by simp, by simp, ?_, ?_⟩
    · simp only [same.pending, same.completed, Bool.toNat_false, Bool.toNat_true]
    · rw [same.tracker, same.completed]
    · simp [allDone, same.finished, same.tracker, hopen]
    · simp [earlyFinishes, same.finished]
  | finishes same haudience status =>
    refine ⟨same.executed, same.announced, by simp [finish, same.aborted], ?_, ?_,
      .inl same.pending, fun _ => haudience, by simp, ?_, ?_⟩
    · simp only [finish, same.pending, same.completed, Bool.toNat_false, Bool.toNat_true]
    · simp only [finish, same.tracker, same.completed]
    · simp [finish, allDone, same.finished, same.tracker, hopen]
    · simp [finish, earlyFinishes, same.finished]
  | aborts same haudience =>
    refine ⟨same.executed, same.announced, by simp [abort], ?_, ?_, .inl same.pending,
      fun _ => haudience, by simp, ?_, ?_⟩
    · simp only [abort, same.pending, same.completed, Bool.toNat_false, Bool.toNat_true]
    · simp only [abort, same.tracker, same.completed]
    · simp [abort, allDone, same.finished, same.tracker, hopen]
    · simp [abort, earlyFinishes, same.finished]

/-! ## Runs -/

/-- The account of a call that has started its tasks. -/
structure Started (u : Setup) (trace : List Event) (r : Reactor) : Prop where
  executed : r.executed = true
  announced : 0 < r.announced
  /-- Each task is in one place. -/
  places : r.pending.length + r.completed.length + trace.countP (Event.dropsTask u) +
    trace.countP (Event.givesUpTask u) + r.aborted.toNat = r.announced
  tracker : r.asyncTaskTracker.pendingTasksCount + r.completed.length = r.announced
  tasks : ∀ p ∈ r.pending, p.task? ≠ none
  /-- Only the task of protected audience is given up, or goes with the process. -/
  audience : r.pending.countP (fun p => p.task? = some .protectedAudience) +
    trace.countP (Event.givesUpTask u) + r.aborted.toNat ≤ 1
  finished : r.finished.length = trace.countP (Event.givesUpTask u) + r.allDone
  earlyFinishes : r.earlyFinishes = trace.countP (Event.givesUpTask u)
  aborted : r.aborted = trace.any (Event.aborts u)

/-- A call that starts no tasks: it is refused, or is chaff. -/
structure NoTasks (u : Setup) (trace : List Event) (r : Reactor) : Prop where
  executed : r.executed = true
  announced : r.announced = 0
  completed : r.completed = []
  places : r.pending.length + r.finished.length = 1
  chaff : ∀ p ∈ r.pending, p = .chaff
  drops : trace.countP (Event.dropsTask u) = 0
  aborted : r.aborted = false
  aborts : trace.any (Event.aborts u) = false

inductive Accounted (u : Setup) : List Event → Reactor → Prop
  | unstarted : Accounted u [] {}
  | noTasks {trace : List Event} {r : Reactor} (h : NoTasks u trace r) : Accounted u trace r
  | started {trace : List Event} {r : Reactor} (h : Started u trace r) : Accounted u trace r

theorem length_take {p : Pending} (hp : p ∈ r.pending) :
    (r.take p).pending.length + 1 = r.pending.length := by
  have := List.length_pos_of_mem hp
  simp only [take, List.length_erase_of_mem hp]
  omega

theorem countP_cons_toNat {α : Type} (q : α → Bool) (a : α) (l : List α) :
    (a :: l).countP q = l.countP q + (q a).toNat := by
  rw [List.countP_cons]
  cases q a <;> rfl

theorem countP_take {p : Pending} (hp : p ∈ r.pending) (q : Pending → Bool) :
    (r.take p).pending.countP q + (q p).toNat = r.pending.countP q := by
  rw [(List.perm_cons_erase hp).countP_eq, countP_cons_toNat]
  rfl

/-- The account of a call while a handler has an open task in hand. -/
structure Handling (u : Setup) (task : Task) (trace : List Event) (r : Reactor) : Prop where
  executed : r.executed = true
  alive : r.aborted = false
  places : r.pending.length + 1 + r.completed.length + trace.countP (Event.dropsTask u) +
    trace.countP (Event.givesUpTask u) = r.announced
  tracker : r.asyncTaskTracker.pendingTasksCount + r.completed.length = r.announced
  tasks : ∀ p ∈ r.pending, p.task? ≠ none
  audience : r.pending.countP (fun p => p.task? = some .protectedAudience) +
    (decide (some task = some Task.protectedAudience)).toNat +
    trace.countP (Event.givesUpTask u) ≤ 1
  finished : r.finished.length = trace.countP (Event.givesUpTask u)
  earlyFinishes : r.earlyFinishes = trace.countP (Event.givesUpTask u)
  aborts : trace.any (Event.aborts u) = false

theorem Handling.isOpen {task : Task} {trace : List Event} (h : Handling u task trace r) :
    r.asyncTaskTracker.pendingTasksCount ≠ 0 := by
  have hplaces := h.places
  have htracker := h.tracker
  omega

theorem Handling.audience_accounts {task : Task} {bound : ℕ} {trace : List Event}
    {drops early aborts : Bool} (h : Handling u task trace r)
    (left : Accounts task bound r r' drops early aborts) :
    r'.pending.countP (fun p => p.task? = some .protectedAudience) +
      (trace.countP (Event.givesUpTask u) + early.toNat) + aborts.toNat ≤ 1 := by
  have haudience := h.audience
  have hsingle := left.single
  rcases left.pending with hsame | ⟨⟨hearly, haborts⟩, next, hnext, -, hcons⟩
  · -- the task in hand is gone from the list: it is given up, or goes with the process, once
    rw [hsame]
    by_cases hends : early = true ∨ aborts = true
    · rw [left.audience hends, decide_eq_true rfl, Bool.toNat_true] at haudience
      omega
    · rw [not_or, Bool.not_eq_true, Bool.not_eq_true] at hends
      rw [hends.1, hends.2, Bool.toNat_false]
      omega
  · rw [hcons, countP_cons_toNat, hnext, hearly, haborts, Bool.toNat_false]
    omega

theorem Handling.started {task : Task} {bound : ℕ} {trace : List Event}
    (h : Handling u task trace r)
    (left : Accounts task bound r r' (e.dropsTask u) (e.givesUpTask u) (e.aborts u)) :
    Started u (e :: trace) r' := by
  have hplaces := h.places
  have htracker := h.tracker
  have hplaces' := left.places
  have htracker' := left.tracker
  have haborted : r'.aborted = e.aborts u := by
    rw [left.aborted, h.alive, Bool.false_or]
  refine ⟨left.executed.trans h.executed, ?_, ?_, ?_, ?_, ?_, ?_, ?_, ?_⟩
  · rw [left.announced]
    omega
  · rw [left.announced, haborted, countP_cons_toNat, countP_cons_toNat]
    omega
  · rw [left.announced]
    omega
  · intro q hq
    rcases left.pending with hsame | ⟨-, next, hnext, -, hcons⟩
    · rw [hsame] at hq
      exact h.tasks q hq
    · rw [hcons] at hq
      rcases List.mem_cons.mp hq with rfl | hold
      · rw [hnext]
        exact Option.some_ne_none _
      · exact h.tasks q hold
  · rw [countP_cons_toNat, haborted]
    exact h.audience_accounts left
  · rw [left.finished, h.finished, countP_cons_toNat]
  · rw [left.earlyFinishes, h.earlyFinishes, countP_cons_toNat]
  · rw [haborted, List.any_cons, h.aborts, Bool.or_false]

theorem Started.take {trace : List Event} {p : Pending} {task : Task} (h : Started u trace r)
    (halive : r.aborted = false) (htask : p.task? = some task) (hp : p ∈ r.pending) :
    Handling u task trace (r.take p) := by
  have hlength := length_take hp
  have hcount := countP_take hp fun p => p.task? = some .protectedAudience
  have hplaces := h.places
  have htracker := h.tracker
  have haudience := h.audience
  have hfinished := h.finished
  rw [htask] at hcount
  rw [halive, Bool.toNat_false] at hplaces haudience
  have hopen : r.asyncTaskTracker.pendingTasksCount ≠ 0 := by omega
  have hnone : r.allDone = 0 := if_neg hopen
  rw [hnone] at hfinished
  refine ⟨h.executed, halive, ?_, h.tracker, ?_, ?_, hfinished, h.earlyFinishes, ?_⟩
  · show (r.take p).pending.length + 1 + r.completed.length + _ + _ = r.announced
    omega
  · intro q hq
    exact h.tasks q (List.mem_of_mem_erase hq)
  · omega
  · rw [← h.aborted, halive]

theorem Started.step {trace : List Event} {e : Event} {p : Pending} (h : Started u trace r)
    (halive : r.aborted = false) (he : e.callback? = some p) (hp : p ∈ r.pending) :
    Started u (e :: trace) ((r.take p).handle u e) := by
  obtain ⟨task, htask⟩ := Option.ne_none_iff_exists'.mp (h.tasks p hp)
  have handling := h.take halive htask hp
  exact handling.started ((left_handle he htask).accounts handling.isOpen)

/-! ## Execution -/

theorem countsProtectedAudience_of_get (h : u.getProtectedAudienceBids = true) :
    u.countsProtectedAudience = true := by
  unfold Setup.getProtectedAudienceBids Setup.buyerInputForBidding SelectAd.executedBuyerInput at h
  unfold Setup.countsProtectedAudience
  cases hinput : u.rawRequest.buyerInput with
  | none =>
    rw [hinput] at h
    simp only [Bool.and_eq_true] at h ⊢
    exact ⟨h.1, by simp only [h.2, Bool.or_true]⟩
  | some buyerInput =>
    rw [hinput] at h
    simp only [Bool.and_eq_true] at h ⊢
    refine ⟨h.1, ?_⟩
    have hgroups : buyerInput.interestGroups.isEmpty = false := by
      have := h.2
      unfold SelectAd.toBuyerInputForBidding at this
      simpa using this
    simp [hgroups]

theorem isMissingInputs_of_startsTasks {o : Outcome} (h : u.startsTasks o = true) :
    u.isMissingInputs = false := by
  unfold Setup.startsTasks at h
  simp only [Bool.and_eq_true, Bool.not_eq_true'] at h
  exact h.2

theorem getNumberOfMaximumBiddingCalls_pos (h : u.isMissingInputs = false) :
    0 < u.getNumberOfMaximumBiddingCalls := by
  unfold Setup.isMissingInputs at h
  split at h
  · cases h
  · exact Nat.pos_of_ne_zero (by simpa using h)

theorem execute_eq_startTasks {o : Outcome} (h : u.startsTasks o = true) :
    ({} : Reactor).execute u o = Reactor.startTasks u o { executed := true } := by
  unfold Setup.startsTasks at h
  simp only [Bool.and_eq_true, Bool.not_eq_true'] at h
  obtain ⟨⟨⟨hcancelled, hrefusal⟩, hchaff⟩, hinputs⟩ := h
  unfold execute
  rw [Option.isNone_iff_eq_none.mp hrefusal]
  simp only [hcancelled, hchaff, hinputs, Bool.false_eq_true, if_false]

/-- The tasks are announced, and the second one waits to be started. -/
structure Announced (u : Setup) (r : Reactor) : Prop where
  executed : r.executed = true
  announced : r.announced = u.getNumberOfMaximumBiddingCalls
  tracker : r.asyncTaskTracker.pendingTasksCount = u.getNumberOfMaximumBiddingCalls
  completed : r.completed = []
  pending : r.pending = if u.countsProtectedSignals then [.getProtectedSignalsBids] else []
  finished : r.finished = []
  alive : r.aborted = false

theorem startTasks_eq (u : Setup) (o : Outcome) : ∃ r₁ : Reactor, Announced u r₁ ∧
    Reactor.startTasks u o { executed := true } =
      if u.getProtectedAudienceBids then r₁.getProtectedAudienceBids u o else r₁ := by
  refine ⟨_, ?_, rfl⟩
  have hsame : u.getProtectedSignalsBids = u.countsProtectedSignals := rfl
  rw [hsame]
  cases hcounts : u.countsProtectedSignals with
  | false => exact ⟨rfl, rfl, rfl, rfl, by rw [hcounts]; rfl, rfl, rfl⟩
  | true => exact ⟨rfl, rfl, rfl, rfl, by rw [hcounts]; rfl, rfl, rfl⟩

theorem Announced.length_pending (h : Announced u r) :
    r.pending.length = u.countsProtectedSignals.toNat := by
  rw [h.pending]
  cases u.countsProtectedSignals <;> rfl

theorem Announced.tasks (h : Announced u r) :
    ∀ p ∈ r.pending, p.task? = some .protectedSignals := by
  intro p hp
  rw [h.pending] at hp
  split at hp
  · rw [List.mem_singleton.mp hp]
    rfl
  · cases hp

theorem Announced.audience (h : Announced u r) :
    r.pending.countP (fun p => p.task? = some .protectedAudience) = 0 := by
  rw [List.countP_eq_zero]
  intro p hp
  rw [h.tasks p hp]
  decide

theorem getNumberOfMaximumBiddingCalls_eq (u : Setup) : u.getNumberOfMaximumBiddingCalls =
    u.countsProtectedAudience.toNat + u.countsProtectedSignals.toNat := rfl

theorem Announced.handling (h : Announced u r) (hcounts : u.countsProtectedAudience = true) :
    Handling u .protectedAudience [] r := by
  refine ⟨h.executed, h.alive, ?_, ?_, ?_, ?_, ?_, ?_, rfl⟩
  · rw [h.length_pending, h.completed, h.announced, getNumberOfMaximumBiddingCalls_eq, hcounts,
      Bool.toNat_true, Nat.add_comm 1]
    rfl
  · rw [h.tracker, h.completed, h.announced]
    simp
  · intro p hp
    rw [h.tasks p hp]
    exact Option.some_ne_none _
  · rw [h.audience]
    simp
  · rw [h.finished]
    rfl
  · simp [Reactor.earlyFinishes, h.finished]

theorem Announced.started (h : Announced u r) (hpos : 0 < u.getNumberOfMaximumBiddingCalls)
    (hdrops : e.dropsTask u = u.countsProtectedAudience) (hearly : e.givesUpTask u = false)
    (haborts : e.aborts u = false) : Started u [e] r := by
  have htracker := h.tracker
  have hnone : r.allDone = 0 := if_neg (by omega)
  refine ⟨h.executed, ?_, ?_, ?_, ?_, ?_, ?_, ?_, ?_⟩
  · rw [h.announced]
    exact hpos
  · rw [countP_cons_toNat, countP_cons_toNat, hdrops, hearly, h.length_pending, h.completed,
      h.announced, h.alive, getNumberOfMaximumBiddingCalls_eq]
    simp only [List.countP_nil, List.length_nil, Bool.toNat_false]
    omega
  · rw [h.tracker, h.completed, h.announced]
    simp
  · intro p hp
    rw [h.tasks p hp]
    exact Option.some_ne_none _
  · simp [h.audience, hearly, h.alive]
  · simp [h.finished, hearly, hnone]
  · simp [Reactor.earlyFinishes, h.finished, hearly]
  · simp [h.alive, haborts]

theorem started_execute {o : Outcome} (h : u.startsTasks o = true) :
    Started u [.execute o] (({} : Reactor).execute u o) := by
  have hpos := getNumberOfMaximumBiddingCalls_pos (isMissingInputs_of_startsTasks h)
  have hdrops : Event.dropsTask u (.execute o) =
      if u.getProtectedAudienceBids then u.usesKvV2 && dropsAtV2 u
      else u.countsProtectedAudience := by
    simp only [Event.dropsTask, h, Bool.true_and]
  have hearly : Event.givesUpTask u (.execute o) = (u.getProtectedAudienceBids &&
      (u.fetchesSignals && if u.usesKvV2 then givesUpAtV2 u
        else !u.biddingSignalsAsyncProvider)) := by
    simp only [Event.givesUpTask, h, Bool.true_and, Bool.and_assoc]
  have haborts : Event.aborts u (.execute o) = (u.getProtectedAudienceBids &&
      (!u.fetchesSignals && (u.prepare {}).isAborted)) := by
    simp only [Event.aborts, h, Bool.true_and, Bool.and_assoc]
  obtain ⟨r₁, announced, hr₁⟩ := startTasks_eq u o
  rw [execute_eq_startTasks h, hr₁]
  cases hget : u.getProtectedAudienceBids with
  | false =>
    rw [hget] at hdrops hearly haborts
    simp only [Bool.false_eq_true, if_false, Bool.false_and] at hdrops hearly haborts ⊢
    exact announced.started hpos hdrops hearly haborts
  | true =>
    rw [hget] at hdrops hearly haborts
    simp only [if_true, Bool.true_and] at hdrops hearly haborts ⊢
    have handling := announced.handling (countsProtectedAudience_of_get hget)
    have hleft : Left u .protectedAudience 4 r₁ (r₁.getProtectedAudienceBids u o) _ _ _ :=
      left_getProtectedAudienceBids (by decide)
    have left := hleft.accounts handling.isOpen
    rw [← hdrops, ← hearly, ← haborts] at left
    exact handling.started left

theorem noTasks_finish (hdrops : e.dropsTask u = false) (haborts : e.aborts u = false)
    (status : Status) :
    NoTasks u [e] (({ executed := true } : Reactor).finish .early status) := by
  refine ⟨rfl, rfl, rfl, rfl, ?_, by simp [hdrops], rfl, by simp [haborts]⟩
  intro p hp
  cases hp

theorem noTasks_execute {o : Outcome} (h : u.startsTasks o = false) :
    NoTasks u [.execute o] (({} : Reactor).execute u o) := by
  have hdrops : Event.dropsTask u (.execute o) = false := by
    simp only [Event.dropsTask, h, Bool.false_and]
  have haborts : Event.aborts u (.execute o) = false := by
    simp only [Event.aborts, h, Bool.false_and]
  have hfinish := noTasks_finish hdrops haborts
  unfold execute
  cases hcancelled : u.config.enableCancellation && o.isCancelled with
  | true => exact hfinish _
  | false =>
    simp only [Bool.false_eq_true, if_false]
    cases hrefusal : u.refusal with
    | some status => exact hfinish status
    | none =>
      dsimp only
      cases hchaff : u.isChaff with
      | false =>
        have hinputs : u.isMissingInputs = true := by
          simpa [Setup.startsTasks, hcancelled, hrefusal, hchaff] using h
        rw [hinputs]
        exact hfinish _
      | true =>
        simp only [if_true]
        unfold executeChaffRequest
        split
        · exact hfinish _
        · split
          · exact hfinish _
          · split
            · exact hfinish _
            · split
              · exact hfinish _
              · refine ⟨rfl, rfl, rfl, rfl, ?_, by simp [hdrops], rfl, by simp [haborts]⟩
                intro p hp
                exact List.mem_singleton.mp hp

theorem NoTasks.chaffDone {trace : List Event} (h : NoTasks u trace r) (hp : .chaff ∈ r.pending) :
    NoTasks u (.chaff :: trace) ((r.take .chaff).handle u .chaff) := by
  have hlength := length_take hp
  have hplaces := h.places
  have hpos := List.length_pos_of_mem hp
  refine ⟨h.executed, h.announced, h.completed, ?_, ?_, ?_, h.aborted, ?_⟩
  · show (r.take .chaff).pending.length + (r.finished.length + 1) = 1
    omega
  · intro p hmem
    exact h.chaff p (List.mem_of_mem_erase hmem)
  · rw [List.countP_cons, h.drops]
    rfl
  · rw [List.any_cons, h.aborts]
    rfl

theorem step_eq {e : Event} (h : r.step u e = some r') : r.aborted = false ∧
    ((∃ o, e = .execute o ∧ r.executed = false ∧ r' = r.execute u o) ∨
      ∃ p, e.callback? = some p ∧ p ∈ r.pending ∧ r' = (r.take p).handle u e) := by
  unfold step at h
  split at h
  · cases h
  · rename_i halive
    refine ⟨by simpa using halive, ?_⟩
    split at h
    · rename_i hnone
      split at h
      · cases h
      · rename_i hexecuted
        cases e with
        | execute o => exact .inl ⟨o, rfl, by simpa using hexecuted, (Option.some.inj h).symm⟩
        | _ => cases hnone
    · rename_i p hp
      split at h
      · rename_i hmem
        exact .inr ⟨p, hp, hmem, (Option.some.inj h).symm⟩
      · cases h

theorem Accounted.step {trace : List Event} {e : Event} (h : Accounted u trace r)
    (hstep : r.step u e = some r') : Accounted u (e :: trace) r' := by
  obtain ⟨halive, ⟨o, rfl, hexecuted, rfl⟩ | ⟨p, hp, hmem, rfl⟩⟩ := step_eq hstep
  · cases h with
    | unstarted =>
      cases hstarts : u.startsTasks o with
      | true => exact .started (started_execute hstarts)
      | false => exact .noTasks (noTasks_execute hstarts)
    | noTasks h => exact absurd (hexecuted.symm.trans h.executed) (by simp)
    | started h => exact absurd (hexecuted.symm.trans h.executed) (by simp)
  · cases h with
    | unstarted => cases hmem
    | noTasks h =>
      obtain rfl := h.chaff p hmem
      cases e with
      | chaff => exact .noTasks (h.chaffDone hmem)
      | _ => cases hp
    | started h => exact .started (h.step halive hp hmem)

theorem accounted_of_run {trace : List Event} (run : (system u).Run trace r) :
    Accounted u trace r := by
  refine run.invariant ?_ ?_
  · rintro r rfl
    exact .unstarted
  · rintro trace r e r' h - hstep
    exact h.step hstep

/-! ## The end of a call -/

def IsOver (u : Setup) (r : Reactor) : Prop := ∀ e, r.step u e = none

def someEvent : Pending → Event
  | .biddingSignals isHybrid => .biddingSignals isHybrid (.error "") {}
  | .biddingSignalsV2 => .biddingSignalsV2 (.error "") {}
  | .generateBids => .generateBids (.error "") {}
  | .getProtectedSignalsBids => .getProtectedSignalsBids {}
  | .generateProtectedAppSignalsBids => .generateProtectedAppSignalsBids (.error "") {}
  | .chaff => .chaff

theorem callback?_someEvent (p : Pending) : (someEvent p).callback? = some p := by
  cases p <;> rfl

theorem isOver_iff : IsOver u r ↔ r.aborted = true ∨ r.executed = true ∧ r.pending = [] := by
  constructor
  · intro hover
    by_cases haborted : r.aborted = true
    · exact .inl haborted
    · refine .inr ⟨?_, ?_⟩
      · have hexecute := hover (.execute {})
        simp only [Reactor.step, haborted, Event.callback?] at hexecute
        by_contra hnot
        simp [hnot] at hexecute
      · refine List.eq_nil_iff_forall_not_mem.mpr fun p hp => ?_
        have hdone := hover (someEvent p)
        simp [Reactor.step, haborted, callback?_someEvent, hp] at hdone
  · rintro (haborted | ⟨hexecuted, hnone⟩) e
    · simp [Reactor.step, haborted]
    · unfold Reactor.step
      cases e.callback? <;> simp [hexecuted, hnone]

theorem IsOver.pending_eq_nil (hover : IsOver u r) (halive : r.aborted = false) :
    r.pending = [] := by
  rcases isOver_iff.mp hover with hgone | ⟨-, hnone⟩
  · rw [halive] at hgone
    cases hgone
  · exact hnone

def rank (r : Reactor) : ℕ := (if r.executed then 0 else 6) + total Pending.weight r.pending

theorem total_take {p : Pending} (hp : p ∈ r.pending) :
    total Pending.weight (r.take p).pending + p.weight = total Pending.weight r.pending := by
  unfold total
  rw [((List.perm_cons_erase hp).map Pending.weight).sum_eq, List.map_cons, List.sum_cons]
  show ((r.pending.erase p).map Pending.weight).sum + _ = _
  omega

theorem weight_pos (p : Pending) : 0 < p.weight := by
  cases p <;> simp [Pending.weight]

theorem rank_execute_lt (o : Outcome) :
    (({} : Reactor).execute u o).rank < ({} : Reactor).rank := by
  show _ < 6
  cases hstarts : u.startsTasks o with
  | false =>
    have h := noTasks_execute hstarts
    have hplaces := h.places
    unfold rank
    rw [h.executed]
    cases hpending : (({} : Reactor).execute u o).pending with
    | nil => decide
    | cons p rest =>
      rw [hpending, List.length_cons] at hplaces
      obtain rfl : rest = [] := List.eq_nil_of_length_eq_zero (by omega)
      obtain rfl := h.chaff p (hpending ▸ List.mem_cons_self)
      decide
  | true =>
    have h := started_execute hstarts
    have hpos := getNumberOfMaximumBiddingCalls_pos (isMissingInputs_of_startsTasks hstarts)
    obtain ⟨r₁, announced, hr₁⟩ := startTasks_eq u o
    have htracker := announced.tracker
    have hweight : total Pending.weight r₁.pending ≤ 2 := by
      rw [announced.pending]
      cases u.countsProtectedSignals <;> decide
    unfold rank
    rw [h.executed, execute_eq_startTasks hstarts, hr₁]
    show 0 + _ < 6
    split
    · have hleft : Left u .protectedAudience 4 r₁ (r₁.getProtectedAudienceBids u o) _ _ _ :=
        left_getProtectedAudienceBids (by decide)
      have left := hleft.accounts (by omega)
      rcases left.pending with hsame | ⟨-, p, -, hless, hcons⟩
      · rw [hsame]
        omega
      · rw [hcons, total_cons]
        omega
    · omega

theorem rank_lt_of_step {trace : List Event} {e : Event} (h : Accounted u trace r)
    (hstep : r.step u e = some r') : r'.rank < r.rank := by
  obtain ⟨halive, ⟨o, rfl, hexecuted, rfl⟩ | ⟨p, hp, hmem, rfl⟩⟩ := step_eq hstep
  · cases h with
    | unstarted => exact rank_execute_lt o
    | noTasks h => exact absurd (hexecuted.symm.trans h.executed) (by simp)
    | started h => exact absurd (hexecuted.symm.trans h.executed) (by simp)
  · have htotal := total_take hmem
    have hpos := weight_pos p
    cases h with
    | unstarted => cases hmem
    | noTasks h =>
      obtain rfl := h.chaff p hmem
      cases e with
      | chaff =>
        show _ + total Pending.weight (r.take .chaff).pending < _ + total Pending.weight r.pending
        show (if r.executed = true then 0 else 6) + _ < (if r.executed = true then 0 else 6) + _
        omega
      | _ => cases hp
    | started h =>
      obtain ⟨task, htask⟩ := Option.ne_none_iff_exists'.mp (h.tasks p hmem)
      have htracker := h.tracker
      have hplaces := h.places
      have hlength := List.length_pos_of_mem hmem
      have left := (left_handle (u := u) (r := r.take p) hp htask).accounts (by
        show r.asyncTaskTracker.pendingTasksCount ≠ 0
        omega)
      unfold rank
      rw [left.executed]
      show (if r.executed = true then 0 else 6) + _ < _
      rcases left.pending with hsame | ⟨-, next, -, hweight, hcons⟩
      · rw [hsame]
        omega
      · rw [hcons, total_cons]
        omega

theorem leads_to_end {trace : List Event} (h : Accounted u trace r) :
    (system u).Leads (IsOver u) r :=
  LTS.ofStep_leads_to_end (I := Accounted u) (fun _ _ _ _ h hstep => h.step hstep)
    (fun _ _ _ _ h hstep => rank_lt_of_step h hstep) h

/-- What a call is to come to: it is finished once, and unless it was finished early every
announced task was completed. -/
structure CompletesOnce (r : Reactor) : Prop where
  finished : r.finished.length = 1
  completed : (∀ finished ∈ r.finished, finished.1 ≠ .early) → r.completed.length = r.announced

/-- The process goes on, and no task is dropped unless one is given up. -/
structure IsClean (u : Setup) (trace : List Event) : Prop where
  alive : ∀ e ∈ trace, e.aborts u = false
  noDrops : (∃ e ∈ trace, e.givesUpTask u = true) ∨ ∀ e ∈ trace, e.dropsTask u = false

theorem isClean_iff {trace : List Event} : IsClean u trace ↔
    trace.any (Event.aborts u) = false ∧
      (0 < trace.countP (Event.givesUpTask u) ∨ trace.countP (Event.dropsTask u) = 0) := by
  have halive : trace.any (Event.aborts u) = false ↔ ∀ e ∈ trace, e.aborts u = false := by
    rw [List.any_eq_false]
    simp
  have hdropped : trace.countP (Event.dropsTask u) = 0 ↔ ∀ e ∈ trace, e.dropsTask u = false := by
    rw [List.countP_eq_zero]
    simp
  rw [halive, hdropped, List.countP_pos_iff]
  exact ⟨fun h => ⟨h.alive, h.noDrops⟩, fun h => ⟨h.1, h.2⟩⟩

theorem Started.allDone_eq {trace : List Event} (h : Started u trace r) :
    r.allDone = if r.completed.length = r.announced then 1 else 0 := by
  have htracker := h.tracker
  unfold allDone
  by_cases hall : r.completed.length = r.announced
  · rw [if_pos hall, if_pos (by omega)]
  · rw [if_neg hall, if_neg (by omega)]

theorem Started.finished_of_aborted {trace : List Event} (h : Started u trace r)
    (hgone : r.aborted = true) : r.finished.length = 0 := by
  have hplaces := h.places
  have haudience := h.audience
  rw [hgone, Bool.toNat_true] at hplaces haudience
  rw [h.finished, h.allDone_eq, if_neg (by omega)]
  omega

theorem Started.completesOnce_iff_isClean {trace : List Event} (h : Started u trace r)
    (hover : IsOver u r) : CompletesOnce r ↔ IsClean u trace := by
  have hearly : (∀ finished ∈ r.finished, finished.1 ≠ .early) ↔
      trace.countP (Event.givesUpTask u) = 0 := by
    rw [← h.earlyFinishes, Reactor.earlyFinishes, List.countP_eq_zero]
    simp only [decide_eq_true_eq, ne_eq]
  have hplaces := h.places
  have hfinished := h.finished
  rw [h.allDone_eq] at hfinished
  rw [isClean_iff, ← h.aborted]
  cases hgone : r.aborted with
  | true =>
    refine iff_of_false (fun hcompletes => ?_) (fun hclean => by cases hclean.1)
    have honce := hcompletes.finished
    rw [h.finished_of_aborted hgone] at honce
    cases honce
  | false =>
    have hnone := hover.pending_eq_nil hgone
    rw [hgone, Bool.toNat_false, hnone, List.length_nil] at hplaces
    constructor
    · rintro ⟨honce, -⟩
      rw [honce] at hfinished
      refine ⟨rfl, ?_⟩
      by_cases hall : r.completed.length = r.announced
      · exact .inr (by omega)
      · rw [if_neg hall] at hfinished
        exact .inl (by omega)
    · rintro ⟨-, hclean⟩
      constructor
      · rcases hclean with hgives | hnoDrops
        · rw [hfinished, if_neg (by omega)]
          -- what is given up is at most the one task of protected audience
          have haudience := h.audience
          omega
        · by_cases hgives : trace.countP (Event.givesUpTask u) = 0
          · rw [hfinished, if_pos (by omega), hgives]
          · rw [hfinished, if_neg (by omega)]
            have haudience := h.audience
            omega
      · intro hnever
        have hkept := hearly.mp hnever
        omega

theorem NoTasks.completesOnce_iff_isClean {trace : List Event} (h : NoTasks u trace r)
    (hover : IsOver u r) : CompletesOnce r ↔ IsClean u trace := by
  have hplaces := h.places
  have hnone := hover.pending_eq_nil h.aborted
  refine iff_of_true ⟨?_, fun _ => ?_⟩ (isClean_iff.mpr ⟨h.aborts, .inr h.drops⟩)
  · rw [hnone, List.length_nil] at hplaces
    omega
  · rw [h.completed, h.announced]
    rfl

end Reactor

/-! ## Two calls -/

def noTexts : Library where
  parseJsonString _ := none
  serializeJsonDoc _ := none
  messageToJsonString _ := none
  toString _ := ""
  toFloat := id

def bothKinds : Setup where
  lib := noTexts
  config := { isProtectedAppSignalsEnabled := true, biddingSignalsFetchMode := .notFetched }
  rawRequest :=
    { buyerInputForBidding := some { interestGroups := [{ name := "ig" }] }
      protectedAppSignalsBuyerInput := some { protectedAppSignals := some {} } }

/-- Its steps: the bids of protected audience come first, and are an error. -/
def bothKindsSteps : List Reactor.Event :=
  [.execute {}, .generateBids (.error "") {}, .getProtectedSignalsBids {},
    .generateProtectedAppSignalsBids (.ok {}) {}]

def withoutSignals : Setup where
  lib := noTexts
  config := { isProtectedAppSignalsEnabled := true }
  rawRequest := { protectedAppSignalsBuyerInput := some {} }

end BuyerFrontEnd

end BiddingAuction

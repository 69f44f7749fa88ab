import BiddingAuction.Bidding.ByobReactor
import BiddingAuction.Common.TaskRuns

/-!
# Batch and single dispatch

The two paths leave the same statistics and the same bids, in whatever order the answers
come back. They differ in when they count a call as successful: the task tracker takes an
execution that never started for a success, and one that returned too many bids for an
error; the batch goes by what was executed.
-/

namespace BiddingAuction

/-! ## The tracker after its tasks -/

namespace AsyncTaskTracker

theorem taskCompleted_of_last {t : AsyncTaskTracker} (h : t.pendingTasksCount = 1)
    {taskStatus : TaskStatus} : t.taskCompleted taskStatus =
      (t.countTask taskStatus, some (t.countTask taskStatus).anyTaskSuccessfullyCompleted) := by
  have hpending : (t.countTask taskStatus).pendingTasksCount = 0 := by
    have := t.taskCompleted_pending taskStatus
    rw [h] at this
    exact this
  unfold taskCompleted
  dsimp only
  rw [if_pos hpending]

theorem anyTaskSuccessfullyCompleted_foldl (n : ℤ) (statuses : List TaskStatus) :
    (statuses.foldl countTask (setNumTasksToTrack n)).anyTaskSuccessfullyCompleted = true ↔
      .success ∈ statuses ∨ .emptyResponse ∈ statuses ∨ .skipped ∈ statuses ∨
        .error ∉ statuses := by
  rw [anyTaskSuccessfullyCompleted_eq]
  unfold isSuccessful
  simp only [Bool.or_eq_true, decide_eq_true_eq, gt_iff_lt, List.count_pos_iff,
    List.count_eq_zero, or_assoc]

end AsyncTaskTracker

namespace Byob

variable {F : Type} {u : Setup F} {answers : List (Answer F)}

/-! ## Any order of the answers -/

theorem UdfStats.count_total (stats : UdfStats) (kind : AnswerKind) :
    (stats.count kind).total = stats.total := by
  cases kind <;> rfl

theorem UdfStats.count_successExecuted (stats : UdfStats) (kind : AnswerKind) :
    (stats.count kind).successExecuted =
      stats.successExecuted + if kind.isExecuted then 1 else 0 := by
  cases kind <;> rfl

namespace Setup

def processAll (u : Setup F) (answers : List (Answer F)) (order : List ℕ) (r : Reactor F) :
    Reactor F :=
  order.foldl (fun r i => (u.processAnswer answers r i).1) r

def statusAt (u : Setup F) (answers : List (Answer F)) (i : ℕ) : Option TaskStatus :=
  answers[i]?.map fun answer => (u.kind answer.response).taskStatus

theorem processAnswer_comm (r : Reactor F) {i j : ℕ} (hne : i ≠ j) :
    (u.processAnswer answers (u.processAnswer answers r i).1 j).1 =
      (u.processAnswer answers (u.processAnswer answers r j).1 i).1 := by
  cases hi : answers[i]? with
  | none => simp [processAnswer, hi]
  | some answer =>
    cases hj : answers[j]? with
    | none => simp [processAnswer, hj]
    | some answer' =>
      rw [processAnswer_eq hi, processAnswer_eq hj, processAnswer_eq hi, processAnswer_eq hj]
      unfold Reactor.record
      refine congrArg₂ Reactor.mk ?_ ?_
      · cases u.kind answer.response <;> cases u.kind answer'.response <;> rfl
      · split
        · split
          · exact List.set_comm _ _ hne
          · rfl
        · rfl

theorem processAll_perm {order order' : List ℕ} (h : order.Perm order') (r : Reactor F) :
    u.processAll answers order r = u.processAll answers order' r := by
  apply h.foldl_eq'
  intro i _ j _ r
  by_cases hij : i = j
  · rw [hij]
  · exact processAnswer_comm r hij

theorem length_processAnswer (r : Reactor F) (i : ℕ) :
    (u.processAnswer answers r i).1.adsWithBidsByIg.length = r.adsWithBidsByIg.length := by
  cases hi : answers[i]? with
  | none =>
    unfold processAnswer
    rw [hi]
  | some answer =>
    rw [processAnswer_eq hi]
    unfold Reactor.record
    dsimp only
    split
    · exact List.length_set
    · rfl

theorem length_processAll (order : List ℕ) (r : Reactor F) :
    (u.processAll answers order r).adsWithBidsByIg.length = r.adsWithBidsByIg.length := by
  induction order generalizing r with
  | nil => rfl
  | cons i rest ih => exact (ih _).trans (length_processAnswer r i)

theorem getElem?_processAnswer {r : Reactor F} {i : ℕ} (hlength : i < r.adsWithBidsByIg.length)
    {answer : Answer F} (hi : answers[i]? = some answer) (j : ℕ) :
    (u.processAnswer answers r j).1.adsWithBidsByIg[i]? =
      if i = j ∧ u.kind answer.response = .bids then some (u.adsWithBids answer)
      else r.adsWithBidsByIg[i]? := by
  by_cases hij : i = j
  · subst hij
    rw [processAnswer_eq hi]
    unfold Reactor.record
    by_cases hkind : u.kind answer.response = .bids
    · simp [hkind, hlength]
    · simp [hkind]
  · rw [if_neg fun h => hij h.1]
    cases hj : answers[j]? with
    | none =>
      unfold processAnswer
      rw [hj]
    | some answer' =>
      rw [processAnswer_eq hj]
      unfold Reactor.record
      dsimp only
      split
      · exact List.getElem?_set_ne (Ne.symm hij)
      · rfl

theorem getElem?_processAll (order : List ℕ) {r : Reactor F} {i : ℕ}
    (hlength : i < r.adsWithBidsByIg.length) {answer : Answer F} (hi : answers[i]? = some answer) :
    (u.processAll answers order r).adsWithBidsByIg[i]? =
      if i ∈ order ∧ u.kind answer.response = .bids then some (u.adsWithBids answer)
      else r.adsWithBidsByIg[i]? := by
  induction order generalizing r with
  | nil => exact (if_neg fun h => List.not_mem_nil h.1).symm
  | cons j rest ih =>
    refine (ih ((length_processAnswer r j).symm ▸ hlength)).trans ?_
    rw [getElem?_processAnswer hlength hi]
    by_cases hkind : u.kind answer.response = .bids
    · by_cases hrest : i ∈ rest
      · simp [hkind, hrest]
      · simp [hkind, hrest]
    · simp [hkind]

theorem adsWithBidsByIg_processAll {order : List ℕ}
    (horder : order.Perm (List.range answers.length)) :
    (u.processAll answers order (start answers)).adsWithBidsByIg =
      answers.map fun answer =>
        if u.kind answer.response = .bids then u.adsWithBids answer else [] := by
  have hstart : (start answers).adsWithBidsByIg.length = answers.length := List.length_replicate
  apply List.ext_getElem?
  intro i
  by_cases hi : i < answers.length
  · rw [getElem?_processAll order (hstart.symm ▸ hi) (List.getElem?_eq_getElem hi),
      List.getElem?_map, List.getElem?_eq_getElem hi]
    have hempty : (start answers).adsWithBidsByIg[i]? = some [] :=
      List.getElem?_replicate_of_lt hi
    have hmem : i ∈ order := horder.mem_iff.mpr (List.mem_range.mpr hi)
    rw [hempty]
    simp only [hmem, true_and, Option.map_some]
    split
    · rfl
    · rfl
  · rw [List.getElem?_eq_none (by rw [length_processAll, hstart]; omega),
      List.getElem?_eq_none (by rw [List.length_map]; omega)]

/-- One by one, the call ends with the last answer, and with what the tracker makes of all
of them. -/
theorem finished_foldl_completeTask {order : List ℕ} (hbound : ∀ i ∈ order, i < answers.length)
    (hsome : order ≠ []) (p : PendingReactor F)
    (hpending : p.asyncTaskTracker.pendingTasksCount = order.length) :
    (order.foldl (u.completeTask answers) p).finished =
      some (u.onAllBidsDone (u.processAll answers order p.reactor)
        ((order.filterMap (u.statusAt answers)).foldl AsyncTaskTracker.countTask
          p.asyncTaskTracker).anyTaskSuccessfullyCompleted) := by
  induction order generalizing p with
  | nil => exact absurd rfl hsome
  | cons i rest ih =>
    obtain ⟨answer, hi⟩ : ∃ answer, answers[i]? = some answer :=
      Option.isSome_iff_exists.mp (by simpa using hbound i List.mem_cons_self)
    have hrest : ∀ i ∈ rest, i < answers.length := fun j hj =>
      hbound j (List.mem_cons_of_mem _ hj)
    have hstatus : u.statusAt answers i = some (u.kind answer.response).taskStatus := by
      unfold statusAt
      rw [hi]
      rfl
    rw [List.foldl_cons, List.filterMap_cons_some hstatus, List.foldl_cons]
    have htask : u.completeTask answers p i =
        { reactor := (u.processAnswer answers p.reactor i).1
          asyncTaskTracker :=
            (p.asyncTaskTracker.taskCompleted (u.kind answer.response).taskStatus).1
          finished := (u.completeTask answers p i).finished } := by
      unfold completeTask
      rw [processAnswer_eq hi]
    cases rest with
    | nil =>
      -- the last answer
      show (u.completeTask answers p i).finished =
        some (u.onAllBidsDone (u.processAnswer answers p.reactor i).1 _)
      unfold completeTask
      rw [processAnswer_eq hi]
      simp only [AsyncTaskTracker.taskCompleted_of_last hpending]
      rfl
    | cons next rest =>
      have hafter : (u.completeTask answers p i).asyncTaskTracker.pendingTasksCount =
          (next :: rest).length := by
        rw [htask]
        show (p.asyncTaskTracker.taskCompleted _).1.pendingTasksCount = _
        rw [AsyncTaskTracker.taskCompleted_pending, hpending]
        simp only [List.length_cons]
        omega
      rw [ih hrest (by simp) _ hafter, htask]
      rfl

/-! ## What is counted -/

theorem udfStats_processAll {order : List ℕ} (hbound : ∀ i ∈ order, i < answers.length)
    (r : Reactor F) :
    (u.processAll answers order r).udfStats.total = r.udfStats.total ∧
      (u.processAll answers order r).udfStats.successExecuted = r.udfStats.successExecuted +
        (order.filterMap fun i => answers[i]?).countP fun answer =>
          (u.kind answer.response).isExecuted := by
  induction order generalizing r with
  | nil => exact ⟨rfl, rfl⟩
  | cons i rest ih =>
    obtain ⟨answer, hi⟩ : ∃ answer, answers[i]? = some answer :=
      Option.isSome_iff_exists.mp (by simpa using hbound i List.mem_cons_self)
    obtain ⟨htotal, hexecuted⟩ := ih (fun j hj => hbound j (List.mem_cons_of_mem _ hj))
      (u.processAnswer answers r i).1
    show (u.processAll answers rest (u.processAnswer answers r i).1).udfStats.total = _ ∧
      (u.processAll answers rest (u.processAnswer answers r i).1).udfStats.successExecuted = _
    have hstep : (u.processAnswer answers r i).1.udfStats =
        r.udfStats.count (u.kind answer.response) := by
      rw [processAnswer_eq hi]
      rfl
    rw [htotal, hexecuted, hstep, List.filterMap_cons_some hi, List.countP_cons]
    constructor
    · exact UdfStats.count_total _ _
    · rw [UdfStats.count_successExecuted]
      exact (Nat.add_right_comm _ _ _).trans (Nat.add_assoc _ _ _)

section Order

variable {order : List ℕ}

theorem lt_of_mem_order (horder : order.Perm (List.range answers.length)) :
    ∀ i ∈ order, i < answers.length :=
  fun _ hi => List.mem_range.mp (horder.mem_iff.mp hi)

theorem mem_answered (horder : order.Perm (List.range answers.length)) {answer : Answer F} :
    answer ∈ order.filterMap (fun i => answers[i]?) ↔ answer ∈ answers := by
  rw [List.mem_filterMap]
  constructor
  · rintro ⟨i, -, hi⟩
    exact List.mem_iff_getElem?.mpr ⟨i, hi⟩
  · intro hmem
    obtain ⟨i, hi⟩ := List.mem_iff_getElem?.mp hmem
    obtain ⟨hlt, -⟩ := List.getElem?_eq_some_iff.mp hi
    exact ⟨i, horder.mem_iff.mpr (List.mem_range.mpr hlt), hi⟩

def HasKind (u : Setup F) (answers : List (Answer F)) (kind : AnswerKind) : Prop :=
  ∃ answer ∈ answers, u.kind answer.response = kind

theorem mem_statuses (horder : order.Perm (List.range answers.length)) {status : TaskStatus} :
    status ∈ order.filterMap (u.statusAt answers) ↔
      ∃ kind, kind.taskStatus = status ∧ u.HasKind answers kind := by
  have hstatuses : order.filterMap (u.statusAt answers) =
      (order.filterMap fun i => answers[i]?).map fun answer =>
        (u.kind answer.response).taskStatus := by
    rw [List.map_filterMap]
    rfl
  rw [hstatuses, List.mem_map]
  constructor
  · rintro ⟨answer, hmem, hstatus⟩
    exact ⟨_, hstatus, answer, (mem_answered horder).mp hmem, rfl⟩
  · rintro ⟨kind, hstatus, answer, hmem, rfl⟩
    exact ⟨answer, (mem_answered horder).mpr hmem, hstatus⟩

theorem any_of_tracker (horder : order.Perm (List.range answers.length)) (n : ℤ) :
    ((order.filterMap (u.statusAt answers)).foldl AsyncTaskTracker.countTask
      (.setNumTasksToTrack n)).anyTaskSuccessfullyCompleted = true ↔
      u.HasKind answers .bids ∨ u.HasKind answers .emptyResponse ∨
        u.HasKind answers .deadlineExceeded ∨
        ¬ (u.HasKind answers .tooManyBids ∨ u.HasKind answers .otherError) := by
  rw [AsyncTaskTracker.anyTaskSuccessfullyCompleted_foldl, mem_statuses horder,
    mem_statuses horder, mem_statuses horder, mem_statuses horder]
  have hsuccess : (∃ kind : AnswerKind, kind.taskStatus = .success ∧ u.HasKind answers kind) ↔
      u.HasKind answers .bids := by
    constructor
    · rintro ⟨kind, hstatus, h⟩
      cases kind <;> first | exact h | cases hstatus
    · exact fun h => ⟨_, rfl, h⟩
  have hempty : (∃ kind : AnswerKind, kind.taskStatus = .emptyResponse ∧
      u.HasKind answers kind) ↔ u.HasKind answers .emptyResponse := by
    constructor
    · rintro ⟨kind, hstatus, h⟩
      cases kind <;> first | exact h | cases hstatus
    · exact fun h => ⟨_, rfl, h⟩
  have hskipped : (∃ kind : AnswerKind, kind.taskStatus = .skipped ∧ u.HasKind answers kind) ↔
      u.HasKind answers .deadlineExceeded := by
    constructor
    · rintro ⟨kind, hstatus, h⟩
      cases kind <;> first | exact h | cases hstatus
    · exact fun h => ⟨_, rfl, h⟩
  have herror : (∃ kind : AnswerKind, kind.taskStatus = .error ∧ u.HasKind answers kind) ↔
      u.HasKind answers .tooManyBids ∨ u.HasKind answers .otherError := by
    constructor
    · rintro ⟨kind, hstatus, h⟩
      cases kind <;> first | exact .inl h | exact .inr h | cases hstatus
    · rintro (h | h)
      · exact ⟨_, rfl, h⟩
      · exact ⟨_, rfl, h⟩
  rw [hsuccess, hempty, hskipped, herror]

theorem successExecuted_pos (horder : order.Perm (List.range answers.length)) :
    0 < (u.processAll answers order (start answers)).udfStats.successExecuted ↔
      u.HasKind answers .bids ∨ u.HasKind answers .emptyResponse ∨
        u.HasKind answers .tooManyBids := by
  rw [(udfStats_processAll (lt_of_mem_order horder) _).2]
  show 0 < 0 + _ ↔ _
  rw [Nat.zero_add, List.countP_pos_iff]
  constructor
  · rintro ⟨answer, hmem, hexecuted⟩
    have hmem := (mem_answered horder).mp hmem
    cases hkind : u.kind answer.response with
    | bids => exact .inl ⟨answer, hmem, hkind⟩
    | emptyResponse => exact .inr (.inl ⟨answer, hmem, hkind⟩)
    | tooManyBids => exact .inr (.inr ⟨answer, hmem, hkind⟩)
    | deadlineExceeded | cancelled | otherError =>
      rw [hkind] at hexecuted
      cases hexecuted
  · rintro (⟨answer, hmem, hkind⟩ | ⟨answer, hmem, hkind⟩ | ⟨answer, hmem, hkind⟩) <;>
      exact ⟨answer, (mem_answered horder).mpr hmem, by rw [hkind]; rfl⟩

end Order

/-! ## The two paths -/

/-- The call ends in the same way whatever is said of success, if the response cannot be
encrypted. -/
theorem onAllBidsDone_of_error {message : String} (h : u.encrypts = .error message)
    (r : Reactor F) (anySuccessfulBids : Bool) : u.onAllBidsDone r anySuccessfulBids =
      ⟨[(.internal, message), (.internal, kInternalServerError)], none⟩ := by
  have hfinish (status : GrpcStatusCode × String) (bids : List (AdWithBid F)) :
      u.encryptResponseAndFinish status bids =
        ⟨[(.internal, message), (.internal, kInternalServerError)], none⟩ := by
    unfold encryptResponseAndFinish
    rw [h]
  unfold onAllBidsDone finishWithNoBids
  simp only [hfinish, ite_self]

/-- It ends with a status of its own if the response can be encrypted and nothing was
successful. -/
theorem onAllBidsDone_ne (h : u.encrypts = .ok ()) (r : Reactor F) :
    u.onAllBidsDone r true ≠ u.onAllBidsDone r false := by
  have hstatuses (status : GrpcStatusCode × String) (bids : List (AdWithBid F)) :
      (u.encryptResponseAndFinish status bids).statuses = [status] := by
    unfold encryptResponseAndFinish
    rw [h]
  intro heq
  have hsame := congrArg Finish.statuses heq
  unfold onAllBidsDone finishWithNoBids at hsame
  simp only [Bool.not_true, Bool.not_false, and_true, Bool.false_eq_true, and_false, if_false,
    if_true] at hsame
  split at hsame <;> split at hsame <;>
    simp only [hstatuses, List.cons.injEq, and_true, Prod.mk.injEq] at hsame <;>
    exact absurd hsame.1 (by decide)

theorem onAllBidsDone_eq_iff (r : Reactor F) (any any' : Bool) :
    u.onAllBidsDone r any = u.onAllBidsDone r any' ↔
      any = any' ∨ ∃ message, u.encrypts = .error message := by
  cases hencrypts : u.encrypts with
  | error message =>
    rw [onAllBidsDone_of_error hencrypts, onAllBidsDone_of_error hencrypts]
    simp
  | ok result =>
    have hne := onAllBidsDone_ne (u := u) (by rw [hencrypts]) r
    cases any <;> cases any' <;> simp [hne, hne.symm]

theorem finishEach_eq {order : List ℕ} (horder : order.Perm (List.range answers.length))
    (hsome : answers ≠ []) : u.finishEach answers order = some (u.onAllBidsDone
      (u.processAll answers order (start answers))
      ((order.filterMap (u.statusAt answers)).foldl AsyncTaskTracker.countTask
        (.setNumTasksToTrack answers.length)).anyTaskSuccessfullyCompleted) := by
  have hlength : order.length = answers.length := by
    rw [horder.length_eq, List.length_range]
  have horderSome : order ≠ [] := by
    intro h
    rw [h] at hlength
    exact hsome (List.eq_nil_of_length_eq_zero hlength.symm)
  unfold finishEach
  apply finished_foldl_completeTask (lt_of_mem_order horder) horderSome
  show (answers.length : ℤ) = order.length
  rw [hlength]

/-- What makes a call end in one way on both paths: what the tracker takes for success is
what the batch does. -/
structure PathsAgree (u : Setup F) (answers : List (Answer F)) : Prop where
  someAnswer : answers ≠ []
  sameSuccess : (∃ message, u.encrypts = .error message) ∨
    u.HasKind answers .bids ∨ u.HasKind answers .emptyResponse ∨
    (u.HasKind answers .tooManyBids ∧ u.HasKind answers .deadlineExceeded) ∨
    (¬ u.HasKind answers .tooManyBids ∧ ¬ u.HasKind answers .deadlineExceeded ∧
      u.HasKind answers .otherError)

theorem same_success_iff {bids emptyResponse tooManyBids deadlineExceeded otherError : Prop}
    (encryptsNot : Prop) :
    ((bids ∨ emptyResponse ∨ deadlineExceeded ∨ ¬ (tooManyBids ∨ otherError) ↔
        bids ∨ emptyResponse ∨ tooManyBids) ∨ encryptsNot) ↔
      encryptsNot ∨ bids ∨ emptyResponse ∨ (tooManyBids ∧ deadlineExceeded) ∨
        (¬ tooManyBids ∧ ¬ deadlineExceeded ∧ otherError) := by
  by_cases hencrypts : encryptsNot
  · simp only [hencrypts, or_true, true_or]
  by_cases hbids : bids
  · simp only [hbids, true_or, or_true]
  by_cases hempty : emptyResponse
  · simp only [hempty, true_or, or_true]
  simp only [hencrypts, hbids, hempty, false_or, or_false]
  by_cases htooMany : tooManyBids
  · by_cases hdeadline : deadlineExceeded <;> simp [htooMany, hdeadline]
  · by_cases hdeadline : deadlineExceeded <;> by_cases hother : otherError <;>
      simp [htooMany, hdeadline, hother]

/-- For all answers and in any order of them, one by one the call ends as in a batch if and
only if some binary returned bids within the limit, or none, or the two counts of success
come out alike. -/
theorem finishEach_eq_finishBatch_iff {F : Type} (u : Setup F) (answers : List (Answer F))
    (order : List ℕ) (horder : order.Perm (List.range answers.length)) :
    u.finishEach answers order = some (u.finishBatch answers (.ok ())) ↔
      u.PathsAgree answers := by
  have hlength : order.length = answers.length := by
    rw [horder.length_eq, List.length_range]
  by_cases hsome : answers = []
  · subst hsome
    obtain rfl : order = [] := List.eq_nil_of_length_eq_zero hlength
    constructor
    · intro h
      cases h
    · intro h
      exact absurd rfl h.someAnswer
  have hbatch : u.finishBatch answers (.ok ()) = u.onAllBidsDone
      (u.processAll answers order (start answers))
      (0 < (u.processAll answers order (start answers)).udfStats.successExecuted) := by
    rw [processAll_perm horder]
    rfl
  rw [finishEach_eq horder hsome, hbatch, Option.some.injEq, onAllBidsDone_eq_iff, Bool.eq_iff_iff,
    any_of_tracker horder, decide_eq_true_iff, successExecuted_pos horder]
  have hagree : u.PathsAgree answers ↔ (∃ message, u.encrypts = .error message) ∨
      u.HasKind answers .bids ∨ u.HasKind answers .emptyResponse ∨
      (u.HasKind answers .tooManyBids ∧ u.HasKind answers .deadlineExceeded) ∨
      (¬ u.HasKind answers .tooManyBids ∧ ¬ u.HasKind answers .deadlineExceeded ∧
        u.HasKind answers .otherError) :=
    ⟨fun h => h.sameSuccess, fun h => ⟨hsome, h⟩⟩
  rw [hagree]
  exact same_success_iff _

/-- Two answers, the second one first: one with a bid, one of a binary that failed. -/
theorem finishEach_eq_finishBatch_iff_example :
    let u : Setup ℕ := { auctionScope := .singleSeller, isZero := (· == 0) }
    let answers : List (Answer ℕ) :=
      [⟨"a", .ok [{ bid := 1, adCost := 0 }]⟩, ⟨"b", .error .internal⟩]
    u.finishEach answers [1, 0] = some (u.finishBatch answers (.ok ())) := by
  intro u answers
  apply (finishEach_eq_finishBatch_iff u answers [1, 0] (List.Perm.swap 0 1 [])).mpr
  exact ⟨by simp [answers], .inr (.inl ⟨_, List.mem_cons_self, rfl⟩)⟩

/-- A single execution that never starts: one by one the call ends well, in a batch it does
not. -/
theorem finishEach_eq_finishBatch_false :
    ¬ ∀ (u : Setup ℕ) (answers : List (Answer ℕ)) (order : List ℕ),
      order.Perm (List.range answers.length) → answers ≠ [] →
      u.finishEach answers order = some (u.finishBatch answers (.ok ())) := by
  intro h
  have hends := h { auctionScope := .singleSeller, isZero := (· == 0) }
    [⟨"a", .error .deadlineExceeded⟩] [0] (List.Perm.refl _) (by simp)
  have hstatus := congrArg (Option.map Finish.statuses) hends
  exact absurd hstatus (by decide)

end Setup

end Byob

end BiddingAuction

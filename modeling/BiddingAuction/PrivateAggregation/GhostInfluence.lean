import BiddingAuction.PrivateAggregation.Handlers

/-!
# What ghost winners change in the winner's report

The ghost winners' handler leaves traces in the bids that the winner's handler reads
after it. A ghost winner gets as far as the first bid of its interest group that has
anything left to report, and on its way drops what is not for a loss from each of
the group's bids and takes out what it reports.
-/

namespace BiddingAuction

variable {F : Type} (ops : FloatOps F)
  (interestGroupIndexMap : FlatHashMap InterestGroupIdentity ℕ)

/-! ## A bid that was reached -/

/-- The ghost winners' handler can resolve the contribution. -/
def ghostResolves (contribution : PrivateAggregateContribution F) : Bool :=
  (postAuction ops (ghostBaseValues ops) contribution).isSome

/-- A contribution that the handler leaves in a bid it reached. -/
def survivesGhosts (contribution : PrivateAggregateContribution F) : Bool :=
  isLossEvent contribution && !ghostResolves ops contribution

def reportsForGhost (ad : AdWithBid F) : Bool :=
  ad.privateAggregationContributions.any fun c => isLossEvent c && ghostResolves ops c

/-- What a bid is after the handler reached it, as far as any handler can tell: the
contributions for a loss and for a win are the surviving ones. -/
structure Reached (ad ad' : AdWithBid F) : Prop where
  name : ad'.interestGroupName = ad.interestGroupName
  loss : ad'.privateAggregationContributions.filter isLossEvent =
    ad.privateAggregationContributions.filter (survivesGhosts ops)
  win : ad'.privateAggregationContributions.filter isWinEvent =
    (ad.privateAggregationContributions.filter (survivesGhosts ops)).filter isWinEvent

def leftByGhost (ad : AdWithBid F) : AdWithBid F :=
  (getProcessedAndFilteredContributions ops (ghostBaseValues ops) (filterLossContributions ad)).2

variable {ops}

theorem filter_leftByGhost {p : PrivateAggregateContribution F → Bool} (hp : p {} = false)
    (ad : AdWithBid F) :
    (leftByGhost ops ad).privateAggregationContributions.filter p =
      (ad.privateAggregationContributions.filter (survivesGhosts ops)).filter p := by
  show ((ad.privateAggregationContributions.filter isLossEvent).map _).filter p = _
  induction ad.privateAggregationContributions with
  | nil => rfl
  | cons c cs ih =>
    cases hloss : isLossEvent c with
    | false =>
      have hsurvives : survivesGhosts ops c = false := by simp [survivesGhosts, hloss]
      rw [List.filter_cons_of_neg (by simp [hloss]), List.filter_cons_of_neg (by simp [hsurvives])]
      exact ih
    | true =>
      rw [List.filter_cons_of_pos hloss, List.map_cons]
      cases hresolves : (postAuction ops (ghostBaseValues ops) c).isSome with
      | true =>
        -- reported for the ghost winner, and moved out
        have hsurvives : survivesGhosts ops c = false := by
          simp [survivesGhosts, ghostResolves, hresolves]
        rw [if_pos rfl, List.filter_cons_of_neg (by simp [hp]),
          List.filter_cons_of_neg (by simp [hsurvives])]
        exact ih
      | false =>
        have hsurvives : survivesGhosts ops c = true := by
          simp [survivesGhosts, ghostResolves, hloss, hresolves]
        rw [if_neg Bool.false_ne_true, List.filter_cons_of_pos hsurvives, List.filter_cons,
          List.filter_cons, ih]

variable (ops) in
theorem Reached.left (ad : AdWithBid F) : Reached ops ad (leftByGhost ops ad) := by
  refine ⟨rfl, ?_, filter_leftByGhost rfl ad⟩
  rw [filter_leftByGhost rfl ad, List.filter_filter]
  refine List.filter_congr fun c _ => ?_
  unfold survivesGhosts
  cases isLossEvent c <;> rfl

theorem Reached.again {ad ad' : AdWithBid F} (h : Reached ops ad ad') :
    Reached ops ad (leftByGhost ops ad') := by
  have hsame : ad'.privateAggregationContributions.filter (survivesGhosts ops) =
      ad.privateAggregationContributions.filter (survivesGhosts ops) := by
    have hsplit : ad'.privateAggregationContributions.filter (survivesGhosts ops) =
        (ad'.privateAggregationContributions.filter isLossEvent).filter (survivesGhosts ops) := by
      rw [List.filter_filter]
      refine List.filter_congr fun c _ => ?_
      unfold survivesGhosts
      cases isLossEvent c <;> simp
    rw [hsplit, h.loss, List.filter_filter]
    refine List.filter_congr fun c _ => ?_
    exact Bool.and_self _
  have hleft := Reached.left ops ad'
  refine ⟨hleft.name.trans h.name, hleft.loss.trans hsame, ?_⟩
  rw [hleft.win, hsame]

variable (ops) in
theorem processed_isEmpty (ad : AdWithBid F) :
    (getProcessedAndFilteredContributions ops (ghostBaseValues ops)
      (filterLossContributions ad)).1.isEmpty = !reportsForGhost ops ad := by
  unfold reportsForGhost ghostResolves
  show ((ad.privateAggregationContributions.filter isLossEvent).filterMap _).isEmpty = _
  induction ad.privateAggregationContributions with
  | nil => rfl
  | cons c cs ih =>
    by_cases hloss : isLossEvent c = true
    · cases hpost : postAuction ops (ghostBaseValues ops) c with
      | none => simpa [hloss, hpost] using ih
      | some c' => simp [hloss, hpost]
    · simpa [hloss] using ih

theorem Reached.silent {ad ad' : AdWithBid F} (h : Reached ops ad ad') :
    reportsForGhost ops ad' = false := by
  have hempty := processed_isEmpty ops ad'
  have hnone : (getProcessedAndFilteredContributions ops (ghostBaseValues ops)
      (filterLossContributions ad')).1 = [] := by
    show (ad'.privateAggregationContributions.filter isLossEvent).filterMap _ = []
    rw [h.loss, List.filterMap_eq_nil_iff]
    intro c hc
    have hsurvives := (List.mem_filter.mp hc).2
    unfold survivesGhosts ghostResolves at hsurvives
    rw [Bool.and_eq_true, Bool.not_eq_true', Option.isSome_eq_false_iff] at hsurvives
    exact Option.isNone_iff_eq_none.mp hsurvives.2
  rw [hnone] at hempty
  simpa using hempty.symm

/-! ## How far the ghost winners get -/

variable {interestGroupIndexMap}

theorem handleGhostBids_unmatched {ig : InterestGroupIdentity} {ad : AdWithBid F}
    {ads : List (AdWithBid F)}
    (h : ad.interestGroupName = ig.interestGroupName →
      interestGroupIndexMap.lookup ig = none) :
    handleGhostBids ops interestGroupIndexMap ig (ad :: ads) =
      ((handleGhostBids ops interestGroupIndexMap ig ads).1,
        ad :: (handleGhostBids ops interestGroupIndexMap ig ads).2) := by
  by_cases hname : ad.interestGroupName = ig.interestGroupName
  · simp [handleGhostBids, h hname]
  · simp [handleGhostBids, hname]

theorem handleGhostBids_silent {ig : InterestGroupIdentity} {ad : AdWithBid F}
    {ads : List (AdWithBid F)} (hname : ad.interestGroupName = ig.interestGroupName)
    (hidx : (interestGroupIndexMap.lookup ig).isSome = true)
    (hreports : reportsForGhost ops ad = false) :
    handleGhostBids ops interestGroupIndexMap ig (ad :: ads) =
      ((handleGhostBids ops interestGroupIndexMap ig ads).1,
        leftByGhost ops ad :: (handleGhostBids ops interestGroupIndexMap ig ads).2) := by
  obtain ⟨igIdx, hidx⟩ := Option.isSome_iff_exists.mp hidx
  have hprocessed := processed_isEmpty ops ad
  rw [hreports] at hprocessed
  unfold leftByGhost
  rw [handleGhostBids]
  cases hempty : ad.privateAggregationContributions.isEmpty with
  | true =>
    have hnil := List.isEmpty_iff.mp hempty
    have hsame : { ad with privateAggregationContributions := [] } = ad := by rw [← hnil]
    simp [filterLossContributions, getProcessedAndFilteredContributions, hnil, hsame]
  | false => simp [hname, hidx, hprocessed]

theorem handleGhostBids_reports {ig : InterestGroupIdentity} {ad : AdWithBid F}
    {ads : List (AdWithBid F)} {igIdx : ℕ} (hname : ad.interestGroupName = ig.interestGroupName)
    (hidx : interestGroupIndexMap.lookup ig = some igIdx)
    (hreports : reportsForGhost ops ad = true) :
    handleGhostBids ops interestGroupIndexMap ig (ad :: ads) =
      ((getProcessedAndFilteredContributions ops (ghostBaseValues ops)
          (filterLossContributions ad)).1.map (withIgIdx igIdx),
        leftByGhost ops ad :: ads) := by
  have hprocessed := processed_isEmpty ops ad
  rw [hreports] at hprocessed
  have hnonempty : ad.privateAggregationContributions.isEmpty = false := by
    cases hcs : ad.privateAggregationContributions with
    | nil => simp [reportsForGhost, hcs] at hreports
    | cons c cs => rfl
  unfold leftByGhost
  rw [handleGhostBids]
  simp [hname, hidx, hprocessed, hnonempty]

variable (ops) (interestGroupIndexMap)

/-- Each bid of a buyer, and whether a ghost winner reaches it, by the number of ghost
winners each interest group has left. A bid with something to report uses one up. -/
def markReached (igOwner : String) :
    (String → ℕ) → List (AdWithBid F) → List (AdWithBid F × Bool)
  | _, [] => []
  | ghosts, ad :: ads =>
    let name := ad.interestGroupName
    let reached := (interestGroupIndexMap.lookup ⟨igOwner, name⟩).isSome && 0 < ghosts name
    (ad, reached) ::
      markReached igOwner
        (if reached && reportsForGhost ops ad then Function.update ghosts name (ghosts name - 1)
          else ghosts)
        ads

def ghostsOf (ghosts : List (AdScore F)) (igOwner : String) (igName : String) : ℕ :=
  ghosts.countP fun ghost => ghost.interestGroupOwner = igOwner && ghost.interestGroupName = igName

def FoundAs (mark : AdWithBid F × Bool) (ad' : AdWithBid F) : Prop :=
  if mark.2 then Reached ops mark.1 ad' else ad' = mark.1

variable {ops}

theorem FoundAs.name {mark : AdWithBid F × Bool} {ad' : AdWithBid F} (h : FoundAs ops mark ad') :
    ad'.interestGroupName = mark.1.interestGroupName := by
  unfold FoundAs at h
  split at h
  · exact h.name
  · rw [h]

theorem FoundAs.reached {ad ad' : AdWithBid F} (h : FoundAs ops (ad, true) ad') :
    Reached ops ad ad' := h

theorem FoundAs.unreached {ad ad' : AdWithBid F} (h : FoundAs ops (ad, false) ad') :
    ad' = ad := by
  unfold FoundAs at h
  exact h

theorem handleGhostBids_found {igOwner igName : String} {bids : List (AdWithBid F)}
    {ghosts : String → ℕ} {found : List (AdWithBid F)}
    (h : List.Forall₂ (FoundAs ops) (markReached ops interestGroupIndexMap igOwner ghosts bids)
      found) :
    List.Forall₂ (FoundAs ops)
      (markReached ops interestGroupIndexMap igOwner
        (Function.update ghosts igName (ghosts igName + 1)) bids)
      (handleGhostBids ops interestGroupIndexMap ⟨igOwner, igName⟩ found).2 := by
  induction bids generalizing ghosts found with
  | nil =>
    cases h
    exact .nil
  | cons ad ads ih =>
    cases h with
    | cons hmark hrest =>
    rename_i ad' found'
    have hname := hmark.name
    simp only at hname
    by_cases higName : ad.interestGroupName = igName
    case neg =>
      -- a bid of another group: neither the handler nor the count sees it
      rw [handleGhostBids_unmatched fun hig => absurd (hname.symm.trans hig) higName]
      simp only [markReached, Function.update_of_ne higName]
      refine .cons hmark ?_
      have hnext := ih hrest
      split at hnext
      case isTrue hreached =>
        rw [Function.update_of_ne (Ne.symm higName), Function.update_comm higName] at hnext
        rw [if_pos hreached]
        exact hnext
      case isFalse hreached =>
        rw [if_neg hreached]
        exact hnext
    subst higName
    cases hidx : (interestGroupIndexMap.lookup ⟨igOwner, ad.interestGroupName⟩).isSome with
    | false =>
      -- a group without an index is passed over like another group
      simp only [hidx, Bool.false_and, Bool.false_eq_true, if_false] at hmark hrest
      rw [handleGhostBids_unmatched fun _ =>
        Option.isNone_iff_eq_none.mp (Option.isSome_eq_false_iff.mp hidx)]
      simp only [markReached, hidx, Bool.false_and, Bool.false_eq_true, if_false]
      exact .cons hmark (ih hrest)
    | true =>
      simp only [hidx, Bool.true_and] at hmark hrest
      simp only [markReached, hidx, Bool.true_and, Function.update_self, Nat.succ_pos, decide_true,
        Nat.add_sub_cancel, Function.update_idem]
      by_cases hghosts : 0 < ghosts ad.interestGroupName
      · -- reached before: it has nothing to report, and the loop goes on
        simp only [hghosts, decide_true, Bool.true_and] at hmark hrest
        rw [handleGhostBids_silent hname hidx hmark.reached.silent]
        refine .cons hmark.reached.again ?_
        have hnext := ih hrest
        cases hreports : reportsForGhost ops ad with
        | true =>
          rw [hreports, if_pos rfl, Function.update_self, Function.update_idem,
            Nat.sub_add_cancel hghosts] at hnext
          rw [if_pos rfl]
          exact hnext
        | false =>
          rw [hreports, if_neg Bool.false_ne_true] at hnext
          rw [if_neg Bool.false_ne_true]
          exact hnext
      · simp only [hghosts, decide_false, Bool.false_and, Bool.false_eq_true, if_false]
          at hmark hrest
        obtain rfl := hmark.unreached
        cases hreports : reportsForGhost ops ad' with
        | true =>
          -- reached first by this ghost winner, which ends its loop here
          obtain ⟨igIdx, hidx⟩ := Option.isSome_iff_exists.mp hidx
          rw [handleGhostBids_reports rfl hidx hreports]
          refine .cons (Reached.left ops ad') ?_
          rw [if_pos rfl, Function.update_eq_self]
          exact hrest
        | false =>
          rw [handleGhostBids_silent rfl hidx hreports]
          refine .cons (Reached.left ops ad') ?_
          exact ih hrest

/-! ## All buyers -/

variable (ops)

theorem handlePrivateAggregationContributionsForGhostWinner_bids
    (sharedBuyerBidsMap : BuyerBidsResponseMap F) (ghost : AdScore F) :
    (handlePrivateAggregationContributionsForGhostWinner ops interestGroupIndexMap
      sharedBuyerBidsMap ghost).2 =
      mapValues (fun igOwner bids =>
        if igOwner = ghost.interestGroupOwner then
          (handleGhostBids ops interestGroupIndexMap ⟨igOwner, ghost.interestGroupName⟩ bids).2
        else bids) sharedBuyerBidsMap := by
  unfold handlePrivateAggregationContributionsForGhostWinner
  refine AList.ext ?_
  cases hbids : sharedBuyerBidsMap.lookup ghost.interestGroupOwner with
  | none =>
    -- no entry is of the ghost winner's owner
    show sharedBuyerBidsMap.entries = sharedBuyerBidsMap.entries.map _
    refine Eq.trans (List.map_id _).symm (List.map_congr_left fun e he => ?_)
    have hother : e.1 ≠ ghost.interestGroupOwner := by
      intro howner
      have hlookup := AList.mem_lookup_iff.mpr he
      rw [howner, hbids] at hlookup
      cases hlookup
    simp only [if_neg hother]
    rfl
  | some bids =>
    refine List.map_congr_left fun e he => ?_
    by_cases howner : e.1 = ghost.interestGroupOwner
    · have hlookup := AList.mem_lookup_iff.mpr he
      rw [howner, hbids, Option.mem_some_iff] at hlookup
      simp only [← hlookup, howner]
    · simp only [if_neg howner]

/-- The bids map as it is found after `ghosts owner name` ghost winners of each group. -/
def FoundIn (ghosts : String → String → ℕ)
    (sharedBuyerBidsMap found : BuyerBidsResponseMap F) : Prop :=
  List.Forall₂ (fun buyer buyer' => buyer'.1 = buyer.1 ∧
    List.Forall₂ (FoundAs ops)
      (markReached ops interestGroupIndexMap buyer.1 (ghosts buyer.1) buyer.2) buyer'.2)
    sharedBuyerBidsMap.entries found.entries

variable {ops interestGroupIndexMap}

theorem foundAs_of_no_ghost (igOwner : String) (bids : List (AdWithBid F)) :
    List.Forall₂ (FoundAs ops)
      (markReached ops interestGroupIndexMap igOwner (fun _ => 0) bids) bids := by
  induction bids with
  | nil => exact .nil
  | cons ad ads ih =>
    simp only [markReached, Nat.lt_irrefl, decide_false, Bool.and_false, Bool.false_and,
      Bool.false_eq_true, if_false]
    exact .cons rfl ih

variable (ops interestGroupIndexMap) in
theorem FoundIn.start (sharedBuyerBidsMap : BuyerBidsResponseMap F) :
    FoundIn ops interestGroupIndexMap (fun _ _ => 0) sharedBuyerBidsMap sharedBuyerBidsMap := by
  unfold FoundIn
  rw [List.forall₂_same]
  intro buyer _
  exact ⟨rfl, foundAs_of_no_ghost buyer.1 buyer.2⟩

theorem FoundIn.step {ghosts : String → String → ℕ}
    {sharedBuyerBidsMap found : BuyerBidsResponseMap F}
    (h : FoundIn ops interestGroupIndexMap ghosts sharedBuyerBidsMap found) (ghost : AdScore F) :
    FoundIn ops interestGroupIndexMap
      (fun igOwner =>
        if igOwner = ghost.interestGroupOwner then
          Function.update (ghosts igOwner) ghost.interestGroupName
            (ghosts igOwner ghost.interestGroupName + 1)
        else ghosts igOwner)
      sharedBuyerBidsMap
      (handlePrivateAggregationContributionsForGhostWinner ops interestGroupIndexMap found
        ghost).2 := by
  rw [handlePrivateAggregationContributionsForGhostWinner_bids]
  unfold FoundIn mapValues
  rw [List.forall₂_map_right_iff]
  refine List.Forall₂.imp ?_ h
  intro buyer buyer' hbuyer
  refine ⟨hbuyer.1, ?_⟩
  rw [hbuyer.1]
  by_cases howner : buyer.1 = ghost.interestGroupOwner
  · simp only [if_pos howner]
    exact handleGhostBids_found interestGroupIndexMap hbuyer.2
  · simp only [if_neg howner]
    exact hbuyer.2

theorem FoundIn.run {ghosts : String → String → ℕ}
    {sharedBuyerBidsMap found : BuyerBidsResponseMap F}
    (h : FoundIn ops interestGroupIndexMap ghosts sharedBuyerBidsMap found)
    (ghostWinners : List (AdScore F)) :
    FoundIn ops interestGroupIndexMap
      (fun igOwner igName => ghosts igOwner igName + ghostsOf ghostWinners igOwner igName)
      sharedBuyerBidsMap (handleGhostWinners ops interestGroupIndexMap ghostWinners found).2 := by
  induction ghostWinners generalizing ghosts found with
  | nil => exact h
  | cons ghost ghostWinners ih =>
    have hrest := ih (h.step ghost)
    have hcount : (fun igOwner igName =>
        (if igOwner = ghost.interestGroupOwner then
          Function.update (ghosts igOwner) ghost.interestGroupName
            (ghosts igOwner ghost.interestGroupName + 1)
        else ghosts igOwner) igName + ghostsOf ghostWinners igOwner igName) =
        fun igOwner igName =>
          ghosts igOwner igName + ghostsOf (ghost :: ghostWinners) igOwner igName := by
      funext igOwner igName
      unfold ghostsOf
      rw [List.countP_cons]
      by_cases howner : igOwner = ghost.interestGroupOwner
      · rw [if_pos howner]
        by_cases hname : igName = ghost.interestGroupName
        · subst hname howner
          simp
          omega
        · simp [howner, Function.update_of_ne hname, Ne.symm hname]
      · simp [howner, Ne.symm howner]
    rw [hcount] at hrest
    exact hrest

variable (ops interestGroupIndexMap) in
theorem foundIn_handleGhostWinners (sharedBuyerBidsMap : BuyerBidsResponseMap F)
    (ghostWinners : List (AdScore F)) :
    FoundIn ops interestGroupIndexMap (ghostsOf ghostWinners) sharedBuyerBidsMap
      (handleGhostWinners ops interestGroupIndexMap ghostWinners sharedBuyerBidsMap).2 := by
  have hrun := (FoundIn.start ops interestGroupIndexMap sharedBuyerBidsMap).run ghostWinners
  simp only [Nat.zero_add] at hrun
  exact hrun

/-! ## What the winner's handler reports -/

variable (ops interestGroupIndexMap)

/-- The contributions of a bid that the winner's handler looks at. -/
def isReported (highScore : AdScore F) (igOwner : String) (ad : AdWithBid F) :
    PrivateAggregateContribution F → Bool :=
  if isOfWinner highScore igOwner ad then isWinEvent else isLossEvent

theorem handleBid_reported (highScore : AdScore F) (igOwner : String) (ad : AdWithBid F) :
    (handleBid ops interestGroupIndexMap highScore igOwner ad).1 =
      (interestGroupIndexMap.lookup ⟨igOwner, ad.interestGroupName⟩).elim [] fun igIdx =>
        ((ad.privateAggregationContributions.filter
          (isReported highScore igOwner ad)).filterMap
            (postAuction ops (baseValuesFor ops highScore igOwner ad))).map (withIgIdx igIdx) := by
  unfold handleBid isReported
  cases hempty : ad.privateAggregationContributions with
  | nil =>
    cases interestGroupIndexMap.lookup ⟨igOwner, ad.interestGroupName⟩ <;> simp
  | cons c cs =>
    rw [if_neg (by simp)]
    cases interestGroupIndexMap.lookup ⟨igOwner, ad.interestGroupName⟩ with
    | none => rfl
    | some igIdx =>
      cases isOfWinner highScore igOwner ad with
      | true =>
        rw [← hempty]
        rfl
      | false =>
        rw [← hempty]
        rfl

/-- The winner's handler has nothing to report of the bid but what a ghost winner
leaves in it. -/
def keepsItsReport (highScore : AdScore F) (igOwner : String) (ad : AdWithBid F) : Bool :=
  ad.privateAggregationContributions.all fun c =>
    !(isReported highScore igOwner ad c &&
        (postAuction ops (baseValuesFor ops highScore igOwner ad) c).isSome) ||
      survivesGhosts ops c

variable {ops interestGroupIndexMap}

theorem filterMap_filter_eq_iff {α β : Type} {f : α → Option β} {p : α → Bool} {xs : List α} :
    (xs.filter p).filterMap f = xs.filterMap f ↔ ∀ x ∈ xs, (f x).isSome = true → p x = true := by
  induction xs with
  | nil => simp
  | cons x xs ih =>
    rw [List.forall_mem_cons, ← ih]
    cases hp : p x with
    | true =>
      rw [List.filter_cons_of_pos hp]
      cases hf : f x with
      | none => simp [hf]
      | some y => simp [hf]
    | false =>
      rw [List.filter_cons_of_neg (by simp [hp])]
      cases hf : f x with
      | none => simp [hf]
      | some y =>
        -- one more on the right than can be on the left
        have hshort := ((List.filter_sublist (p := p) (l := xs)).filterMap f).length_le
        rw [List.filterMap_cons_some hf]
        constructor
        · intro heq
          rw [heq, List.length_cons] at hshort
          omega
        · intro hall
          exact absurd (hall.1 rfl) Bool.false_ne_true

theorem Reached.isReported {ad ad' : AdWithBid F} (h : Reached ops ad ad')
    (highScore : AdScore F) (igOwner : String) :
    ad'.privateAggregationContributions.filter (isReported highScore igOwner ad') =
      (ad.privateAggregationContributions.filter (isReported highScore igOwner ad)).filter
        (survivesGhosts ops) := by
  have hwinner : isOfWinner highScore igOwner ad' = isOfWinner highScore igOwner ad := by
    unfold isOfWinner
    rw [h.name]
  unfold BiddingAuction.isReported
  rw [hwinner]
  cases isOfWinner highScore igOwner ad with
  | true =>
    rw [if_pos rfl, h.win, List.filter_filter, List.filter_filter]
    exact List.filter_congr fun c _ => Bool.and_comm _ _
  | false =>
    rw [if_neg Bool.false_ne_true, h.loss, List.filter_filter]
    refine List.filter_congr fun c _ => ?_
    unfold survivesGhosts
    cases isLossEvent c <;> simp

theorem Reached.baseValuesFor {ad ad' : AdWithBid F} (h : Reached ops ad ad')
    (highScore : AdScore F) (igOwner : String) :
    baseValuesFor ops highScore igOwner ad' = baseValuesFor ops highScore igOwner ad := by
  unfold BiddingAuction.baseValuesFor isOfWinner
  rw [h.name]

theorem Reached.reported_sublist {ad ad' : AdWithBid F} (h : Reached ops ad ad')
    (highScore : AdScore F) (igOwner : String) :
    (handleBid ops interestGroupIndexMap highScore igOwner ad').1.Sublist
      (handleBid ops interestGroupIndexMap highScore igOwner ad).1 := by
  rw [handleBid_reported, handleBid_reported, h.name, h.baseValuesFor, h.isReported]
  cases interestGroupIndexMap.lookup ⟨igOwner, ad.interestGroupName⟩ with
  | none => exact List.Sublist.refl _
  | some igIdx => exact (List.filter_sublist.filterMap _).map _

theorem Reached.reported_eq_iff {ad ad' : AdWithBid F} (h : Reached ops ad ad')
    (highScore : AdScore F) (igOwner : String)
    (hidx : (interestGroupIndexMap.lookup ⟨igOwner, ad.interestGroupName⟩).isSome = true) :
    (handleBid ops interestGroupIndexMap highScore igOwner ad').1 =
        (handleBid ops interestGroupIndexMap highScore igOwner ad).1 ↔
      keepsItsReport ops highScore igOwner ad = true := by
  obtain ⟨igIdx, hidx⟩ := Option.isSome_iff_exists.mp hidx
  rw [handleBid_reported, handleBid_reported, h.name, h.baseValuesFor, h.isReported, hidx]
  have hsub : ((ad.privateAggregationContributions.filter
      (BiddingAuction.isReported highScore igOwner ad)).filter (survivesGhosts ops)).Sublist _ :=
    List.filter_sublist
  have hmap : ∀ {xs ys : List (PrivateAggregateContribution F)}, xs.Sublist ys →
      (xs.map (withIgIdx igIdx) = ys.map (withIgIdx igIdx) ↔ xs = ys) := by
    intro xs ys hxs
    constructor
    · intro heq
      have hlength := congrArg List.length heq
      rw [List.length_map, List.length_map] at hlength
      exact hxs.eq_of_length hlength
    · intro heq
      rw [heq]
  show List.map _ _ = List.map _ _ ↔ _
  rw [hmap (hsub.filterMap _), filterMap_filter_eq_iff]
  unfold keepsItsReport
  rw [List.all_eq_true]
  refine forall_congr' fun c => ?_
  rw [List.mem_filter]
  cases BiddingAuction.isReported highScore igOwner ad c <;>
    cases (postAuction ops (BiddingAuction.baseValuesFor ops highScore igOwner ad) c).isSome <;>
      simp

theorem flatMap_sublist_of_forall₂ {α β γ : Type} {R : α → β → Prop} {f : α → List γ}
    {g : β → List γ} {xs : List α} {ys : List β} (h : List.Forall₂ R xs ys)
    (hsub : ∀ x y, R x y → (g y).Sublist (f x)) : (ys.flatMap g).Sublist (xs.flatMap f) := by
  induction h with
  | nil => exact List.Sublist.refl _
  | cons hxy _ ih =>
    rw [List.flatMap_cons, List.flatMap_cons]
    exact (hsub _ _ hxy).append ih

theorem flatMap_eq_iff_of_sublist {α β γ : Type} {R : α → β → Prop} {f : α → List γ}
    {g : β → List γ} {xs : List α} {ys : List β} (h : List.Forall₂ R xs ys)
    (hsub : ∀ x y, R x y → (g y).Sublist (f x)) :
    ys.flatMap g = xs.flatMap f ↔ List.Forall₂ (fun x y => g y = f x) xs ys := by
  constructor
  · intro heq
    induction h with
    | nil => exact .nil
    | cons hxy hrest ih =>
      rw [List.flatMap_cons, List.flatMap_cons] at heq
      have hlength := congrArg List.length heq
      rw [List.length_append, List.length_append] at hlength
      have hfirst := (hsub _ _ hxy).length_le
      have hsecond := (flatMap_sublist_of_forall₂ hrest hsub).length_le
      have hparts := List.append_inj heq (by omega)
      exact .cons hparts.1 (ih hparts.2)
  · intro hparts
    clear h
    induction hparts with
    | nil => rfl
    | cons hxy _ ih => rw [List.flatMap_cons, List.flatMap_cons, hxy, ih]

theorem forall₂_iff_forall_mem {α β : Type} {R S : α → β → Prop} {P : α → Prop} {xs : List α}
    {ys : List β} (h : List.Forall₂ R xs ys) (hiff : ∀ x ∈ xs, ∀ y, R x y → (S x y ↔ P x)) :
    List.Forall₂ S xs ys ↔ ∀ x ∈ xs, P x := by
  induction h with
  | nil => simp
  | cons hxy hrest ih =>
    rw [List.forall_mem_cons] at hiff
    rw [List.forall₂_cons, List.forall_mem_cons, hiff.1 _ hxy, ih hiff.2]

variable (ops interestGroupIndexMap) in
theorem markReached_bids (igOwner : String) (ghosts : String → ℕ) (bids : List (AdWithBid F)) :
    (markReached ops interestGroupIndexMap igOwner ghosts bids).map Prod.fst = bids := by
  induction bids generalizing ghosts with
  | nil => rfl
  | cons ad ads ih =>
    unfold markReached
    rw [List.map_cons, ih]

theorem markReached_indexed {igOwner : String} {ghosts : String → ℕ} {bids : List (AdWithBid F)}
    {mark : AdWithBid F × Bool}
    (h : mark ∈ markReached ops interestGroupIndexMap igOwner ghosts bids)
    (hreached : mark.2 = true) :
    (interestGroupIndexMap.lookup ⟨igOwner, mark.1.interestGroupName⟩).isSome = true := by
  induction bids generalizing ghosts with
  | nil => cases h
  | cons ad ads ih =>
    rcases List.mem_cons.mp h with rfl | h
    · exact (Bool.and_eq_true _ _ ▸ hreached).1
    · exact ih h

theorem FoundAs.reported_sublist {mark : AdWithBid F × Bool} {ad' : AdWithBid F}
    (h : FoundAs ops mark ad') (highScore : AdScore F) (igOwner : String) :
    (handleBid ops interestGroupIndexMap highScore igOwner ad').1.Sublist
      (handleBid ops interestGroupIndexMap highScore igOwner mark.1).1 := by
  obtain ⟨ad, reached⟩ := mark
  cases reached with
  | true => exact h.reached.reported_sublist highScore igOwner
  | false => rw [h.unreached]

section Buyer

variable {igOwner : String} {ghosts : String → ℕ} {bids found : List (AdWithBid F)}

variable (ops interestGroupIndexMap igOwner ghosts bids) in
theorem flatMap_handleBid_eq (highScore : AdScore F) :
    (bids.flatMap fun ad => (handleBid ops interestGroupIndexMap highScore igOwner ad).1) =
      (markReached ops interestGroupIndexMap igOwner ghosts bids).flatMap fun mark =>
        (handleBid ops interestGroupIndexMap highScore igOwner mark.1).1 := by
  conv_lhs => rw [← markReached_bids ops interestGroupIndexMap igOwner ghosts bids]
  rw [List.flatMap_map]

theorem reported_sublist
    (h : List.Forall₂ (FoundAs ops) (markReached ops interestGroupIndexMap igOwner ghosts bids)
      found) (highScore : AdScore F) :
    (found.flatMap fun ad =>
        (handleBid ops interestGroupIndexMap highScore igOwner ad).1).Sublist
      (bids.flatMap fun ad => (handleBid ops interestGroupIndexMap highScore igOwner ad).1) := by
  rw [flatMap_handleBid_eq ops interestGroupIndexMap igOwner ghosts bids]
  exact flatMap_sublist_of_forall₂ h fun _ _ hmark => hmark.reported_sublist highScore igOwner

theorem reported_eq_iff
    (h : List.Forall₂ (FoundAs ops) (markReached ops interestGroupIndexMap igOwner ghosts bids)
      found) (highScore : AdScore F) :
    (found.flatMap fun ad => (handleBid ops interestGroupIndexMap highScore igOwner ad).1) =
        (bids.flatMap fun ad => (handleBid ops interestGroupIndexMap highScore igOwner ad).1) ↔
      ∀ mark ∈ markReached ops interestGroupIndexMap igOwner ghosts bids, mark.2 = true →
        keepsItsReport ops highScore igOwner mark.1 = true := by
  rw [flatMap_handleBid_eq ops interestGroupIndexMap igOwner ghosts bids,
    flatMap_eq_iff_of_sublist h fun _ _ hmark => hmark.reported_sublist highScore igOwner]
  refine forall₂_iff_forall_mem h ?_
  intro mark hmem ad' hmark
  have hindexed := markReached_indexed hmem
  obtain ⟨ad, reached⟩ := mark
  cases reached with
  | true =>
    rw [hmark.reached.reported_eq_iff highScore igOwner (hindexed rfl)]
    exact ⟨fun hkeeps _ => hkeeps, fun hkeeps => hkeeps rfl⟩
  | false =>
    rw [hmark.unreached]
    exact iff_of_true rfl fun hfalse => absurd hfalse Bool.false_ne_true

end Buyer

/-! ## With and without ghost winners -/

theorem reportingResponse_contributions (igOwner : String)
    (contributions : List (PrivateAggregateContribution F)) :
    ((reportingResponse igOwner contributions).toList.flatMap fun response =>
      response.contributions) = contributions := by
  unfold reportingResponse
  cases contributions with
  | nil => rfl
  | cons c cs => simp

theorem responses_contributions
    (report : (Sigma fun _ : String => List (AdWithBid F)) → List (PrivateAggregateContribution F))
    (entries : List (Sigma fun _ : String => List (AdWithBid F))) :
    ((entries.filterMap fun buyer => reportingResponse buyer.1 (report buyer)).flatMap
      fun response => response.contributions) = entries.flatMap report := by
  rw [List.filterMap_eq_flatMap_toList, List.flatMap_assoc]
  exact List.flatMap_congr fun buyer _ => reportingResponse_contributions buyer.1 _

theorem reportingResponses_eq_iff
    {entries found : List (Sigma fun _ : String => List (AdWithBid F))}
    (report : String → AdWithBid F → List (PrivateAggregateContribution F))
    (h : List.Forall₂ (fun buyer buyer' => buyer'.1 = buyer.1 ∧
      (buyer'.2.flatMap (report buyer'.1)).Sublist (buyer.2.flatMap (report buyer.1)))
      entries found) :
    (found.filterMap fun buyer => reportingResponse buyer.1 (buyer.2.flatMap (report buyer.1))) =
        (entries.filterMap fun buyer =>
          reportingResponse buyer.1 (buyer.2.flatMap (report buyer.1))) ↔
      List.Forall₂ (fun buyer buyer' =>
        buyer'.2.flatMap (report buyer'.1) = buyer.2.flatMap (report buyer.1)) entries found := by
  constructor
  · intro heq
    refine (flatMap_eq_iff_of_sublist h fun buyer buyer' hbuyer => hbuyer.2).mp ?_
    rw [← responses_contributions fun buyer => buyer.2.flatMap (report buyer.1),
      ← responses_contributions fun buyer => buyer.2.flatMap (report buyer.1), heq]
  · intro hparts
    induction h with
    | nil => rfl
    | cons hbuyer _ ih =>
      cases hparts with
      | cons hsame hrest =>
        rw [hbuyer.1] at hsame
        simp only [List.filterMap_cons, hbuyer.1, hsame, ih hrest]

theorem FoundIn.report_eq_iff {ghosts : String → String → ℕ}
    {sharedBuyerBidsMap found : BuyerBidsResponseMap F}
    (h : FoundIn ops interestGroupIndexMap ghosts sharedBuyerBidsMap found)
    (highScore : AdScore F) :
    (handlePrivateAggregationContributions ops interestGroupIndexMap highScore
          found).1.topLevelContributions =
        (handlePrivateAggregationContributions ops interestGroupIndexMap highScore
          sharedBuyerBidsMap).1.topLevelContributions ↔
      ∀ buyer ∈ sharedBuyerBidsMap.entries,
        ∀ mark ∈ markReached ops interestGroupIndexMap buyer.1 (ghosts buyer.1) buyer.2,
          mark.2 = true → keepsItsReport ops highScore buyer.1 mark.1 = true := by
  unfold handlePrivateAggregationContributions
  rw [List.append_right_inj, reportingResponses_eq_iff fun igOwner ad =>
    (handleBid ops interestGroupIndexMap highScore igOwner ad).1]
  · refine forall₂_iff_forall_mem h fun buyer _ buyer' hbuyer => ?_
    rw [hbuyer.1]
    exact reported_eq_iff hbuyer.2 highScore
  · refine List.Forall₂.imp ?_ h
    intro buyer buyer' hbuyer
    refine ⟨hbuyer.1, ?_⟩
    rw [hbuyer.1]
    exact reported_sublist hbuyer.2 highScore

/-- The contributions reported for the winning and the losing bids. -/
def ScoreAdsDone.reportedContributions (done : ScoreAdsDone F) :
    Option (List (PrivateAggregateReportingResponse F)) :=
  done.highScore.map fun highScore => highScore.topLevelContributions

/-- **No influence.** The report is the same without the ghost winners just when no bid
that one of them reaches has more to report than what it leaves. -/
theorem ghostWinners_do_not_influence_iff (enableBuyerPrivateAggregateReporting : Bool)
    (sharedBuyerBidsMap : BuyerBidsResponseMap F) (response : ScoreAdsRawResponse F) :
    (onScoreAdsDone ops enableBuyerPrivateAggregateReporting interestGroupIndexMap
        sharedBuyerBidsMap response).reportedContributions =
      (onScoreAdsDone ops enableBuyerPrivateAggregateReporting interestGroupIndexMap
        sharedBuyerBidsMap { response with ghostWinningAdScores := [] }).reportedContributions ↔
    (enableBuyerPrivateAggregateReporting = true →
      ∀ highScore ∈ response.adScore, ops.isPositive highScore.buyerBid = true →
        ∀ buyer ∈ sharedBuyerBidsMap.entries,
          ∀ mark ∈ markReached ops interestGroupIndexMap buyer.1
              (ghostsOf response.ghostWinningAdScores buyer.1) buyer.2,
            mark.2 = true → keepsItsReport ops highScore buyer.1 mark.1 = true) := by
  unfold ScoreAdsDone.reportedContributions onScoreAdsDone
  cases hwinner : response.adScore.filter fun adScore => ops.isPositive adScore.buyerBid with
  | none =>
    refine iff_of_true rfl fun _ highScore hmem hpositive => ?_
    rw [Option.filter_eq_none_iff] at hwinner
    exact absurd hpositive (hwinner highScore hmem)
  | some highScore =>
    cases enableBuyerPrivateAggregateReporting with
    | false => exact iff_of_true rfl fun hfalse => absurd hfalse Bool.false_ne_true
    | true =>
      have hreport := (foundIn_handleGhostWinners ops interestGroupIndexMap sharedBuyerBidsMap
        response.ghostWinningAdScores).report_eq_iff highScore
      have hmem := Option.filter_eq_some_iff.mp hwinner
      show some _ = some _ ↔ _
      rw [Option.some_inj]
      refine hreport.trans ?_
      constructor
      · intro hkeeps _ other hother _
        obtain rfl := Option.mem_unique hmem.1 hother
        exact hkeeps
      · intro hkeeps
        exact hkeeps rfl highScore hmem.1 hmem.2

section Example

def wholeNumbers : FloatOps ℤ where
  zero := 0
  isPositive x := 0 < x
  ofInt x := x.toInt
  toInt := Int32.ofInt
  mulToUInt64 x y := UInt64.ofInt (x * y)
  mulToInt x y := Int32.ofInt (x.toInt * y)
  uninitialized := 0

/-- A bid of the one interest group, with a contribution for a win. -/
def exampleWinningBid : AdWithBid ℤ where
  bid := 2
  render := "https://ad.example/1"
  interestGroupName := "shoes"
  privateAggregationContributions := [
    { bucket := some (.bucket128Bit [1, 0])
      value := some (.intValue 5)
      event := { eventType := .win, eventName := "reserved.win" } }]

/-- Another bid of the group is for an ad that was not shown to enough people yet. -/
def exampleSharedBuyerBidsMap : BuyerBidsResponseMap ℤ :=
  AList.insert "https://buyer.example" [exampleWinningBid,
    { bid := 3, render := "https://ad.example/2", interestGroupName := "shoes" }] ∅

def exampleWinner : AdScore ℤ where
  desirability := 2
  render := "https://ad.example/1"
  interestGroupName := "shoes"
  interestGroupOwner := "https://buyer.example"
  buyerBid := 2
  bid := 2
  incomingBidInSellerCurrency := 0

def exampleGhostWinner : AdScore ℤ :=
  { exampleWinner with render := "https://ad.example/2", desirability := 3 }

/-- A ghost winner of the winner's own interest group takes the winner's report away. -/
theorem ghostWinner_takes_report_of_its_group :
    ¬ ∀ (enable : Bool) (interestGroupIndexMap : FlatHashMap InterestGroupIdentity ℕ)
      (sharedBuyerBidsMap : BuyerBidsResponseMap ℤ) (response : ScoreAdsRawResponse ℤ),
      (onScoreAdsDone wholeNumbers enable interestGroupIndexMap sharedBuyerBidsMap
          response).reportedContributions =
        (onScoreAdsDone wholeNumbers enable interestGroupIndexMap sharedBuyerBidsMap
          { response with ghostWinningAdScores := [] }).reportedContributions := by
  intro h
  have hsame := h true (AList.insert ⟨"https://buyer.example", "shoes"⟩ 0 ∅)
    exampleSharedBuyerBidsMap
    { adScore := some exampleWinner, ghostWinningAdScores := [exampleGhostWinner] }
  revert hsame
  decide

end Example

end BiddingAuction

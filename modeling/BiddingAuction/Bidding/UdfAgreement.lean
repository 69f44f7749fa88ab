import BiddingAuction.Bidding.UdfBids

/-!
# Script and binary

Both reactors go through the bids of the interest groups in the order of the request. They put the
same bids into the response only where nothing is lost of those that are not dropped.
-/

namespace BiddingAuction

open Byob (Setup DebugUrlTotals)

namespace UdfAgreement

variable {F : Type}

section Reactors

variable {u : Setup F} {perAdtechPaapiContributionsLimit : ℤ}

/-! ## The script -/

theorem processBid_toScript (c : ScriptBidding.Callback F) (x : String × UdfBid F)
    (rest : List (Byob.AdWithBid F)) :
    (ScriptBidding.processBid u perAdtechPaapiContributionsLimit x.1 c
        (some x.2.toScript)).verdicts = c.verdicts ++ [u.dropReason x.2.toScript] ∧
      (ScriptBidding.processBid u perAdtechPaapiContributionsLimit x.1 c
          (some x.2.toScript)).bids ++
        u.populateBids rest (ScriptBidding.processBid u perAdtechPaapiContributionsLimit x.1 c
          (some x.2.toScript)).totals =
      c.bids ++ u.populateBids (scriptBid u perAdtechPaapiContributionsLimit x :: rest)
        c.totals := by
  have hvalid := isValid_scriptBid u perAdtechPaapiContributionsLimit x
  have hreason : u.dropReason (ScriptBidding.escapeAd x.2.toScript) =
      u.dropReason x.2.toScript := rfl
  unfold ScriptBidding.processBid
  dsimp only
  rw [hreason]
  cases hdrop : u.dropReason x.2.toScript with
  | some reason =>
    rw [hdrop] at hvalid
    rw [populateBids_cons_of_not_valid hvalid]
    exact ⟨rfl, rfl⟩
  | none =>
    rw [hdrop] at hvalid
    rw [populateBids_cons_of_valid hvalid]
    refine ⟨rfl, (List.append_assoc _ _ _).trans ?_⟩
    unfold scriptBid
    rw [stamp_validated]
    rfl

theorem foldl_processBid (u : Setup F) (perAdtechPaapiContributionsLimit : ℤ) (igName : String)
    (bids : List (UdfBid F)) (c : ScriptBidding.Callback F) (rest : List (Byob.AdWithBid F)) :
    let after := (bids.map fun b => some b.toScript).foldl
      (ScriptBidding.processBid u perAdtechPaapiContributionsLimit igName) c
    after.verdicts = c.verdicts ++ (bids.map fun b => u.dropReason b.toScript) ∧
      after.bids ++ u.populateBids rest after.totals = c.bids ++ u.populateBids
        ((bids.map (igName, ·)).map (scriptBid u perAdtechPaapiContributionsLimit) ++ rest)
        c.totals := by
  induction bids generalizing c with
  | nil => exact ⟨(List.append_nil _).symm, rfl⟩
  | cons b bids ih =>
    dsimp only at ih ⊢
    rw [List.map_cons, List.foldl_cons]
    obtain ⟨hverdicts, hbids⟩ := ih (ScriptBidding.processBid u perAdtechPaapiContributionsLimit
      igName c (some b.toScript))
    obtain ⟨hverdict, hbid⟩ := processBid_toScript (u := u) c (igName, b)
      ((bids.map (igName, ·)).map (scriptBid u perAdtechPaapiContributionsLimit) ++ rest)
    rw [hverdicts, hbids]
    refine ⟨?_, hbid⟩
    rw [hverdict, List.append_assoc]
    rfl

theorem processResult_scriptResult (answer : UdfAnswer F) (c : ScriptBidding.Callback F)
    (rest : List (Byob.AdWithBid F)) :
    let received := bidsWithin u.rawRequest.multiBidLimit.toInt answer
    let after := ScriptBidding.processResult u perAdtechPaapiContributionsLimit c
      (scriptResult u answer)
    after.verdicts = c.verdicts ++ (received.map fun x => u.dropReason x.2.toScript) ∧
      after.bids ++ u.populateBids rest after.totals = c.bids ++ u.populateBids
        (received.map (scriptBid u perAdtechPaapiContributionsLimit) ++ rest) c.totals := by
  obtain ⟨igName, response⟩ := answer
  cases response with
  | error status =>
    have hnone : bidsWithin u.rawRequest.multiBidLimit.toInt ⟨igName, .error status⟩ =
        ([] : List (String × UdfBid F)) := ite_self _
    dsimp only
    rw [hnone]
    exact ⟨(List.append_nil _).symm, rfl⟩
  | ok bids =>
    have hreceived : bidsWithin u.rawRequest.multiBidLimit.toInt ⟨igName, .ok bids⟩ =
        (ScriptBidding.checkMultiBidLimit u bids).map (igName, ·) := by
      unfold bidsWithin ScriptBidding.checkMultiBidLimit namedBids
      dsimp only
      rw [List.length_map]
      split
      · rfl
      · rfl
    dsimp only
    rw [hreceived]
    obtain ⟨hverdicts, hbids⟩ := foldl_processBid u perAdtechPaapiContributionsLimit igName
      (ScriptBidding.checkMultiBidLimit u bids) c rest
    rw [List.map_map, ← hbids]
    unfold ScriptBidding.processResult scriptResult
    dsimp only
    split
    · exact ⟨hverdicts, rfl⟩
    · exact ⟨hverdicts, rfl⟩

theorem foldl_processResult (u : Setup F) (perAdtechPaapiContributionsLimit : ℤ)
    (answers : List (UdfAnswer F)) (c : ScriptBidding.Callback F)
    (rest : List (Byob.AdWithBid F)) :
    let received := answers.flatMap (bidsWithin u.rawRequest.multiBidLimit.toInt)
    let after := (answers.map (scriptResult u)).foldl
      (ScriptBidding.processResult u perAdtechPaapiContributionsLimit) c
    after.verdicts = c.verdicts ++ (received.map fun x => u.dropReason x.2.toScript) ∧
      after.bids ++ u.populateBids rest after.totals = c.bids ++ u.populateBids
        (received.map (scriptBid u perAdtechPaapiContributionsLimit) ++ rest) c.totals := by
  induction answers generalizing c with
  | nil => exact ⟨(List.append_nil _).symm, rfl⟩
  | cons answer answers ih =>
    dsimp only at ih ⊢
    rw [List.map_cons, List.foldl_cons, List.flatMap_cons, List.map_append, List.map_append]
    obtain ⟨hverdicts, hbids⟩ := ih (ScriptBidding.processResult u
      perAdtechPaapiContributionsLimit c (scriptResult u answer))
    obtain ⟨hverdict, hbid⟩ := processResult_scriptResult (u := u) answer c
      ((answers.flatMap (bidsWithin u.rawRequest.multiBidLimit.toInt)).map
        (scriptBid u perAdtechPaapiContributionsLimit) ++ rest)
    rw [hverdicts, hbids, hverdict, hbid, List.append_assoc, List.append_assoc]
    exact ⟨rfl, rfl⟩

theorem scriptOutcome_eq (hcancelled : (u.enableCancellation && u.isCancelled) = false)
    (perAdtechPaapiContributionsLimit : ℤ) (answers : List (UdfAnswer F)) :
    let received := answers.flatMap (bidsWithin u.rawRequest.multiBidLimit.toInt)
    scriptOutcome u perAdtechPaapiContributionsLimit answers =
      ⟨u.populateBids (received.map (scriptBid u perAdtechPaapiContributionsLimit)) {},
        received.map fun x => u.dropReason x.2.toScript⟩ := by
  obtain ⟨hverdicts, hbids⟩ := foldl_processResult u
    perAdtechPaapiContributionsLimit answers {} []
  unfold scriptOutcome ScriptBidding.generateBidsCallback
  rw [hcancelled, if_neg Bool.false_ne_true]
  dsimp only at hverdicts hbids ⊢
  rw [hverdicts]
  have hnil (totals : DebugUrlTotals) : u.populateBids [] totals = [] := rfl
  rw [hnil, List.append_nil, List.append_nil] at hbids
  rw [hbids]
  rfl

/-! ## The binary -/

theorem kind_eq_bids_iff (answer : UdfAnswer F) :
    u.kind (binaryAnswer answer).response = .bids ↔
      bidsWithin u.multiBidLimit answer ≠ [] := by
  obtain ⟨igName, response⟩ := answer
  unfold bidsWithin namedBids binaryAnswer Setup.kind
  cases response with
  | error status =>
    dsimp only
    refine iff_of_false ?_ fun h => h (ite_self _)
    split
    · simp
    · split
      · simp
      · simp
  | ok bids =>
    dsimp only
    rw [List.length_map, List.length_map, List.isEmpty_map]
    cases bids with
    | nil => simp
    | cons b rest =>
      rw [List.isEmpty_cons, if_neg Bool.false_ne_true]
      split
      · simp
      · simp

theorem adsWithBids_eq (answer : UdfAnswer F) :
    (if u.kind (binaryAnswer answer).response = .bids then u.adsWithBids (binaryAnswer answer)
      else []) = (bidsWithin u.multiBidLimit answer).map (binaryBid u) := by
  split
  · rename_i hkind
    have hsome := (kind_eq_bids_iff answer).mp hkind
    unfold bidsWithin at hsome ⊢
    split
    · rename_i hlimit
      exact absurd (if_pos hlimit) hsome
    · obtain ⟨igName, response⟩ := answer
      cases response with
      | error status => rfl
      | ok bids =>
        unfold Setup.adsWithBids binaryAnswer namedBids
        dsimp only
        rw [List.map_map, List.map_map]
        rfl
  · rename_i hkind
    rw [not_not.mp fun h => hkind ((kind_eq_bids_iff answer).mpr h)]
    rfl

theorem Done.adsWithBidsByIg {answers : List (UdfAnswer F)} {r : Byob.Reactor F} {any : Bool}
    (h : Done u (answers.map binaryAnswer) r any) : r.adsWithBidsByIg.flatten =
      (answers.flatMap (bidsWithin u.multiBidLimit)).map (binaryBid u) := by
  have hads : r.adsWithBidsByIg = (answers.map binaryAnswer).map fun answer =>
      if u.kind answer.response = .bids then u.adsWithBids answer else [] := by
    cases h with
    | each horder => exact Setup.adsWithBidsByIg_processAll horder
    | batch => exact Setup.adsWithBidsByIg_processAll (List.Perm.refl _)
  rw [hads, List.map_map, List.map_flatMap, List.flatMap_def]
  refine congrArg List.flatten (List.map_congr_left ?_)
  intro answer _
  exact adsWithBids_eq answer

theorem Done.eq_nil {answers : List (UdfAnswer F)} {r : Byob.Reactor F}
    (h : Done u (answers.map binaryAnswer) r false) :
    answers.flatMap (bidsWithin u.multiBidLimit) = [] := by
  have hnone : ¬ u.HasKind (answers.map binaryAnswer) .bids := by
    intro hbids
    generalize hany : false = any at h
    cases h with
    | each horder =>
      rw [(Setup.any_of_tracker horder _).mpr (.inl hbids)] at hany
      cases hany
    | batch =>
      rw [decide_eq_true ((Setup.successExecuted_pos (List.Perm.refl _)).mpr (.inl hbids))] at hany
      cases hany
  rw [List.flatMap_eq_nil_iff]
  intro answer hanswer
  by_contra hsome
  exact hnone ⟨_, List.mem_map_of_mem hanswer, (kind_eq_bids_iff answer).mpr hsome⟩

theorem binaryOutcome_eq (hcancelled : (u.enableCancellation && u.isCancelled) = false)
    {answers : List (UdfAnswer F)} {r : Byob.Reactor F} {any : Bool}
    (h : Done u (answers.map binaryAnswer) r any) :
    let received := answers.flatMap (bidsWithin u.multiBidLimit)
    binaryOutcome u r any = ⟨u.populateBids (received.map (binaryBid u)) {},
      received.map fun x => u.dropReason x.2.toScript⟩ := by
  unfold binaryOutcome
  cases any with
  | false =>
    rw [h.eq_nil]
    rfl
  | true =>
    rw [hcancelled, h.adsWithBidsByIg, List.map_map]
    rfl

/-! ## The two limits -/

theorem bidsWithin_sublist (limit : ℤ) (answers : List (UdfAnswer F)) :
    (answers.flatMap (bidsWithin limit)).Sublist (answers.flatMap namedBids) := by
  refine List.Sublist.flatMap_right _ fun answer _ => ?_
  unfold bidsWithin
  split
  · exact List.nil_sublist _
  · exact List.Sublist.refl _

theorem multiBidLimit_of_pos (h : 0 < u.rawRequest.multiBidLimit.toInt) :
    u.multiBidLimit = u.rawRequest.multiBidLimit.toInt :=
  if_neg (not_le.mpr h)

theorem bidsWithin_eq_nil {limit : ℤ} (h : limit ≤ 0) (answers : List (UdfAnswer F)) :
    answers.flatMap (bidsWithin limit) = [] := by
  rw [List.flatMap_eq_nil_iff]
  intro answer _
  unfold bidsWithin
  split
  · rfl
  · rename_i hlimit
    exact List.eq_nil_of_length_eq_zero (by omega)

/-! ## The outcomes -/

theorem agrees_of_cancelled (hcancelled : (u.enableCancellation && u.isCancelled) = true)
    (answers : List (UdfAnswer F)) (r : Byob.Reactor F) (any : Bool) :
    Agrees u perAdtechPaapiContributionsLimit answers r any := by
  have hscript : scriptOutcome u perAdtechPaapiContributionsLimit answers = {} := by
    unfold scriptOutcome
    rw [hcancelled]
    rfl
  have hbinary : binaryOutcome u r any = {} := by
    unfold binaryOutcome
    rw [hcancelled, Bool.or_true]
    rfl
  refine ⟨?_, ⟨[], List.nil_sublist _, ?_⟩, ?_⟩
  · rw [hscript, hbinary]
  · rw [hscript]
    exact .nil
  · rw [hscript, hbinary]

section Outcomes

variable {answers : List (UdfAnswer F)} {r : Byob.Reactor F} {any : Bool}

theorem agrees_iff_of_pos (hcancelled : (u.enableCancellation && u.isCancelled) = false)
    (hlimit : 0 < u.rawRequest.multiBidLimit.toInt)
    (h : Done u (answers.map binaryAnswer) r any) :
    Agrees u perAdtechPaapiContributionsLimit answers r any ↔
      ∀ x ∈ answers.flatMap (bidsWithin u.multiBidLimit),
        u.dropReason x.2.toScript = none → Unchanged u perAdtechPaapiContributionsLimit x.2 := by
  have hscript := scriptOutcome_eq hcancelled perAdtechPaapiContributionsLimit answers
  have hbinary := binaryOutcome_eq hcancelled h
  dsimp only at hscript hbinary
  have htotals : SameTotals u {} {} := by
    unfold SameTotals
    split
    · rfl
    · rfl
  rw [multiBidLimit_of_pos hlimit] at hbinary ⊢
  rw [← populateBids_eq_iff perAdtechPaapiContributionsLimit
    (answers.flatMap (bidsWithin u.rawRequest.multiBidLimit.toInt)) htotals]
  constructor
  · intro hagrees
    have hbids := hagrees.bids
    rw [hscript, hbinary] at hbids
    exact hbids
  · intro hbids
    obtain ⟨generated, hsublist, hstamped⟩ := exists_generated u
      perAdtechPaapiContributionsLimit
      (answers.flatMap (bidsWithin u.rawRequest.multiBidLimit.toInt)) {}
    refine ⟨?_, ⟨generated, hsublist.trans (bidsWithin_sublist _ _), ?_⟩, ?_⟩
    · rw [hscript, hbinary]
      exact hbids
    · rw [hscript]
      exact hstamped
    · rw [hscript, hbinary]

theorem agrees_iff_of_not_pos (hcancelled : (u.enableCancellation && u.isCancelled) = false)
    (hlimit : ¬ 0 < u.rawRequest.multiBidLimit.toInt)
    (h : Done u (answers.map binaryAnswer) r any) :
    Agrees u perAdtechPaapiContributionsLimit answers r any ↔
      answers.flatMap (bidsWithin u.multiBidLimit) = [] := by
  have hscript := scriptOutcome_eq hcancelled perAdtechPaapiContributionsLimit answers
  have hbinary := binaryOutcome_eq hcancelled h
  dsimp only at hscript hbinary
  rw [bidsWithin_eq_nil (not_lt.mp hlimit) answers] at hscript
  constructor
  · intro hagrees
    have hdropped := hagrees.dropped
    rw [hscript, hbinary] at hdropped
    exact List.map_eq_nil_iff.mp hdropped.symm
  · intro hempty
    rw [hempty] at hbinary
    refine ⟨?_, ⟨[], List.nil_sublist _, ?_⟩, ?_⟩
    · rw [hscript, hbinary]
      rfl
    · rw [hscript]
      exact .nil
    · rw [hscript, hbinary]

end Outcomes

end Reactors

/-- For every request and all bids of a UDF, script and binary agree if and only if the call is
cancelled or nothing is lost. -/
theorem agrees_iff (u : Setup F) (perAdtechPaapiContributionsLimit : ℤ)
    (answers : List (UdfAnswer F)) (r : Byob.Reactor F) (anySuccessfulBids : Bool)
    (h : Done u (answers.map binaryAnswer) r anySuccessfulBids) :
    Agrees u perAdtechPaapiContributionsLimit answers r anySuccessfulBids ↔
      (u.enableCancellation && u.isCancelled) = true ∨
        LosesNothing u perAdtechPaapiContributionsLimit answers := by
  cases hcancelled : u.enableCancellation && u.isCancelled with
  | true => exact iff_of_true (agrees_of_cancelled hcancelled answers r _) (.inl rfl)
  | false =>
    rw [or_iff_right Bool.false_ne_true]
    unfold LosesNothing
    by_cases hlimit : 0 < u.rawRequest.multiBidLimit.toInt
    · rw [agrees_iff_of_pos hcancelled hlimit h]
      simp only [hlimit, true_and]
    · rw [agrees_iff_of_not_pos hcancelled hlimit h, List.eq_nil_iff_forall_not_mem]
      simp only [hlimit, false_and]

/-- A bid whose ad is in quotes for the binary, and a bid of zero. -/
theorem agrees_iff_example :
    let u : Setup ℚ :=
      { rawRequest := { multiBidLimit := 2 }, auctionScope := .singleSeller, isZero := (· == 0) }
    let answers : List (UdfAnswer ℚ) := [⟨"shoes", .ok
      [{ ad := some (.string "red"), adText := "\"red\"", bid := 1, adCost := 0 },
        { bid := 0, adCost := 0 }]⟩]
    Agrees u 100 answers
      (u.processAll (answers.map binaryAnswer) [0] (Setup.start (answers.map binaryAnswer)))
      true := by
  intro u answers
  refine (agrees_iff u 100 answers _ _ (.batch)).mpr (.inr ?_)
  intro x hx
  refine ⟨by decide, fun hvalid => ?_⟩
  rcases List.mem_cons.mp hx with rfl | hx
  · exact ⟨⟨"red", rfl, rfl⟩, rfl, by simp, by decide, .inr (by
      intro url hurl
      cases hurl)⟩
  · rw [List.mem_singleton.mp hx] at hvalid
    exact absurd hvalid (by decide)

/-- A request with a data version: the binary leaves it out of its bids. -/
theorem not_agrees_example :
    ¬ ∀ (u : Setup ℚ) (perAdtechPaapiContributionsLimit : ℤ) (answers : List (UdfAnswer ℚ))
      (r : Byob.Reactor ℚ) (anySuccessfulBids : Bool),
      Done u (answers.map binaryAnswer) r anySuccessfulBids →
      Agrees u perAdtechPaapiContributionsLimit answers r anySuccessfulBids := by
  intro h
  let u : Setup ℚ :=
    { rawRequest := { multiBidLimit := 2, dataVersion := 5 }
      auctionScope := .singleSeller, isZero := (· == 0) }
  let answers : List (UdfAnswer ℚ) := [⟨"shoes", .ok
    [{ ad := some (.string "red"), adText := "\"red\"", bid := 1, adCost := 0 }]⟩]
  have hbids := (h u 100 answers _ _ .batch).bids
  have hversions := congrArg (List.map fun bid => bid.dataVersion) hbids
  exact absurd hversions (by decide)

end UdfAgreement

end BiddingAuction

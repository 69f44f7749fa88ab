import BiddingAuction.Bidding.BuyerDebugUrls
import BiddingAuction.Bidding.ByobPaths
import BiddingAuction.Bidding.ScriptReactor

/-!
# The bids of a UDF

A UDF is a script or a binary. The bids of a script are put into the response as they are, with
the data version of the request. Those of a binary are first copied into the messages of the
response, field by field: what is not copied is lost, and an ad is not put in quotes.
-/

namespace BiddingAuction

open Byob (Setup DebugUrlTotals DebugUrlsValidationConfig ProtectedAudienceBid)

/-! ## What a UDF returns -/

/-- A bid, in the fields that scripts and binaries both have. Its ad is a value of the script,
and a text of the binary. -/
structure UdfBid (F : Type) where
  ad : Option Json := none
  adText : String := ""
  bid : F
  render : String := ""
  adComponents : List String := []
  allowComponentAuction : Bool := false
  adCost : F
  debugReportUrls : Option DebugReportUrls := none
  modelingSignals : Int32 := 0
  bidCurrency : String := ""
  buyerReportingId : Option String := none
  buyerAndSellerReportingId : Option String := none
  selectedBuyerAndSellerReportingId : Option String := none
  privateAggregationContributions : List (PrivateAggregateContribution F) := []

/-- An interest group by its name, with what the UDF returns for it, or a status. -/
structure UdfAnswer (F : Type) where
  igName : String
  response : Except (GrpcStatusCode × String) (List (UdfBid F))

variable {F : Type}

def UdfBid.toScript (b : UdfBid F) : Byob.AdWithBid F where
  ad := b.ad
  bid := b.bid
  render := b.render
  adComponents := b.adComponents
  allowComponentAuction := b.allowComponentAuction
  adCost := b.adCost
  debugReportUrls := b.debugReportUrls
  modelingSignals := b.modelingSignals
  bidCurrency := b.bidCurrency
  buyerReportingId := b.buyerReportingId
  buyerAndSellerReportingId := b.buyerAndSellerReportingId
  selectedBuyerAndSellerReportingId := b.selectedBuyerAndSellerReportingId
  privateAggregationContributions := b.privateAggregationContributions

def UdfBid.toBinary (b : UdfBid F) : ProtectedAudienceBid F where
  ad := b.adText
  bid := b.bid
  render := b.render
  adComponents := b.adComponents
  allowComponentAuction := b.allowComponentAuction
  adCost := b.adCost
  debugReportUrls := b.debugReportUrls
  modelingSignals := b.modelingSignals
  bidCurrency := b.bidCurrency
  buyerReportingId := b.buyerReportingId.getD ""
  buyerAndSellerReportingId := b.buyerAndSellerReportingId.getD ""
  selectedBuyerAndSellerReportingId := b.selectedBuyerAndSellerReportingId.getD ""
  privateAggregationContributions := b.privateAggregationContributions

namespace UdfAgreement

/-- The answer of the script: too many bids are dropped before it is returned. -/
def scriptResult (u : Setup F) (answer : UdfAnswer F) :
    Except String (ScriptBidding.DispatchResponse F) :=
  match answer.response with
  | .error status => .error status.2
  | .ok bids => .ok ⟨answer.igName,
      some ((ScriptBidding.checkMultiBidLimit u bids).map fun b => some b.toScript)⟩

def binaryAnswer (answer : UdfAnswer F) : Byob.Answer F where
  igName := answer.igName
  response :=
    match answer.response with
    | .error status => .error status.1
    | .ok bids => .ok (bids.map UdfBid.toBinary)

/-- What a response is made of: its bids, and for each bid that was received why it is dropped. -/
structure Outcome (F : Type) where
  bids : List (Byob.AdWithBid F) := []
  verdicts : List (Option DropReason) := []

/-- What `GenerateBidsReactor` comes to. -/
def scriptOutcome (u : Setup F) (perAdtechPaapiContributionsLimit : ℤ)
    (answers : List (UdfAnswer F)) : Outcome F :=
  if u.enableCancellation && u.isCancelled then {}
  else
    let c := ScriptBidding.generateBidsCallback u perAdtechPaapiContributionsLimit
      (answers.map (scriptResult u))
    ⟨c.bids, c.verdicts⟩

/-- What `GenerateBidsBinaryReactor` comes to once all bids are done. -/
def binaryOutcome (u : Setup F) (r : Byob.Reactor F) (anySuccessfulBids : Bool) : Outcome F :=
  if !anySuccessfulBids || (u.enableCancellation && u.isCancelled) then {}
  else ⟨u.populateBids r.adsWithBidsByIg.flatten {}, r.adsWithBidsByIg.flatten.map u.dropReason⟩

/-- The binary is done: one by one in some order, or as a batch. -/
inductive Done (u : Setup F) (answers : List (Byob.Answer F)) : Byob.Reactor F → Bool → Prop
  | each {order : List ℕ} : order.Perm (List.range answers.length) → answers ≠ [] →
    Done u answers (u.processAll answers order (Setup.start answers))
      ((order.filterMap (u.statusAt answers)).foldl AsyncTaskTracker.countTask
        (.setNumTasksToTrack answers.length)).anyTaskSuccessfullyCompleted
  | batch : Done u answers
      (u.processAll answers (List.range answers.length) (Setup.start answers))
      (0 < (u.processAll answers (List.range answers.length)
        (Setup.start answers)).udfStats.successExecuted)

/-! ## Agreement -/

/-- The bids of an answer, each with the name of the interest group. -/
def namedBids (answer : UdfAnswer F) : List (String × UdfBid F) :=
  match answer.response with
  | .error _ => []
  | .ok bids => bids.map (answer.igName, ·)

/-- The bids of an answer, unless there are more than the limit. -/
def bidsWithin (limit : ℤ) (answer : UdfAnswer F) : List (String × UdfBid F) :=
  if limit < (namedBids answer).length then [] else namedBids answer

/-- The bid of the response is the one that was returned for the interest group, and has the data
version of the request. -/
structure IsStamped (u : Setup F) (generated : String × UdfBid F) (adWithBid : Byob.AdWithBid F) :
    Prop where
  interestGroupName : adWithBid.interestGroupName = generated.1
  dataVersion : adWithBid.dataVersion = u.rawRequest.dataVersion.toInt32
  bid : adWithBid.bid = generated.2.bid
  render : adWithBid.render = generated.2.render
  adComponents : adWithBid.adComponents = generated.2.adComponents

structure Agrees (u : Setup F) (perAdtechPaapiContributionsLimit : ℤ)
    (answers : List (UdfAnswer F)) (r : Byob.Reactor F) (anySuccessfulBids : Bool) : Prop where
  bids : (scriptOutcome u perAdtechPaapiContributionsLimit answers).bids =
    (binaryOutcome u r anySuccessfulBids).bids
  stamped : ∃ generated, generated.Sublist (answers.flatMap namedBids) ∧
    List.Forall₂ (IsStamped u) generated
      (scriptOutcome u perAdtechPaapiContributionsLimit answers).bids
  dropped : (scriptOutcome u perAdtechPaapiContributionsLimit answers).verdicts =
    (binaryOutcome u r anySuccessfulBids).verdicts

/-- Nothing of the bid is lost or added on one side only. -/
structure Unchanged (u : Setup F) (perAdtechPaapiContributionsLimit : ℤ) (b : UdfBid F) :
    Prop where
  ad : ∃ value, b.ad = some (.string value) ∧ b.adText = "\"" ++ value ++ "\""
  dataVersion : u.rawRequest.dataVersion = 0
  contributions : ∀ contribution ∈ b.privateAggregationContributions,
    contribution.event.eventType = .unspecified ∨ perAdtechPaapiContributionsLimit ≤ 0
  reportingIds : ∀ reportingId ∈ [b.buyerReportingId, b.buyerAndSellerReportingId,
    b.selectedBuyerAndSellerReportingId], reportingId ≠ some ""
  debugUrls : (u.isDebugReportingEnabled && !u.isRequestInCooldownOrLockout) = true ∨
    ∀ url ∈ DebugUrlsValidationConfig.urlsOf b.toScript, u.debugUrlsValidationConfig.NeverKept url

/-- No bid comes to something else on the other side: of an interest group with no more bids than
the limit, which the request sets, every bid that is not dropped is unchanged. -/
def LosesNothing (u : Setup F) (perAdtechPaapiContributionsLimit : ℤ)
    (answers : List (UdfAnswer F)) : Prop :=
  ∀ x ∈ answers.flatMap (bidsWithin u.multiBidLimit), 0 < u.rawRequest.multiBidLimit.toInt ∧
    (u.dropReason x.2.toScript = none → Unchanged u perAdtechPaapiContributionsLimit x.2)

/-! ## One bid -/

/-- What the reactor of the script writes into a bid besides its debug URLs. -/
def stamp (u : Setup F) (perAdtechPaapiContributionsLimit : ℤ) (interestGroupName : String)
    (bid : Byob.AdWithBid F) : Byob.AdWithBid F :=
  { ScriptBidding.processPAggContributions bid perAdtechPaapiContributionsLimit with
    dataVersion := u.rawRequest.dataVersion.toInt32
    interestGroupName := interestGroupName }

/-- A bid of the script before its debug URLs are validated. -/
def scriptBid (u : Setup F) (perAdtechPaapiContributionsLimit : ℤ) (x : String × UdfBid F) :
    Byob.AdWithBid F :=
  stamp u perAdtechPaapiContributionsLimit x.1 (ScriptBidding.escapeAd x.2.toScript)

/-- A bid of the binary before its debug URLs are validated. -/
def binaryBid (u : Setup F) (x : String × UdfBid F) : Byob.AdWithBid F :=
  Byob.parseProtectedAudienceBid x.1
    (u.isDebugReportingEnabled && !u.isRequestInCooldownOrLockout) x.2.toBinary

section Bid

variable {u : Setup F} {perAdtechPaapiContributionsLimit : ℤ}

theorem stamp_validated (interestGroupName : String) (bid : Byob.AdWithBid F)
    (totals : DebugUrlTotals) :
    u.debugUrlsValidationConfig.validateBuyerDebugUrls
        (stamp u perAdtechPaapiContributionsLimit interestGroupName bid) totals =
      ((u.debugUrlsValidationConfig.validateBuyerDebugUrls bid totals).1,
        stamp u perAdtechPaapiContributionsLimit interestGroupName
          (u.debugUrlsValidationConfig.validateBuyerDebugUrls bid totals).2.1,
        (u.debugUrlsValidationConfig.validateBuyerDebugUrls bid totals).2.2) := by
  have hself : stamp u perAdtechPaapiContributionsLimit interestGroupName bid =
      (stamp u perAdtechPaapiContributionsLimit interestGroupName bid).withDebug bid := rfl
  rw [hself, DebugUrlsValidationConfig.validateBuyerDebugUrls_withDebug]
  refine Prod.ext rfl (Prod.ext ?_ rfl)
  dsimp only
  conv_rhs => rw [DebugUrlsValidationConfig.validateBuyerDebugUrls_self]
  rfl

theorem keepContribution_eq_nil_iff (perAdtechPaapiContributionsLimit : ℤ)
    (kept contributions : List (PrivateAggregateContribution F)) :
    contributions.foldl (ScriptBidding.keepContribution perAdtechPaapiContributionsLimit) kept = []
      ↔ kept = [] ∧ ∀ contribution ∈ contributions,
        contribution.event.eventType = .unspecified ∨ perAdtechPaapiContributionsLimit ≤ 0 := by
  induction contributions generalizing kept with
  | nil => simp
  | cons contribution rest ih =>
    rw [List.foldl_cons, ih, List.forall_mem_cons]
    unfold ScriptBidding.keepContribution
    by_cases hkept : kept = []
    · subst hkept
      simp only [List.countP_nil, Nat.cast_zero]
      split
      · rename_i h
        simp [h]
      · rename_i h
        simp [h]
    · split
      · simp [hkept]
      · simp [hkept]

theorem nonEmpty_getD_iff (reportingId : Option String) :
    reportingId = Byob.nonEmpty (reportingId.getD "") ↔ reportingId ≠ some "" := by
  unfold Byob.nonEmpty
  cases reportingId with
  | none => simp
  | some id =>
    by_cases hempty : id = ""
    · simp [hempty]
    · simp [hempty]

theorem withDebug_binaryBid_iff (x : String × UdfBid F) :
    (scriptBid u perAdtechPaapiContributionsLimit x).withDebug (binaryBid u x) = binaryBid u x ↔
      (∃ value, x.2.ad = some (.string value) ∧ x.2.adText = "\"" ++ value ++ "\"") ∧
      u.rawRequest.dataVersion = 0 ∧
      (∀ contribution ∈ x.2.privateAggregationContributions,
        contribution.event.eventType = .unspecified ∨ perAdtechPaapiContributionsLimit ≤ 0) ∧
      (∀ reportingId ∈ [x.2.buyerReportingId, x.2.buyerAndSellerReportingId,
        x.2.selectedBuyerAndSellerReportingId], reportingId ≠ some "") := by
  have hversion : u.rawRequest.dataVersion.toInt32 = 0 ↔ u.rawRequest.dataVersion = 0 := by
    constructor
    · exact fun h => congrArg Int32.toUInt32 h
    · exact fun h => congrArg UInt32.toInt32 h
  have had : (ScriptBidding.escapeAd x.2.toScript).ad = some (.string x.2.adText) ↔
      ∃ value, x.2.ad = some (.string value) ∧ x.2.adText = "\"" ++ value ++ "\"" := by
    unfold ScriptBidding.escapeAd UdfBid.toScript
    dsimp only
    split
    · rename_i value hvalue
      simp [hvalue, eq_comm]
    · rename_i hnot
      refine iff_of_false (hnot _) ?_
      rintro ⟨value, hvalue, -⟩
      exact hnot value hvalue
  rw [← had, ← hversion, List.forall_mem_cons, List.forall_mem_cons, List.forall_mem_singleton,
    ← nonEmpty_getD_iff, ← nonEmpty_getD_iff, ← nonEmpty_getD_iff]
  unfold scriptBid stamp binaryBid Byob.parseProtectedAudienceBid Byob.AdWithBid.withDebug
  rw [Byob.AdWithBid.mk.injEq, BiddingAuction.AdWithBid.mk.injEq]
  simp only [true_and, and_true]
  have hcontributions := keepContribution_eq_nil_iff perAdtechPaapiContributionsLimit []
    x.2.privateAggregationContributions
  constructor
  · rintro ⟨⟨had, -, -, -, -, hbuyer, hcontributed, hseller, hselected⟩, -, -, -, hversion⟩
    exact ⟨had, hversion, (hcontributions.mp hcontributed).2, hbuyer, hseller, hselected⟩
  · rintro ⟨had, hversion, hcontributed, hbuyer, hseller, hselected⟩
    exact ⟨⟨had, rfl, rfl, rfl, rfl, hbuyer, hcontributions.mpr ⟨rfl, hcontributed⟩, hseller,
      hselected⟩, rfl, rfl, rfl, hversion⟩

theorem isValid_scriptBid (u : Setup F) (perAdtechPaapiContributionsLimit : ℤ)
    (x : String × UdfBid F) :
    u.isValidProtectedAudienceBid (scriptBid u perAdtechPaapiContributionsLimit x) =
      (u.dropReason x.2.toScript).isNone :=
  u.isValid_eq_isNone _

theorem isValid_binaryBid (u : Setup F) (x : String × UdfBid F) :
    u.isValidProtectedAudienceBid (binaryBid u x) = (u.dropReason x.2.toScript).isNone :=
  u.isValid_eq_isNone _

theorem unchanged_iff (x : String × UdfBid F) :
    Unchanged u perAdtechPaapiContributionsLimit x.2 ↔
      (scriptBid u perAdtechPaapiContributionsLimit x).withDebug (binaryBid u x) = binaryBid u x ∧
      ((u.isDebugReportingEnabled && !u.isRequestInCooldownOrLockout) = true ∨
        ∀ url ∈ DebugUrlsValidationConfig.urlsOf x.2.toScript,
          u.debugUrlsValidationConfig.NeverKept url) := by
  rw [withDebug_binaryBid_iff]
  constructor
  · intro h
    exact ⟨⟨h.ad, h.dataVersion, h.contributions, h.reportingIds⟩, h.debugUrls⟩
  · rintro ⟨⟨had, hversion, hcontributions, hids⟩, hurls⟩
    exact ⟨had, hversion, hcontributions, hids, hurls⟩

theorem withDebug_inj {bid bid' debug : Byob.AdWithBid F} :
    bid.withDebug debug = bid'.withDebug debug ↔ bid.withDebug bid' = bid' := by
  constructor
  · exact fun h => congrArg (fun b => b.withDebug bid') h
  · exact fun h => congrArg (fun b => b.withDebug debug) h

/-! ## The bids of the two responses -/

/-- The counters of the two sides: the same one where URLs are collected, and otherwise nothing
has been kept of the URLs of the script. -/
def SameTotals (u : Setup F) (script binary : DebugUrlTotals) : Prop :=
  if (u.isDebugReportingEnabled && !u.isRequestInCooldownOrLockout) = true then script = binary
  else script.chars = 0

theorem hasNoDebug_binaryBid (x : String × UdfBid F)
    (hcollect : ¬ (u.isDebugReportingEnabled && !u.isRequestInCooldownOrLockout) = true) :
    (binaryBid u x).HasNoDebug :=
  ⟨if_neg hcollect, rfl, rfl⟩

theorem validated_eq_iff (x : String × UdfBid F) {script binary : DebugUrlTotals}
    (h : SameTotals u script binary) :
    (u.debugUrlsValidationConfig.validateBuyerDebugUrls
        (scriptBid u perAdtechPaapiContributionsLimit x) script).2.1 =
      (u.debugUrlsValidationConfig.validateBuyerDebugUrls (binaryBid u x) binary).2.1 ↔
    Unchanged u perAdtechPaapiContributionsLimit x.2 := by
  rw [unchanged_iff]
  unfold SameTotals at h
  by_cases hcollect : (u.isDebugReportingEnabled && !u.isRequestInCooldownOrLockout) = true
  · rw [if_pos hcollect] at h
    subst h
    have hself : scriptBid u perAdtechPaapiContributionsLimit x =
        (scriptBid u perAdtechPaapiContributionsLimit x).withDebug (binaryBid u x) := by
      have hurls : (binaryBid u x).debugReportUrls = x.2.debugReportUrls := if_pos hcollect
      unfold Byob.AdWithBid.withDebug
      rw [hurls]
      rfl
    have hbinary := DebugUrlsValidationConfig.validateBuyerDebugUrls_self
      u.debugUrlsValidationConfig (binaryBid u x) script
    have hscript := DebugUrlsValidationConfig.validateBuyerDebugUrls_withDebug
      u.debugUrlsValidationConfig (scriptBid u perAdtechPaapiContributionsLimit x)
      (binaryBid u x) script
    rw [← hself] at hscript
    rw [hscript]
    conv_lhs =>
      rhs
      rw [hbinary]
    rw [withDebug_inj, and_iff_left (.inl hcollect)]
  · rw [if_neg hcollect] at h
    have hnone := hasNoDebug_binaryBid x hcollect
    rw [DebugUrlsValidationConfig.validateBuyerDebugUrls_of_hasNoDebug hnone,
      DebugUrlsValidationConfig.validateBuyerDebugUrls_self, or_iff_right hcollect]
    have hurls := DebugUrlsValidationConfig.hasNoDebug_validated_iff
      u.debugUrlsValidationConfig (scriptBid u perAdtechPaapiContributionsLimit x) ⟨rfl, rfl⟩ h
    show _ ↔ _ ∧ ∀ url ∈ DebugUrlsValidationConfig.urlsOf
      (scriptBid u perAdtechPaapiContributionsLimit x), _
    rw [← hurls]
    constructor
    · intro hsame
      have hdebug : (u.debugUrlsValidationConfig.validateBuyerDebugUrls
          (scriptBid u perAdtechPaapiContributionsLimit x) script).2.1.HasNoDebug := by
        rw [DebugUrlsValidationConfig.validateBuyerDebugUrls_self, hsame]
        exact hnone
      exact ⟨(hnone.withDebug_eq hdebug).trans hsame, hdebug⟩
    · rintro ⟨hsame, hdebug⟩
      exact (hdebug.withDebug_eq hnone).trans hsame

theorem SameTotals.next {x : String × UdfBid F} {script binary : DebugUrlTotals}
    (h : SameTotals u script binary)
    (hunchanged : Unchanged u perAdtechPaapiContributionsLimit x.2) :
    SameTotals u
      (u.debugUrlsValidationConfig.validateBuyerDebugUrls
        (scriptBid u perAdtechPaapiContributionsLimit x) script).2.2
      (u.debugUrlsValidationConfig.validateBuyerDebugUrls (binaryBid u x) binary).2.2 := by
  have hsame := (validated_eq_iff x h).mpr hunchanged
  unfold SameTotals at h ⊢
  by_cases hcollect : (u.isDebugReportingEnabled && !u.isRequestInCooldownOrLockout) = true
  · rw [if_pos hcollect] at h ⊢
    subst h
    have heq := ((unchanged_iff x).mp hunchanged).1
    have hself : scriptBid u perAdtechPaapiContributionsLimit x = binaryBid u x := by
      have hurls : (binaryBid u x).debugReportUrls = x.2.debugReportUrls := if_pos hcollect
      rw [← heq]
      unfold Byob.AdWithBid.withDebug
      rw [hurls]
      rfl
    rw [hself]
  · rw [if_neg hcollect] at h ⊢
    rw [DebugUrlsValidationConfig.validateBuyerDebugUrls_of_hasNoDebug
      (hasNoDebug_binaryBid x hcollect)] at hsame
    rw [DebugUrlsValidationConfig.chars_of_hasNoDebug, h]
    rw [hsame]
    exact hasNoDebug_binaryBid x hcollect

theorem populateBids_cons_of_valid {bid : Byob.AdWithBid F}
    (h : u.isValidProtectedAudienceBid bid = true) (rest : List (Byob.AdWithBid F))
    (totals : DebugUrlTotals) : u.populateBids (bid :: rest) totals =
      (u.debugUrlsValidationConfig.validateBuyerDebugUrls bid totals).2.1 ::
        u.populateBids rest (u.debugUrlsValidationConfig.validateBuyerDebugUrls bid totals).2.2 :=
  if_pos h

theorem populateBids_cons_of_not_valid {bid : Byob.AdWithBid F}
    (h : u.isValidProtectedAudienceBid bid = false) (rest : List (Byob.AdWithBid F))
    (totals : DebugUrlTotals) : u.populateBids (bid :: rest) totals = u.populateBids rest totals :=
  if_neg (Bool.eq_false_iff.mp h)

/-- The two responses have the same bids if and only if nothing is lost of those that are not
dropped. -/
theorem populateBids_eq_iff (perAdtechPaapiContributionsLimit : ℤ)
    (received : List (String × UdfBid F)) {script binary : DebugUrlTotals}
    (h : SameTotals u script binary) :
    u.populateBids (received.map (scriptBid u perAdtechPaapiContributionsLimit)) script =
        u.populateBids (received.map (binaryBid u)) binary ↔
      ∀ x ∈ received, u.dropReason x.2.toScript = none →
        Unchanged u perAdtechPaapiContributionsLimit x.2 := by
  induction received generalizing script binary with
  | nil => simp [Setup.populateBids]
  | cons x rest ih =>
    rw [List.map_cons, List.map_cons, List.forall_mem_cons]
    have hscript := isValid_scriptBid u perAdtechPaapiContributionsLimit x
    have hbinary := isValid_binaryBid u x
    cases hreason : u.dropReason x.2.toScript with
    | some reason =>
      rw [hreason] at hscript hbinary
      rw [populateBids_cons_of_not_valid hscript, populateBids_cons_of_not_valid hbinary, ih h]
      simp
    | none =>
      rw [hreason] at hscript hbinary
      rw [populateBids_cons_of_valid hscript, populateBids_cons_of_valid hbinary,
        List.cons.injEq, validated_eq_iff x h, forall_prop_of_true rfl]
      exact and_congr_right fun hunchanged => ih (h.next hunchanged)

theorem exists_generated (u : Setup F) (perAdtechPaapiContributionsLimit : ℤ)
    (received : List (String × UdfBid F)) (totals : DebugUrlTotals) :
    ∃ generated, generated.Sublist received ∧ List.Forall₂ (IsStamped u) generated
      (u.populateBids (received.map (scriptBid u perAdtechPaapiContributionsLimit)) totals) := by
  induction received generalizing totals with
  | nil => exact ⟨[], List.Sublist.refl _, .nil⟩
  | cons x rest ih =>
    rw [List.map_cons]
    cases hvalid : u.isValidProtectedAudienceBid
        (scriptBid u perAdtechPaapiContributionsLimit x) with
    | false =>
      rw [populateBids_cons_of_not_valid hvalid]
      obtain ⟨generated, hsublist, hstamped⟩ := ih totals
      exact ⟨generated, hsublist.cons _, hstamped⟩
    | true =>
      rw [populateBids_cons_of_valid hvalid]
      obtain ⟨generated, hsublist, hstamped⟩ :=
        ih (u.debugUrlsValidationConfig.validateBuyerDebugUrls
          (scriptBid u perAdtechPaapiContributionsLimit x) totals).2.2
      refine ⟨x :: generated, hsublist.cons_cons _, .cons ?_ hstamped⟩
      rw [DebugUrlsValidationConfig.validateBuyerDebugUrls_self]
      exact ⟨rfl, rfl, rfl, rfl, rfl⟩

end Bid

end UdfAgreement

end BiddingAuction

import BiddingAuction.SelectAd.GetBidsRequest

/-!
# The two forms of a buyer's input agree

The buyer front end converts the client's form of an input again, so what it works on is
the internal form that was sent only if both were pruned alike.
-/

namespace BiddingAuction

open Foundation.Cbor

namespace SelectAd

/-! ## Converting twice -/

section Convert

variable {lib : Library}

theorem toInterestGroup_toInterestGroupForBidding (interestGroup : InterestGroup BrowserSignals) :
    toInterestGroup (toInterestGroupForBidding lib interestGroup) = interestGroup := by
  obtain ⟨name, keys, renderIds, componentAds, userSignals, deviceSignals, origin⟩ := interestGroup
  unfold toInterestGroupForBidding toInterestGroup
  cases deviceSignals with
  | none => rfl
  | some signals => cases signals <;> rfl

theorem toBuyerInput_toBuyerInputForBidding (buyerInput : BuyerInput) :
    toBuyerInput (toBuyerInputForBidding lib buyerInput) =
      { buyerInput with
        protectedAppSignals := some (buyerInput.protectedAppSignals.getD {}) } := by
  have hgroups : (buyerInput.interestGroups.map (toInterestGroupForBidding lib)).map
      toInterestGroup = buyerInput.interestGroups := by
    rw [List.map_map]
    refine (List.map_congr_left fun group _ => ?_).trans (List.map_id _)
    exact toInterestGroup_toInterestGroupForBidding group
  unfold toBuyerInput toBuyerInputForBidding
  dsimp only
  rw [hgroups]

theorem toBuyerInputForBidding_roundTrip_iff (lib : Library) (buyerInput : BuyerInput) :
    toBuyerInput (toBuyerInputForBidding lib buyerInput) = buyerInput ↔
      buyerInput.protectedAppSignals.isSome = true := by
  rw [toBuyerInput_toBuyerInputForBidding]
  obtain ⟨interestGroups, signals, inCooldownOrLockout⟩ := buyerInput
  cases signals with
  | none =>
    constructor
    · intro h
      cases congrArg BuyerInputOf.protectedAppSignals h
    · intro h
      cases h
  | some signals => exact ⟨fun _ => rfl, fun _ => rfl⟩

theorem toBuyerInputForBidding_twice (buyerInput : BuyerInput) :
    toBuyerInputForBidding lib (toBuyerInput (toBuyerInputForBidding lib buyerInput)) =
      { toBuyerInputForBidding lib buyerInput with
        protectedAppSignals := some (buyerInput.protectedAppSignals.getD {}) } := by
  rw [toBuyerInput_toBuyerInputForBidding]
  rfl

end Convert

/-! ## What a browser sends -/

section Browser

variable {lib : Library}

theorem int32?_toInt (n : Int32) : int32? (.number (n.toInt : ℚ)) = some n := by
  have hlow := n.le_toInt
  have hhigh := n.toInt_lt
  show (if ((n.toInt : ℚ)).den = 1 ∧ -2 ^ 31 ≤ ((n.toInt : ℚ)).num ∧ ((n.toInt : ℚ)).num < 2 ^ 31
    then some (Int32.ofInt ((n.toInt : ℚ)).num) else none) = some n
  rw [if_pos ⟨Rat.den_intCast _, by rw [Rat.num_intCast]; exact hlow,
    by rw [Rat.num_intCast]; exact hhigh⟩, Rat.num_intCast, Int32.ofInt_toInt]

theorem mapM_entryInMs (wins : List (Int32 × String)) :
    (wins.map fun win => Json.array [.number ((win.1 * 1).toInt : ℚ), .string win.2]).mapM
        entryInMs =
      some (wins.map fun win => .array [.number ((win.1 * 1000).toInt : ℚ), .string win.2]) := by
  induction wins with
  | nil => rfl
  | cons win rest ih =>
    have hentry : entryInMs (.array [.number ((win.1 * 1).toInt : ℚ), .string win.2]) =
        some (.array [.number ((win.1 * 1000).toInt : ℚ), .string win.2]) := by
      rw [Int32.mul_one]
      show (int32? (.number (win.1.toInt : ℚ))).map _ = _
      rw [int32?_toInt]
      rfl
    rw [List.map_cons, List.mapM_cons, hentry, ih]
    rfl

end Browser

/-! ## What is sent -/

namespace Setup

variable (u : Setup) (clientType : ClientType) (buyer : String) (b : BuyerInputForBidding)

theorem buyerInput_createGetBidsRequest :
    (u.createGetBidsRequest clientType buyer b).buyerInput = some (toBuyerInput b) := by
  unfold createGetBidsRequest
  dsimp only
  split <;> rfl

theorem buyerInputForBidding_createGetBidsRequest :
    (u.createGetBidsRequest clientType buyer b).buyerInputForBidding =
      some (u.clearInterestGroups b) := by
  unfold createGetBidsRequest
  dsimp only
  split <;> rfl

theorem protectedAppSignalsBuyerInput_createGetBidsRequest :
    (u.createGetBidsRequest clientType buyer b).protectedAppSignalsBuyerInput = none := by
  unfold createGetBidsRequest
  dsimp only
  split <;> rfl

theorem protectedAppSignals_clearInterestGroups :
    (u.clearInterestGroups b).protectedAppSignals = b.protectedAppSignals := by
  unfold clearInterestGroups
  split <;> rfl

theorem interestGroups_clearInterestGroups_of_disabled
    (hdisabled : u.isProtectedAudienceEnabled = false) :
    (u.clearInterestGroups b).interestGroups = [] := by
  rw [clearInterestGroups, if_neg (by rw [hdisabled]; exact Bool.false_ne_true)]

theorem clearInterestGroups_eq_self
    (h : u.isProtectedAudienceEnabled = true ∨ b.interestGroups = []) :
    u.clearInterestGroups b = b := by
  unfold clearInterestGroups
  split
  · rfl
  · rename_i hdisabled
    rw [← h.resolve_left hdisabled]

theorem hasAppInstallSignals_getD (signals : Option ProtectedAppSignals) :
    hasAppInstallSignals (some (signals.getD {})) = hasAppInstallSignals signals := by
  cases signals <;> rfl

/-- What an app's request says of the buyer: no app signals in the client's form; in the
internal one those that are empty, unless they are not enabled; for the rest a message of
their own. -/
structure AppRequest (request : GetBidsRawRequest) : Prop where
  buyerInput : request.buyerInput = some { toBuyerInput b with protectedAppSignals := none }
  buyerInputForBidding : request.buyerInputForBidding = some { u.clearInterestGroups b with
    protectedAppSignals :=
      if u.isPasEnabled && !hasAppInstallSignals b.protectedAppSignals then b.protectedAppSignals
      else none }
  protectedAppSignalsBuyerInput : request.protectedAppSignalsBuyerInput =
    if u.isPasEnabled && hasAppInstallSignals b.protectedAppSignals then
      some ⟨b.protectedAppSignals, u.contextualData? buyer⟩
    else none

theorem mayPopulateProtectedAppSignalsBuyerInput_spec {request : GetBidsRawRequest}
    (hinput : request.buyerInput = some (toBuyerInput b))
    (hbidding : request.buyerInputForBidding = some (u.clearInterestGroups b))
    (hsignals : request.protectedAppSignalsBuyerInput = none) :
    u.AppRequest buyer b (u.mayPopulateProtectedAppSignalsBuyerInput buyer request) := by
  have hsent : (request.buyerInput.bind BuyerInputOf.protectedAppSignals) =
      some (b.protectedAppSignals.getD {}) := by
    rw [hinput]
    rfl
  have hkept : (request.buyerInputForBidding.bind BuyerInputOf.protectedAppSignals) =
      b.protectedAppSignals := by
    rw [hbidding]
    exact u.protectedAppSignals_clearInterestGroups b
  unfold mayPopulateProtectedAppSignalsBuyerInput
  dsimp only
  rw [hsent, hkept, hasAppInstallSignals_getD]
  cases hpas : u.isPasEnabled with
  | false =>
    -- cleared on both sides
    exact ⟨by rw [hinput]; rfl, by rw [hbidding, hpas]; rfl, by rw [hpas]; exact hsignals⟩
  | true =>
    cases hhas : hasAppInstallSignals b.protectedAppSignals with
    | false =>
      refine ⟨by rw [hinput]; rfl, ?_, by rw [hpas, hhas]; exact hsignals⟩
      -- what is empty stays in the internal form
      rw [hpas, hhas, ← u.protectedAppSignals_clearInterestGroups b]
      exact hbidding
    | true =>
      exact ⟨by rw [hinput]; rfl, by rw [hbidding, hpas, hhas]; rfl, by rw [hpas, hhas]; rfl⟩

theorem appRequest_createGetBidsRequestForApp :
    u.AppRequest buyer b (u.createGetBidsRequestForApp buyer b) :=
  u.mayPopulateProtectedAppSignalsBuyerInput_spec buyer b
    (u.buyerInput_createGetBidsRequest .android buyer b)
    (u.buyerInputForBidding_createGetBidsRequest .android buyer b)
    (u.protectedAppSignalsBuyerInput_createGetBidsRequest .android buyer b)

/-! ## Agreement -/

/-- The two forms agree, and the buyer works on what the seller meant to forward. -/
structure Forwards (request : GetBidsRawRequest) : Prop where
  agree : request.buyerInput.map (toBuyerInputForBidding u.lib) = request.buyerInputForBidding
  interestGroups : u.isProtectedAudienceEnabled = false →
    (executedBuyerInput u.lib request).interestGroups = []
  noSignals : (request.buyerInput.bind BuyerInputOf.protectedAppSignals) = none ∧
    (request.buyerInputForBidding.bind BuyerInputOf.protectedAppSignals) = none
  signals : request.protectedAppSignalsBuyerInput.isSome = true ↔
    u.isPasEnabled = true ∧ hasAppInstallSignals b.protectedAppSignals = true
  sameSignals : ∀ input ∈ request.protectedAppSignalsBuyerInput,
    input.protectedAppSignals = b.protectedAppSignals

/-- The client is an app; its interest groups may be forwarded, or there are none; and app
signals that may be forwarded are not an empty message. -/
def ForwardsAll : Prop :=
  clientType = .android ∧ (u.isProtectedAudienceEnabled = true ∨ b.interestGroups = []) ∧
    (u.isPasEnabled = true → b.protectedAppSignals = none ∨
      hasAppInstallSignals b.protectedAppSignals = true)

instance : Decidable (u.ForwardsAll clientType b) := inferInstanceAs (Decidable (_ ∧ _ ∧ _))

theorem not_forwards_browser {request : GetBidsRawRequest}
    (hrequest : request.buyerInput = some (toBuyerInput b)) : ¬ u.Forwards b request := by
  intro h
  have hnone := h.noSignals.1
  rw [hrequest] at hnone
  cases hnone

/-- What the buyer makes of an app's request is the seller's internal form, without app
signals. -/
theorem executed_appRequest {input : BuyerInput} {request : GetBidsRawRequest}
    (hrequest : u.AppRequest buyer (toBuyerInputForBidding u.lib input) request) :
    request.buyerInput.map (toBuyerInputForBidding u.lib) =
      some { toBuyerInputForBidding u.lib input with protectedAppSignals := none } := by
  rw [hrequest.buyerInput]
  show some { toBuyerInputForBidding u.lib (toBuyerInput (toBuyerInputForBidding u.lib input)) with
    protectedAppSignals := none } = _
  rw [toBuyerInputForBidding_twice]

theorem forwardsAll_of_agree
    (hagree : { b with protectedAppSignals := none } =
      { u.clearInterestGroups b with
        protectedAppSignals := if u.isPasEnabled && !hasAppInstallSignals b.protectedAppSignals
          then b.protectedAppSignals else none }) :
    u.ForwardsAll .android b := by
  refine ⟨rfl, ?_, fun hpas => ?_⟩
  · have hgroups := congrArg BuyerInputOf.interestGroups hagree
    cases henabled : u.isProtectedAudienceEnabled with
    | true => exact .inl rfl
    | false =>
      exact .inr (hgroups.trans (u.interestGroups_clearInterestGroups_of_disabled b henabled))
  · have hsame := congrArg BuyerInputOf.protectedAppSignals hagree
    cases hhas : hasAppInstallSignals b.protectedAppSignals with
    | true => exact .inr rfl
    | false =>
      simp only [hpas, hhas, Bool.not_false, Bool.and_self, if_true] at hsame
      exact .inl hsame.symm

/-- App signals are left in the internal form where they may be forwarded and are empty; an input
that forwards all has none of that kind. -/
theorem keptSignals_eq_none (h : u.ForwardsAll .android b) :
    (if u.isPasEnabled && !hasAppInstallSignals b.protectedAppSignals then
      b.protectedAppSignals else none) = none := by
  split
  · rename_i hkept
    rw [Bool.and_eq_true, Bool.not_eq_true'] at hkept
    refine (h.2.2 hkept.1).resolve_right ?_
    rw [hkept.2]
    exact Bool.false_ne_true
  · rfl

theorem forwards_app_iff {input : BuyerInput} {request : GetBidsRawRequest}
    (hrequest : u.AppRequest buyer (toBuyerInputForBidding u.lib input) request) :
    u.Forwards (toBuyerInputForBidding u.lib input) request ↔
      u.ForwardsAll .android (toBuyerInputForBidding u.lib input) := by
  have hexecuted := u.executed_appRequest buyer hrequest
  obtain ⟨hinput, hbidding, hsignals⟩ := hrequest
  revert hexecuted hinput hbidding hsignals
  generalize toBuyerInputForBidding u.lib input = b
  intro hexecuted hinput hbidding hsignals
  constructor
  · intro h
    have hagree := h.agree
    rw [hexecuted, hbidding] at hagree
    exact u.forwardsAll_of_agree b (Option.some.inj hagree)
  · intro hall
    rw [u.clearInterestGroups_eq_self b hall.2.1, u.keptSignals_eq_none b hall] at hbidding
    refine ⟨hexecuted.trans hbidding.symm, fun hdisabled => ?_, ⟨?_, ?_⟩, ?_, ?_⟩
    · -- the buyer executes on the form that `hexecuted` is about
      unfold executedBuyerInput
      rw [hinput] at hexecuted ⊢
      injection hexecuted with hexecuted
      show (toBuyerInputForBidding u.lib _).interestGroups = []
      rw [hexecuted]
      exact hall.2.1.resolve_left (by rw [hdisabled]; exact Bool.false_ne_true)
    · rw [hinput]
      rfl
    · rw [hbidding]
      rfl
    · rw [hsignals]
      split
      · rename_i hboth
        exact ⟨fun _ => Bool.and_eq_true_iff.mp hboth, fun _ => rfl⟩
      · rename_i hnot
        exact ⟨nofun, fun hboth => absurd (Bool.and_eq_true_iff.mpr hboth) hnot⟩
    · intro input hmem
      rw [hsignals] at hmem
      split at hmem
      · cases hmem
        rfl
      · cases hmem

end Setup

/-- The two forms of a buyer's input agree, and forward what they should, exactly for an app
whose interest groups may be forwarded, if it has any, and that sends app signals or none,
but not an empty message, where they may be forwarded. -/
theorem forwards_iff (u : Setup) {clientType : ClientType} {b : BuyerInputForBidding}
    (hdecoded : DecodedBuyerInput u.lib clientType b) (buyer : String) :
    u.Forwards b (u.getBidsRequest clientType buyer b) ↔ u.ForwardsAll clientType b := by
  cases hdecoded with
  | browser hroot =>
    constructor
    · intro h
      exact absurd h (u.not_forwards_browser b (u.buyerInput_createGetBidsRequest .browser buyer b))
    · intro h
      exact absurd h.1 (by decide)
  | android input =>
    exact u.forwards_app_iff buyer (u.appRequest_createGetBidsRequestForApp buyer _)

/-! ## An app with an interest group -/

/-- A library that finds no document: the texts of the input below are empty. -/
def noDocuments : Library where
  parseJsonString _ := none
  serializeJsonDoc _ := none
  messageToJsonString _ := none
  toString _ := ""
  toFloat q := q

/-- A server that forwards app signals, and interest groups where they are enabled. -/
def appSetup (isProtectedAudienceEnabled : Bool) : Setup where
  lib := noDocuments
  auctionScope := .singleSeller
  auctionConfig := { seller := "https://seller.com" }
  requestAuctionConfig := { seller := "https://seller.com" }
  enableProtectedAppSignals := true
  isProtectedAudienceEnabled := isProtectedAudienceEnabled

def appInput : BuyerInput where
  interestGroups := [{ name := "group", deviceSignals := some .android }]
  protectedAppSignals := some { appInstallSignals := [1], encodingVersion := 1 }

/-- What a browser sends: an interest group with its signals, and no app signals. -/
def browserInput : BuyerInput where
  interestGroups :=
    [{ name := "group", deviceSignals := some (.browser { joinCount := 2, recencyMs := some 1 }) }]

/-- On its way through the internal form the input of a browser gains app signals. -/
theorem roundTrip_browserInput :
    ¬ ∀ (lib : Library) (buyerInput : BuyerInput),
      toBuyerInput (toBuyerInputForBidding lib buyerInput) = buyerInput := by
  intro h
  cases congrArg BuyerInputOf.protectedAppSignals (h noDocuments browserInput)

theorem forwards_appInput :
    (appSetup true).Forwards (toBuyerInputForBidding noDocuments appInput)
      ((appSetup true).getBidsRequest .android "https://buyer.com"
        (toBuyerInputForBidding noDocuments appInput)) :=
  (forwards_iff (appSetup true) (.android appInput) "https://buyer.com").mpr (by decide +kernel)

/-- The buyer gets the interest groups that a seller without protected audience meant to keep
back: they are left in the form that it reads. -/
theorem interestGroups_forwarded :
    DecodedBuyerInput noDocuments .android (toBuyerInputForBidding noDocuments appInput) ∧
      (appSetup false).isProtectedAudienceEnabled = false ∧
      (executedBuyerInput noDocuments ((appSetup false).getBidsRequest .android "https://buyer.com"
        (toBuyerInputForBidding noDocuments appInput))).interestGroups ≠ [] ∧
      ¬ (appSetup false).Forwards (toBuyerInputForBidding noDocuments appInput)
        ((appSetup false).getBidsRequest .android "https://buyer.com"
          (toBuyerInputForBidding noDocuments appInput)) := by
  have hleft : (executedBuyerInput noDocuments
      ((appSetup false).getBidsRequest .android "https://buyer.com"
        (toBuyerInputForBidding noDocuments appInput))).interestGroups ≠ [] := by
    decide +kernel
  exact ⟨.android appInput, rfl, hleft, fun h => hleft (h.interestGroups rfl)⟩

end SelectAd

end BiddingAuction

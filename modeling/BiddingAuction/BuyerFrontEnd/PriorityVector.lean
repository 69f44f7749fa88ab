import BiddingAuction.BuyerFrontEnd.BiddingRequests
import BiddingAuction.Common.Members

/-!
# Priorities of interest groups

The priority of an interest group is the product of the priority signals and its vector.
What the device says of the group is written into the document of the signals beforehand,
and is removed when the priorities of all groups are known.
-/

namespace BiddingAuction

open SelectAd (InterestGroup BrowserSignalsForBidding setMember)
open Json (names removeMember)

namespace BuyerFrontEnd

namespace PriorityVector

/-! ## The source -/

/-- The arithmetic of doubles and of durations, which are given in milliseconds. -/
structure DoubleArithmetic (Double : Type) where
  zero : Double
  /-- `sum += a * b`. -/
  addProduct : Double → ℚ → ℚ → Double
  toDoubleMinutes : Int64 → ℚ
  toDoubleHours : Int64 → ℚ
  divide : ℚ → ℚ → ℚ

def kDeviceSignalsOne : String := "deviceSignals.one"
def kDeviceSignalsAgeInMinutes : String := "deviceSignals.ageInMinutes"
def kDeviceSignalsAgeInMinutesMax60 : String := "deviceSignals.ageInMinutesMax60"
def kDeviceSignalsAgeInHoursMax24 : String := "deviceSignals.ageInHoursMax24"
def kDeviceSignalsAgeInDaysMax30 : String := "deviceSignals.ageInDaysMax30"

/-- The names of the device's signals, in the order in which they are written and removed. -/
def deviceSignalNames : List String :=
  [kDeviceSignalsOne, kDeviceSignalsAgeInMinutes, kDeviceSignalsAgeInMinutesMax60,
    kDeviceSignalsAgeInHoursMax24, kDeviceSignalsAgeInDaysMax30]

/-- `GetRecency`, in milliseconds. -/
def getRecency (browserSignals : BrowserSignalsForBidding) : Int64 :=
  match browserSignals.recencyMs with
  | some recencyMs => recencyMs
  | none => browserSignals.recency * 1000

section Source

variable {Double : Type} (arithmetic : DoubleArithmetic Double)

def deviceSignals (browserSignals : BrowserSignalsForBidding) : List (String × Json) :=
  let igAge := getRecency browserSignals
  let igAgeMinutes := arithmetic.toDoubleMinutes igAge
  let igAgeHours := arithmetic.toDoubleHours igAge
  let igAgeDays := arithmetic.divide (arithmetic.toDoubleHours igAge) 24
  [(kDeviceSignalsOne, .double 1),
    (kDeviceSignalsAgeInMinutes, .double igAgeMinutes),
    (kDeviceSignalsAgeInMinutesMax60, .double (min igAgeMinutes 60)),
    (kDeviceSignalsAgeInHoursMax24, .double (min igAgeHours 24)),
    (kDeviceSignalsAgeInDaysMax30, .double (min igAgeDays 30))]

def populateDeviceSignalFields (prioritySignals : List (String × Json))
    (browserSignals : BrowserSignalsForBidding) : List (String × Json) :=
  (deviceSignals arithmetic browserSignals).foldl
    (fun signals field => setMember field.1 field.2 signals) prioritySignals

/-- The numbers of a name that is in both vectors; the name is looked for as a C string. -/
def commonNumbers? (vector2 : List (String × Json)) (entry : String × Json) : Option (ℚ × ℚ) := do
  let value2 ← Json.findMember (cString entry.1) (.object vector2)
  return (← entry.2.number?, ← value2.number?)

def calculateDotProduct (vector1 vector2 : List (String × Json)) : Double :=
  vector1.foldl (fun priority entry =>
    match commonNumbers? vector2 entry with
    | some (value1, value2) => arithmetic.addProduct priority value1 value2
    | none => priority) arithmetic.zero

/-- The priority of an interest group by the signals as they are. -/
def igPriority (perIgPriorityVectors : FlatHashMap String (List (String × Json)))
    (prioritySignals : List (String × Json)) (igName : String) : Double :=
  match perIgPriorityVectors.lookup igName with
  | some vector => calculateDotProduct arithmetic prioritySignals vector
  | none => arithmetic.zero

/-- One turn of the loop of `CalculateInterestGroupPriorities`. -/
def prioritize (perIgPriorityVectors : FlatHashMap String (List (String × Json)))
    (acc : List (String × Json) × FlatHashMap String Double)
    (ig : InterestGroup BrowserSignalsForBidding) :
    List (String × Json) × FlatHashMap String Double :=
  let signals := populateDeviceSignalFields arithmetic acc.1 (browserSignals ig)
  (signals, acc.2.insert ig.name (igPriority arithmetic perIgPriorityVectors signals ig.name))

/-- `CalculateInterestGroupPriorities`: the signals as it leaves them, and the priorities. -/
def calculateInterestGroupPriorities (prioritySignals : List (String × Json))
    (interestGroups : List (InterestGroup BrowserSignalsForBidding))
    (perIgPriorityVectors : FlatHashMap String (List (String × Json))) :
    List (String × Json) × FlatHashMap String Double :=
  let (signals, prioritiesByIg) :=
    interestGroups.foldl (prioritize arithmetic perIgPriorityVectors) (prioritySignals, ∅)
  (deviceSignalNames.foldl (fun signals name => removeMember name signals) signals,
    prioritiesByIg)

end Source

/-! ## Members that are set -/

section SetMember

variable {name other : String} {value value' : Json} {members : List (String × Json)}

theorem setMember_of_notMem (h : name ∉ names members) :
    setMember name value members = members ++ [(name, value)] := by
  induction members with
  | nil => rfl
  | cons member rest ih =>
    obtain ⟨hne, hrest⟩ := List.ne_and_not_mem_of_not_mem_cons h
    rw [setMember, if_neg (Ne.symm hne), ih hrest, List.cons_append]

theorem setMember_twice :
    setMember name value' (setMember name value members) = setMember name value' members := by
  induction members with
  | nil =>
    show setMember name value' [(name, value)] = [(name, value')]
    rw [setMember, if_pos rfl]
  | cons member rest ih =>
    by_cases hname : member.1 = name
    · rw [setMember, if_pos hname, setMember, if_pos rfl, setMember, if_pos hname]
    · rw [setMember, if_neg hname, setMember, if_neg hname, ih, setMember, if_neg hname]

theorem setMember_comm (hne : other ≠ name) (h : name ∈ names members) :
    setMember name value (setMember other value' members) =
      setMember other value' (setMember name value members) := by
  induction members with
  | nil => cases h
  | cons member rest ih =>
    by_cases hname : member.1 = name
    · have hother : member.1 ≠ other := fun heq => hne (heq.symm.trans hname)
      rw [setMember, if_neg hother, setMember, if_pos hname, setMember, if_pos hname, setMember,
        if_neg (Ne.symm hne)]
    · have hrest : name ∈ names rest := (List.mem_cons.mp h).resolve_left (Ne.symm hname)
      by_cases hother : member.1 = other
      · rw [setMember, if_pos hother, setMember, if_neg hne, setMember, if_neg hname, setMember,
          if_pos hother]
      · rw [setMember, if_neg hother, setMember, if_neg hname, ih hrest, setMember, if_neg hname,
          setMember, if_neg hother]

theorem names_setMember_of_mem (h : name ∈ names members) :
    names (setMember name value members) = names members := by
  induction members with
  | nil => cases h
  | cons member rest ih =>
    by_cases hname : member.1 = name
    · rw [setMember, if_pos hname]
      exact congrArg (· :: names rest) hname.symm
    · rw [setMember, if_neg hname]
      exact congrArg (member.1 :: ·) (ih ((List.mem_cons.mp h).resolve_left (Ne.symm hname)))

theorem mem_names_setMember : other ∈ names (setMember name value members) ↔
    other = name ∨ other ∈ names members := by
  by_cases h : name ∈ names members
  · rw [names_setMember_of_mem h]
    exact ⟨.inr, fun hmem => hmem.elim (fun heq => heq ▸ h) id⟩
  · rw [setMember_of_notMem h, Json.names_append, List.mem_append]
    exact ⟨fun hmem => hmem.symm.imp_left List.mem_singleton.mp,
      fun hmem => hmem.symm.imp_right List.mem_singleton.mpr⟩

theorem count_names_setMember (h : other ∈ names members) :
    (names (setMember name value members)).count other = (names members).count other := by
  by_cases hname : name ∈ names members
  · rw [names_setMember_of_mem hname]
  · have hne : name ≠ other := fun heq => hname (heq ▸ h)
    rw [setMember_of_notMem hname, Json.names_append, List.count_append]
    show _ + [name].count other = _
    rw [List.count_singleton, if_neg (by rwa [beq_iff_eq]), Nat.add_zero]

end SetMember

/-! ## The device's signals -/

section Populate

variable {Double : Type} {arithmetic : DoubleArithmetic Double}

theorem setMember_foldl_setMember {name : String} {value : Json} {fields : List (String × Json)}
    (hfields : name ∉ names fields) {members : List (String × Json)} (h : name ∈ names members) :
    setMember name value
        (fields.foldl (fun signals field => setMember field.1 field.2 signals) members) =
      fields.foldl (fun signals field => setMember field.1 field.2 signals)
        (setMember name value members) := by
  induction fields generalizing members with
  | nil => rfl
  | cons field fields ih =>
    obtain ⟨hne, hrest⟩ := List.ne_and_not_mem_of_not_mem_cons hfields
    rw [List.foldl_cons, List.foldl_cons, ih hrest (mem_names_setMember.mpr (.inr h)),
      setMember_comm (Ne.symm hne) h]

theorem foldl_setMember_twice {fields fields' : List (String × Json)}
    (hnames : names fields' = names fields) (hnodup : (names fields).Nodup)
    (members : List (String × Json)) :
    fields'.foldl (fun signals field => setMember field.1 field.2 signals)
        (fields.foldl (fun signals field => setMember field.1 field.2 signals) members) =
      fields'.foldl (fun signals field => setMember field.1 field.2 signals) members := by
  induction fields generalizing fields' members with
  | nil => rfl
  | cons field fields ih =>
    cases fields' with
    | nil => cases hnames
    | cons field' fields' =>
      obtain ⟨hname, hnames⟩ := List.cons.inj hnames
      obtain ⟨hfield, hnodup⟩ := List.nodup_cons.mp hnodup
      rw [List.foldl_cons, List.foldl_cons, List.foldl_cons]
      -- the first field is set again in the document that has it
      rw [setMember_foldl_setMember (hname ▸ hfield) (mem_names_setMember.mpr (.inl hname)),
        ih hnames hnodup, show field'.1 = field.1 from hname, setMember_twice]

theorem nodup_deviceSignalNames : deviceSignalNames.Nodup := by decide

theorem nodup_names_deviceSignals (signals : BrowserSignalsForBidding) :
    (names (deviceSignals arithmetic signals)).Nodup := nodup_deviceSignalNames

theorem populateDeviceSignalFields_twice (members : List (String × Json))
    (signals signals' : BrowserSignalsForBidding) :
    populateDeviceSignalFields arithmetic
        (populateDeviceSignalFields arithmetic members signals) signals' =
      populateDeviceSignalFields arithmetic members signals' := by
  have hnames : names (deviceSignals arithmetic signals') =
      names (deviceSignals arithmetic signals) := rfl
  exact foldl_setMember_twice hnames (nodup_names_deviceSignals signals) members

/-- The document has none of the names that the device's signals take. -/
def Unclashing (prioritySignals : List (String × Json)) : Prop :=
  ∀ name ∈ deviceSignalNames, name ∉ names prioritySignals

instance : DecidablePred Unclashing := fun _ => inferInstanceAs (Decidable (∀ _ ∈ _, _))

theorem foldl_setMember_of_notMem {fields : List (String × Json)} (hnodup : (names fields).Nodup)
    {members : List (String × Json)} (h : ∀ name ∈ names fields, name ∉ names members) :
    fields.foldl (fun signals field => setMember field.1 field.2 signals) members =
      members ++ fields := by
  induction fields generalizing members with
  | nil => exact (List.append_nil members).symm
  | cons field fields ih =>
    obtain ⟨hfield, hnodup⟩ := List.nodup_cons.mp hnodup
    have hrest : ∀ name ∈ names fields, name ∉ names (members ++ [field]) := by
      intro name hname hmem
      rcases List.mem_append.mp (Json.names_append _ _ ▸ hmem) with hold | hnew
      · exact h name (List.mem_cons_of_mem _ hname) hold
      · exact hfield (List.mem_singleton.mp hnew ▸ hname)
    rw [List.foldl_cons, setMember_of_notMem (h field.1 List.mem_cons_self), ih hnodup hrest,
      List.append_assoc, List.singleton_append]

theorem populateDeviceSignalFields_of_unclashing {members : List (String × Json)}
    (h : Unclashing members) (signals : BrowserSignalsForBidding) :
    populateDeviceSignalFields arithmetic members signals =
      members ++ deviceSignals arithmetic signals :=
  foldl_setMember_of_notMem (nodup_names_deviceSignals signals) h

theorem count_names_populateDeviceSignalFields {members : List (String × Json)} {name : String}
    (h : name ∈ names members) (signals : BrowserSignalsForBidding) :
    (names (populateDeviceSignalFields arithmetic members signals)).count name =
      (names members).count name := by
  unfold populateDeviceSignalFields
  generalize deviceSignals arithmetic signals = fields
  induction fields generalizing members with
  | nil => rfl
  | cons field fields ih =>
    rw [List.foldl_cons, ih (mem_names_setMember.mpr (.inr h)), count_names_setMember h]

end Populate

/-! ## The run of the loop -/

section Loop

variable {Double : Type} {arithmetic : DoubleArithmetic Double}
  {perIgPriorityVectors : FlatHashMap String (List (String × Json))}
  {prioritySignals : List (String × Json)}

/-- The signals as the loop may leave them: as they were, or with the device's signals of some
interest group. -/
def Populated (arithmetic : DoubleArithmetic Double)
    (prioritySignals signals : List (String × Json)) : Prop :=
  signals = prioritySignals ∨
    ∃ browserSignals, signals = populateDeviceSignalFields arithmetic prioritySignals browserSignals

theorem Populated.populate {signals : List (String × Json)}
    (h : Populated arithmetic prioritySignals signals) (browserSignals : BrowserSignalsForBidding) :
    populateDeviceSignalFields arithmetic signals browserSignals =
      populateDeviceSignalFields arithmetic prioritySignals browserSignals := by
  obtain rfl | ⟨earlier, rfl⟩ := h
  · rfl
  · exact populateDeviceSignalFields_twice _ _ _

/-- The priority of an interest group by the document as it was and the group's own signals. -/
def ownPriority (arithmetic : DoubleArithmetic Double) (prioritySignals : List (String × Json))
    (perIgPriorityVectors : FlatHashMap String (List (String × Json)))
    (ig : InterestGroup BrowserSignalsForBidding) : Double :=
  igPriority arithmetic perIgPriorityVectors
    (populateDeviceSignalFields arithmetic prioritySignals (browserSignals ig)) ig.name

theorem prioritize_eq {acc : List (String × Json) × FlatHashMap String Double}
    (h : Populated arithmetic prioritySignals acc.1) (ig : InterestGroup BrowserSignalsForBidding) :
    prioritize arithmetic perIgPriorityVectors acc ig =
      (populateDeviceSignalFields arithmetic prioritySignals (browserSignals ig),
        acc.2.insert ig.name
          (ownPriority arithmetic prioritySignals perIgPriorityVectors ig)) := by
  unfold prioritize
  dsimp only
  rw [h.populate]
  rfl

theorem foldl_prioritize (interestGroups : List (InterestGroup BrowserSignalsForBidding))
    {acc : List (String × Json) × FlatHashMap String Double}
    (h : Populated arithmetic prioritySignals acc.1) :
    Populated arithmetic prioritySignals
        (interestGroups.foldl (prioritize arithmetic perIgPriorityVectors) acc).1 ∧
      (interestGroups.foldl (prioritize arithmetic perIgPriorityVectors) acc).2 =
        interestGroups.foldl (fun priorities ig => priorities.insert ig.name
          (ownPriority arithmetic prioritySignals perIgPriorityVectors ig)) acc.2 := by
  induction interestGroups generalizing acc with
  | nil => exact ⟨h, rfl⟩
  | cons ig rest ih =>
    rw [List.foldl_cons, List.foldl_cons, prioritize_eq h]
    exact ih (.inr ⟨_, rfl⟩)

theorem run_prioritize (arithmetic : DoubleArithmetic Double)
    (perIgPriorityVectors : FlatHashMap String (List (String × Json)))
    (prioritySignals : List (String × Json))
    (interestGroups : List (InterestGroup BrowserSignalsForBidding)) :
    Populated arithmetic prioritySignals
        (interestGroups.foldl (prioritize arithmetic perIgPriorityVectors) (prioritySignals, ∅)).1 ∧
      (interestGroups.foldl (prioritize arithmetic perIgPriorityVectors)
          (prioritySignals, ∅)).2 =
        interestGroups.foldl (fun priorities ig => priorities.insert ig.name
          (ownPriority arithmetic prioritySignals perIgPriorityVectors ig)) ∅ :=
  foldl_prioritize interestGroups (.inl rfl)

theorem lookup_calculateInterestGroupPriorities
    (interestGroups : List (InterestGroup BrowserSignalsForBidding)) (name : String) :
    (calculateInterestGroupPriorities arithmetic prioritySignals interestGroups
        perIgPriorityVectors).2.lookup name =
      (interestGroups.reverse.find? fun ig => ig.name = name).map
        (ownPriority arithmetic prioritySignals perIgPriorityVectors) := by
  have hrun := (run_prioritize arithmetic perIgPriorityVectors prioritySignals interestGroups).2
  unfold calculateInterestGroupPriorities
  dsimp only
  rw [hrun]
  exact FlatHashMap.lookup_foldl_insert_last _ _ interestGroups name

/-! ## Signals that are restored -/

theorem signals_of_unclashing (h : Unclashing prioritySignals)
    (interestGroups : List (InterestGroup BrowserSignalsForBidding)) :
    (calculateInterestGroupPriorities arithmetic prioritySignals interestGroups
      perIgPriorityVectors).1 = prioritySignals := by
  -- no turn was taken, or the last one's signals stand at the end
  obtain hsignals | ⟨browserSignals, hsignals⟩ :=
    (run_prioritize arithmetic perIgPriorityVectors prioritySignals interestGroups).1
  all_goals
    unfold calculateInterestGroupPriorities
    dsimp only
    rw [hsignals]
  · exact Json.foldl_removeMember_of_notMem h
  · rw [populateDeviceSignalFields_of_unclashing h, Json.foldl_removeMember_append h]
    exact List.append_nil prioritySignals

theorem unclashing_of_perm {interestGroups : List (InterestGroup BrowserSignalsForBidding)}
    (h : (calculateInterestGroupPriorities arithmetic prioritySignals interestGroups
      perIgPriorityVectors).1.Perm prioritySignals) : Unclashing prioritySignals := by
  intro name hname hmem
  have hpopulated :=
    (run_prioritize arithmetic perIgPriorityVectors prioritySignals interestGroups).1
  have hcount : (names (interestGroups.foldl (prioritize arithmetic perIgPriorityVectors)
      (prioritySignals, ∅)).1).count name = (names prioritySignals).count name := by
    obtain hsignals | ⟨browserSignals, hsignals⟩ := hpopulated
    · rw [hsignals]
    · rw [hsignals, count_names_populateDeviceSignalFields hmem]
  -- removing takes one member of each of the names
  have hleft := ((Json.names_foldl_removeMember_perm deviceSignalNames (.refl _)).symm.trans
    (h.map Prod.fst)).count_eq name
  rw [List.count_diff, hcount, nodup_deviceSignalNames.count, if_pos hname] at hleft
  have hpos := List.count_pos_iff.mpr hmem
  have hsame : (names prioritySignals).count name - 1 = (names prioritySignals).count name := hleft
  omega

/-! ## Any order of the interest groups -/

/-- The interest groups of one name have one priority, each by its own signals. -/
def AgreeByName (arithmetic : DoubleArithmetic Double) (prioritySignals : List (String × Json))
    (perIgPriorityVectors : FlatHashMap String (List (String × Json)))
    (interestGroups : List (InterestGroup BrowserSignalsForBidding)) : Prop :=
  ∀ ig ∈ interestGroups, ∀ other ∈ interestGroups, ig.name = other.name →
    ∀ vector, perIgPriorityVectors.lookup ig.name = some vector →
      calculateDotProduct arithmetic
          (populateDeviceSignalFields arithmetic prioritySignals (browserSignals ig)) vector =
        calculateDotProduct arithmetic
          (populateDeviceSignalFields arithmetic prioritySignals (browserSignals other)) vector

theorem ownPriority_of_agreeByName
    {interestGroups : List (InterestGroup BrowserSignalsForBidding)}
    (h : AgreeByName arithmetic prioritySignals perIgPriorityVectors interestGroups)
    {ig other : InterestGroup BrowserSignalsForBidding} (hig : ig ∈ interestGroups)
    (hother : other ∈ interestGroups) (hname : ig.name = other.name) :
    ownPriority arithmetic prioritySignals perIgPriorityVectors ig =
      ownPriority arithmetic prioritySignals perIgPriorityVectors other := by
  unfold ownPriority igPriority
  rw [← hname]
  cases hvector : perIgPriorityVectors.lookup ig.name with
  | none => rfl
  | some vector => exact h ig hig other hother hname vector hvector

theorem lookup_perm {interestGroups other : List (InterestGroup BrowserSignalsForBidding)}
    (h : AgreeByName arithmetic prioritySignals perIgPriorityVectors interestGroups)
    (hperm : other.Perm interestGroups) (name : String) :
    (calculateInterestGroupPriorities arithmetic prioritySignals other
        perIgPriorityVectors).2.lookup name =
      (calculateInterestGroupPriorities arithmetic prioritySignals interestGroups
        perIgPriorityVectors).2.lookup name := by
  rw [lookup_calculateInterestGroupPriorities, lookup_calculateInterestGroupPriorities]
  have hmem : ∀ ig, ig ∈ other.reverse ↔ ig ∈ interestGroups.reverse := by
    intro ig
    rw [List.mem_reverse, List.mem_reverse, hperm.mem_iff]
  cases hother : other.reverse.find? fun ig => ig.name = name with
  | none =>
    have hnone : (interestGroups.reverse.find? fun ig => ig.name = name) = none :=
      List.find?_eq_none.mpr fun ig hig =>
        List.find?_eq_none.mp hother ig ((hmem ig).mpr hig)
    rw [hnone]
  | some ig =>
    -- the last group of the name in the one order and in the other, which may be two
    have hig := (hmem ig).mp (List.mem_of_find?_eq_some hother)
    have hname : ig.name = name := of_decide_eq_true (List.find?_some hother :)
    cases hfound : interestGroups.reverse.find? fun ig => ig.name = name with
    | none => exact absurd (decide_eq_true hname) (List.find?_eq_none.mp hfound ig hig)
    | some found =>
      have hfoundName : found.name = name := of_decide_eq_true (List.find?_some hfound :)
      exact congrArg some (ownPriority_of_agreeByName h (List.mem_reverse.mp hig)
        (List.mem_reverse.mp (List.mem_of_find?_eq_some hfound))
        (hname.trans hfoundName.symm))

theorem lookup_append_singleton (interestGroups : List (InterestGroup BrowserSignalsForBidding))
    (ig : InterestGroup BrowserSignalsForBidding) :
    (calculateInterestGroupPriorities arithmetic prioritySignals (interestGroups ++ [ig])
        perIgPriorityVectors).2.lookup ig.name =
      some (ownPriority arithmetic prioritySignals perIgPriorityVectors ig) := by
  rw [lookup_calculateInterestGroupPriorities, List.reverse_append, List.reverse_singleton,
    List.singleton_append, List.find?_cons, decide_eq_true (rfl : ig.name = ig.name)]
  rfl

theorem agreeByName_of_perm {interestGroups : List (InterestGroup BrowserSignalsForBidding)}
    (h : ∀ other : List (InterestGroup BrowserSignalsForBidding), other.Perm interestGroups →
      ∀ name, (calculateInterestGroupPriorities arithmetic prioritySignals other
          perIgPriorityVectors).2.lookup name =
        (calculateInterestGroupPriorities arithmetic prioritySignals interestGroups
          perIgPriorityVectors).2.lookup name) :
    AgreeByName arithmetic prioritySignals perIgPriorityVectors interestGroups := by
  -- each of the two groups may come last
  have hlast : ∀ ig ∈ interestGroups, (calculateInterestGroupPriorities arithmetic prioritySignals
      interestGroups perIgPriorityVectors).2.lookup ig.name =
        some (ownPriority arithmetic prioritySignals perIgPriorityVectors ig) := by
    intro ig hig
    have hperm : (interestGroups.erase ig ++ [ig]).Perm interestGroups :=
      (List.perm_append_singleton ig _).trans (List.perm_cons_erase hig).symm
    rw [← h _ hperm, lookup_append_singleton]
  intro ig hig other hother hname vector hvector
  have hsame := hlast ig hig
  rw [hname, hlast other hother] at hsame
  have hown := Option.some.inj hsame
  unfold ownPriority igPriority at hown
  rw [← hname, hvector] at hown
  exact hown.symm

end Loop

/-! ## When it holds -/

/-- The signals are as they were, and the priorities the same in every order. -/
structure Reset {Double : Type} (arithmetic : DoubleArithmetic Double)
    (prioritySignals : List (String × Json))
    (perIgPriorityVectors : FlatHashMap String (List (String × Json)))
    (interestGroups : List (InterestGroup BrowserSignalsForBidding)) : Prop where
  signals : (calculateInterestGroupPriorities arithmetic prioritySignals interestGroups
    perIgPriorityVectors).1.Perm prioritySignals
  order : ∀ other : List (InterestGroup BrowserSignalsForBidding), other.Perm interestGroups →
    ∀ name, (calculateInterestGroupPriorities arithmetic prioritySignals other
        perIgPriorityVectors).2.lookup name =
      (calculateInterestGroupPriorities arithmetic prioritySignals interestGroups
        perIgPriorityVectors).2.lookup name

theorem reset_iff {Double : Type} (arithmetic : DoubleArithmetic Double)
    (prioritySignals : List (String × Json))
    (perIgPriorityVectors : FlatHashMap String (List (String × Json)))
    (interestGroups : List (InterestGroup BrowserSignalsForBidding)) :
    Reset arithmetic prioritySignals perIgPriorityVectors interestGroups ↔
      Unclashing prioritySignals ∧
        AgreeByName arithmetic prioritySignals perIgPriorityVectors interestGroups := by
  constructor
  · intro h
    exact ⟨unclashing_of_perm h.signals, agreeByName_of_perm h.order⟩
  · rintro ⟨hunclashing, hagree⟩
    refine ⟨?_, fun other hperm name => lookup_perm hagree hperm name⟩
    rw [signals_of_unclashing hunclashing]

def exactArithmetic : DoubleArithmetic ℚ where
  zero := 0
  addProduct sum a b := sum + a * b
  toDoubleMinutes ms := ms.toInt / 60000
  toDoubleHours ms := ms.toInt / 3600000
  divide a b := a / b

/-- Signals of the seller's that are named like one of the device's are lost. -/
theorem not_reset_one :
    ¬ ∀ (prioritySignals : List (String × Json))
      (perIgPriorityVectors : FlatHashMap String (List (String × Json)))
      (interestGroups : List (InterestGroup BrowserSignalsForBidding)),
      Reset exactArithmetic prioritySignals perIgPriorityVectors interestGroups := by
  intro h
  have hreset := h [("deviceSignals.one", .number 2), ("sports", .number 1)] ∅ [{ name := "group" }]
  exact absurd (unclashing_of_perm hreset.signals) (by decide)

end PriorityVector

end BuyerFrontEnd

end BiddingAuction

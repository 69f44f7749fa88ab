import BiddingAuction.SelectAd.BuyerInputErrors
import BiddingAuction.Web.UpdateGroupErrors

/-!
# Safety of decoding a buyer's input

Every error makes a function that fails fast return before the next access. One that goes on
skips what it cannot read, but for a previous win of another length than two: its elements are
read after the error.
-/

namespace BiddingAuction

open Foundation
open SelectAd (BrowserSignalsForBidding BuyerInputForBidding InterestGroup kBrowserSignalKeys
  kInterestGroupKeys)

namespace LoadedInput

/-! ## What is not defined -/

/-- A previous win that has its two elements, if it is an array. -/
def prevWinIsLong : CborItem → Bool
  | .array items => 2 ≤ items.length
  | _ => true

/-- The previous wins, under their key, if they are an array. -/
def browserSignalIsLong (signal : CborItem × CborItem) : Bool :=
  match (cborDecodeString signal.1).bind (findKeyIndex kBrowserSignalKeys), signal.2 with
  | some 3, .array prevWinsEntries => prevWinsEntries.all prevWinIsLong
  | _, _ => true

def browserSignalsAreLong : CborItem → Bool
  | .map entries => entries.all browserSignalIsLong
  | _ => true

def interestGroupEntryIsLong (igEntry : CborItem × CborItem) : Bool :=
  match (cborDecodeString igEntry.1).bind (findKeyIndex kInterestGroupKeys) with
  | some 5 => browserSignalsAreLong igEntry.2
  | _ => true

def interestGroupIsLong : CborItem → Bool
  | .map entries => entries.all interestGroupEntryIsLong
  | _ => true

/-- No previous win of the buyer's input is shorter than the two elements that are read. -/
def buyerInputIsLong : CborItem → Bool
  | .array interestGroups => interestGroups.all interestGroupIsLong
  | _ => true

/-! ## Safety of a step -/

section Step

variable {α β : Type} {failFast : Bool}

theorem returnIfPrevErrors_isSome {s : Decoding α} {goOn : Option (Flow (Decoding α))} :
    (returnIfPrevErrors failFast s goOn).isSome = true ↔
      (s.errors ≠ [] ∧ failFast = true) ∨ goOn.isSome = true := by
  unfold returnIfPrevErrors
  cases failFast <;> cases s.errors <;> simp

/-- Without `fail_fast` nothing returns early. -/
theorem returnIfPrevErrors_false {s : Decoding α} {goOn : Option (Flow (Decoding α))} :
    returnIfPrevErrors false s goOn = goOn := by
  unfold returnIfPrevErrors
  rw [Bool.and_false]
  rfl

theorem isTypeValid_of_valid {isValidType : CborItem → Bool} {item : CborItem}
    (h : isValidType item = true) (fieldName expectedType : String) (errors : ErrorAccumulator) :
    isTypeValid isValidType item fieldName expectedType errors = (true, errors) :=
  if_pos h

theorem isTypeValid_of_not_valid {isValidType : CborItem → Bool} {item : CborItem}
    (h : isValidType item = false) (fieldName expectedType : String) (errors : ErrorAccumulator) :
    (isTypeValid isValidType item fieldName expectedType errors).1 = false ∧
      (isTypeValid isValidType item fieldName expectedType errors).2 ≠ [] := by
  unfold isTypeValid
  rw [h]
  exact ⟨rfl, by simp⟩

theorem errors_of_isTypeValid {isValidType : CborItem → Bool} {item : CborItem}
    {fieldName expectedType : String} {errors : ErrorAccumulator}
    (h : (isTypeValid isValidType item fieldName expectedType errors).2 = []) :
    isValidType item = true ∧ errors = [] := by
  cases hvalid : isValidType item with
  | false => exact absurd h (isTypeValid_of_not_valid hvalid fieldName expectedType errors).2
  | true =>
    rw [isTypeValid_of_valid hvalid] at h
    exact ⟨rfl, h⟩

theorem checked_isSome_iff {isValidType : CborItem → Bool} {item : CborItem}
    {fieldName expectedType : String} {errors : ErrorAccumulator} {safe : Prop}
    (s : ErrorAccumulator → Decoding α)
    (read : ErrorAccumulator → Option (Flow (Decoding α)))
    (hread : isValidType item = true → ((read errors).isSome = true ↔ failFast = true ∨ safe)) :
    let checked := isTypeValid isValidType item fieldName expectedType errors
    (returnIfPrevErrors failFast (s checked.2)
        (if checked.1 then read checked.2 else some (.next (s checked.2)))).isSome = true ↔
      failFast = true ∨ (isValidType item = true → safe) := by
  cases hvalid : isValidType item with
  | true =>
    dsimp only
    rw [isTypeValid_of_valid hvalid, returnIfPrevErrors_isSome, if_pos rfl, hread hvalid]
    tauto
  | false =>
    obtain ⟨hfalse, -⟩ := isTypeValid_of_not_valid hvalid fieldName expectedType errors
    dsimp only
    rw [hfalse, returnIfPrevErrors_isSome]
    exact iff_of_true (.inr rfl) (.inr fun h => nomatch h)

theorem readField_isSome_iff {isValidType : CborItem → Bool} {fieldName expectedType : String}
    {read : CborItem → ErrorAccumulator → Option (Decoding β)} {set : α → β → α}
    {s : Decoding α} {item : CborItem} {safe : Prop}
    (hread : isValidType item = true →
      ((read item s.errors).isSome = true ↔ failFast = true ∨ safe)) :
    (readField failFast isValidType fieldName expectedType read set s item).isSome = true ↔
      failFast = true ∨ (isValidType item = true → safe) := by
  refine checked_isSome_iff (fun errors => ⟨s.value, errors⟩)
    (fun errors => (read item errors).map fun field =>
      .next ⟨set s.value field.value, field.errors⟩)
    fun hvalid => ?_
  rw [Option.isSome_map]
  exact hread hvalid

theorem readField_accessed {isValidType : CborItem → Bool} {fieldName expectedType : String}
    {access : CborItem → Option β} (haccess : ∀ item, (access item).isSome = isValidType item)
    {set : α → β → α} {s : Decoding α} {item : CborItem} :
    (readField failFast isValidType fieldName expectedType (accessed access) set s item).isSome =
      true := by
  have hread (hvalid : isValidType item = true) :
      (accessed access item s.errors).isSome = true ↔ failFast = true ∨ True := by
    unfold accessed
    rw [Option.isSome_map, haccess, hvalid]
    exact iff_of_true rfl (.inr trivial)
  exact (readField_isSome_iff hread).mpr (.inr fun _ => trivial)

theorem readField_isNext {isValidType : CborItem → Bool} {fieldName expectedType : String}
    {read : CborItem → ErrorAccumulator → Option (Decoding β)} {set : α → β → α}
    {s : Decoding α} {item : CborItem} {flow : Flow (Decoding α)}
    (h : readField false isValidType fieldName expectedType read set s item = some flow) :
    flow.IsNext := by
  unfold readField at h
  rw [returnIfPrevErrors_false] at h
  split at h
  · obtain ⟨field, -, rfl⟩ := Option.map_eq_some_iff.mp h
    trivial
  · cases h
    trivial

theorem loopFailFast_isSome_iff (body : Bool → α → β → Option (Flow α)) {safe : β → Prop}
    (hbody : ∀ s item, (body failFast s item).isSome = true ↔ failFast = true ∨ safe item)
    (hnext : ∀ s item flow, body false s item = some flow → flow.IsNext) (s : α)
    (items : List β) :
    (loopOrReturn (body failFast) s items).isSome = true ↔
      failFast = true ∨ ∀ item ∈ items, safe item := by
  refine loopOrReturn_isSome_iff hbody (fun hquits s item flow h => ?_) s items
  rw [Bool.not_eq_true] at hquits
  subst hquits
  exact hnext s item flow h

end Step

/-! ## Safety of the decoders -/

section Decoders

variable {failFast : Bool}

theorem decodeStringArray_isSome (fieldName : String) (span : List CborItem)
    (errors : ErrorAccumulator) :
    (decodeStringArray failFast fieldName span errors).isSome = true := by
  unfold decodeStringArray
  rw [Option.isSome_map]
  exact loopOrReturn_isSome (fun s item => readField_accessed cborDecodeString_isSome) _ span

theorem readPrevWin_isSome_of_long {items : List CborItem} (hlong : 2 ≤ items.length)
    (s : Decoding (List (Int32 × String))) :
    (readPrevWin failFast (.array items) s).isSome = true := by
  match items, hlong with
  | relativeTime :: maybeAdRenderId :: rest, _ =>
    simp only [readPrevWin, cborArrayGet, cborArrayHandle, Option.bind_some,
      List.getElem?_cons_zero, List.getElem?_cons_succ, returnIfPrevErrors_isSome]
    refine .inr (.inr ?_)
    split
    · rfl
    · rename_i hnone
      -- without an error both have their types
      have hempty : (isTypeValid cborIsaString maybeAdRenderId "browserSignals[x].prevWins[y][1]"
          "string" (isTypeValid cborIsInt relativeTime "browserSignals[x].prevWins[y][0]" "int"
            s.errors).2).2 = [] := by simpa using hnone
      obtain ⟨hstring, herrors⟩ := errors_of_isTypeValid hempty
      obtain ⟨hint, -⟩ := errors_of_isTypeValid herrors
      obtain ⟨time, htime⟩ := Option.isSome_iff_exists.mp
        ((cborGetInt_isSome relativeTime).trans hint)
      obtain ⟨adRenderId, had⟩ := Option.isSome_iff_exists.mp
        ((cborDecodeString_isSome maybeAdRenderId).trans hstring)
      rw [htime, had]
      rfl

theorem readPrevWin_of_short {items : List CborItem} (hshort : ¬ 2 ≤ items.length)
    (s : Decoding (List (Int32 × String))) : readPrevWin false (.array items) s = none := by
  match items, hshort with
  | [], _ => rfl
  | [relativeTime], _ =>
    simp only [readPrevWin, cborArrayGet, cborArrayHandle, Option.bind_some,
      List.getElem?_cons_zero, returnIfPrevErrors_false]
    rfl
  | _ :: _ :: _, hshort => exact absurd (by simp) hshort

theorem decodePrevWin_isSome_iff (owner : String) (s : Decoding (List (Int32 × String)))
    (prevWin : CborItem) :
    (decodePrevWin failFast owner s prevWin).isSome = true ↔
      failFast = true ∨ prevWinIsLong prevWin = true := by
  cases prevWin with
  | array items =>
    show (returnIfPrevErrors failFast ⟨s.value, s.errors⟩
      (if items.length ≠ 2 then _ else _)).isSome = true ↔ _
    rw [returnIfPrevErrors_isSome, prevWinIsLong, decide_eq_true_eq]
    by_cases htwo : items.length = 2
    · rw [if_neg (not_not_intro htwo)]
      exact iff_of_true (.inr (readPrevWin_isSome_of_long htwo.ge _)) (.inr htwo.ge)
    · rw [if_pos htwo, returnIfPrevErrors_isSome]
      by_cases hlong : 2 ≤ items.length
      · exact iff_of_true (.inr (.inr (readPrevWin_isSome_of_long hlong _))) (.inr hlong)
      · cases failFast with
        | true => exact iff_of_true (.inr (.inl ⟨by simp, rfl⟩)) (.inl rfl)
        | false => simp [readPrevWin_of_short hlong, hlong]
  | _ => exact iff_of_true (returnIfPrevErrors_isSome.mpr (.inr rfl)) (.inr rfl)

theorem readPrevWin_isNext {prevWin : CborItem} {s : Decoding (List (Int32 × String))}
    {flow : Flow (Decoding (List (Int32 × String)))}
    (h : readPrevWin false prevWin s = some flow) : flow.IsNext := by
  unfold readPrevWin at h
  simp only [returnIfPrevErrors_false] at h
  obtain ⟨relativeTime, -, h⟩ := Option.bind_eq_some_iff.mp h
  obtain ⟨maybeAdRenderId, -, h⟩ := Option.bind_eq_some_iff.mp h
  split at h
  · cases h
    trivial
  · obtain ⟨time, -, h⟩ := Option.bind_eq_some_iff.mp h
    obtain ⟨adRenderId, -, rfl⟩ := Option.map_eq_some_iff.mp h
    trivial

theorem decodePrevWin_isNext {owner : String} {s : Decoding (List (Int32 × String))}
    {prevWin : CborItem} {flow : Flow (Decoding (List (Int32 × String)))}
    (h : decodePrevWin false owner s prevWin = some flow) : flow.IsNext := by
  unfold decodePrevWin at h
  simp only [returnIfPrevErrors_false] at h
  split at h
  · obtain ⟨items, -, h⟩ := Option.bind_eq_some_iff.mp h
    split at h <;> exact readPrevWin_isNext h
  · cases h
    trivial

variable (lib : Library)

theorem prevWinsOf_isSome_iff {owner : String} {item : CborItem} {errors : ErrorAccumulator}
    (harray : cborIsaArray item = true) :
    (prevWinsOf lib failFast owner item errors).isSome = true ↔
      failFast = true ∨ ∃ entries, item = .array entries ∧ entries.all prevWinIsLong = true := by
  cases item with
  | array entries =>
    show (Option.map _ _).isSome = true ↔ _
    rw [Option.isSome_map, loopFailFast_isSome_iff (decodePrevWin · owner)
      (decodePrevWin_isSome_iff owner) fun _ _ _ => decodePrevWin_isNext]
    simp
  | _ => cases harray

theorem readEntry_isSome_iff {α : Type} {keyName : String}
    {read : String → Decoding α → CborItem → Option (Flow (Decoding α))}
    {safe : String → CborItem → Prop}
    (hread : ∀ key s item, (read key s item).isSome = true ↔ failFast = true ∨ safe key item)
    (s : Decoding α) (entry : CborItem × CborItem) :
    (readEntry failFast keyName read s entry).isSome = true ↔ failFast = true ∨
      ∀ key, cborDecodeString entry.1 = some key → safe key entry.2 := by
  have hvalid (hstring : cborIsaString entry.1 = true) :
      ((cborDecodeString entry.1).bind fun key =>
        read key ⟨s.value, s.errors⟩ entry.2).isSome = true ↔
        failFast = true ∨ ∀ key, cborDecodeString entry.1 = some key → safe key entry.2 := by
    obtain ⟨key, hkey⟩ := Option.isSome_iff_exists.mp
      ((cborDecodeString_isSome entry.1).trans hstring)
    rw [hkey, Option.bind_some, hread]
    simp
  refine (checked_isSome_iff (fun errors => ⟨s.value, errors⟩) (fun errors =>
    (cborDecodeString entry.1).bind fun key => read key ⟨s.value, errors⟩ entry.2) hvalid).trans ?_
  refine or_congr_right ⟨fun h key hkey => h ?_ key hkey, fun h _ => h⟩
  rw [← cborDecodeString_isSome, hkey]
  rfl

theorem readEntry_isNext {α : Type} {keyName : String}
    {read : String → Decoding α → CborItem → Option (Flow (Decoding α))}
    (hread : ∀ key s item flow, read key s item = some flow → flow.IsNext)
    {s : Decoding α} {entry : CborItem × CborItem} {flow : Flow (Decoding α)}
    (h : readEntry false keyName read s entry = some flow) : flow.IsNext := by
  unfold readEntry at h
  simp only [returnIfPrevErrors_false] at h
  split at h
  · obtain ⟨key, -, h⟩ := Option.bind_eq_some_iff.mp h
    exact hread _ _ _ _ h
  · cases h
    trivial

theorem browserSignalIsLong_iff (signal : CborItem × CborItem) :
    browserSignalIsLong signal = true ↔ ∀ key, cborDecodeString signal.1 = some key →
      findKeyIndex kBrowserSignalKeys key = some 3 →
        ∀ entries, signal.2 = .array entries → entries.all prevWinIsLong = true := by
  obtain ⟨keyItem, value⟩ := signal
  unfold browserSignalIsLong
  cases hkey : cborDecodeString keyItem with
  | none => simp
  | some key =>
    dsimp only [Option.bind_some]
    split
    · rename_i entries hindex
      constructor
      · rintro hall _ heq - _ hentries
        cases hentries
        exact hall
      · intro hall
        exact hall key rfl hindex entries rfl
    · rename_i hother
      refine iff_of_true rfl fun other heq hindex entries hentries => ?_
      cases heq
      exact (hother entries hindex hentries).elim

theorem readBrowserSignal_isSome_iff (owner key : String) (s : Decoding BrowserSignalsForBidding)
    (value : CborItem) :
    (readBrowserSignal lib failFast owner key s value).isSome = true ↔
      failFast = true ∨ (findKeyIndex kBrowserSignalKeys key = some 3 →
        ∀ entries, value = .array entries → entries.all prevWinIsLong = true) := by
  have hint (fieldName : String)
      (set : BrowserSignalsForBidding → UInt64 → BrowserSignalsForBidding) :
      (readField failFast cborIsInt fieldName "int" (accessed cborGetInt) set s value).isSome =
        true := readField_accessed cborGetInt_isSome
  unfold readBrowserSignal
  split
  · rename_i hindex
    exact iff_of_true (hint _ _) (.inr fun h => by cases hindex.symm.trans h)
  · rename_i hindex
    exact iff_of_true (hint _ _) (.inr fun h => by cases hindex.symm.trans h)
  · rename_i hindex
    exact iff_of_true (hint _ _) (.inr fun h => by cases hindex.symm.trans h)
  · refine (readField_isSome_iff fun harray => prevWinsOf_isSome_iff lib harray).trans
      (or_congr_right ⟨fun h _ entries hentries => ?_, fun h harray => ?_⟩)
    · obtain ⟨entries', hentries', hall⟩ := h (hentries ▸ rfl)
      cases hentries.symm.trans hentries'
      exact hall
    · cases value with
      | array entries => exact ⟨entries, rfl, h ‹_› entries rfl⟩
      | _ => cases harray
  · rename_i hindex
    exact iff_of_true (hint _ _) (.inr fun h => by cases hindex.symm.trans h)
  · rename_i hthree hfour
    exact iff_of_true rfl (.inr fun h => (hthree h).elim)

theorem readBrowserSignal_isNext {owner key : String} {s : Decoding BrowserSignalsForBidding}
    {value : CborItem} {flow : Flow (Decoding BrowserSignalsForBidding)}
    (h : readBrowserSignal lib false owner key s value = some flow) : flow.IsNext := by
  unfold readBrowserSignal at h
  split at h
  · exact readField_isNext h
  · exact readField_isNext h
  · exact readField_isNext h
  · exact readField_isNext h
  · exact readField_isNext h
  · cases h
    trivial

theorem decodeBrowserSignals_isSome_iff (owner : String) (root : CborItem)
    (errors : ErrorAccumulator) :
    (decodeBrowserSignals lib failFast owner root errors).isSome = true ↔
      failFast = true ∨ browserSignalsAreLong root = true := by
  cases root with
  | map entries =>
    unfold decodeBrowserSignals
    rw [isTypeValid_of_valid rfl]
    dsimp only
    rw [Bool.not_true, Bool.and_false, if_neg Bool.false_ne_true]
    show (Option.map _ _).isSome = true ↔ _
    rw [Option.isSome_map, loopFailFast_isSome_iff
      (fun failFast => readEntry failFast _ (readBrowserSignal lib failFast owner))
      (readEntry_isSome_iff (readBrowserSignal_isSome_iff lib owner))
      fun _ _ _ => readEntry_isNext fun _ _ _ _ => readBrowserSignal_isNext lib]
    rw [browserSignalsAreLong, List.all_eq_true]
    exact or_congr_right (forall₂_congr fun entry _ => (browserSignalIsLong_iff entry).symm)
  | _ => exact iff_of_true (by simp [decodeBrowserSignals, isTypeValid, cborIsaMap]) (.inr rfl)

theorem interestGroupEntryIsLong_iff (igEntry : CborItem × CborItem) :
    interestGroupEntryIsLong igEntry = true ↔ ∀ key, cborDecodeString igEntry.1 = some key →
      findKeyIndex kInterestGroupKeys key = some 5 → browserSignalsAreLong igEntry.2 = true := by
  obtain ⟨keyItem, value⟩ := igEntry
  unfold interestGroupEntryIsLong
  cases hkey : cborDecodeString keyItem with
  | none => simp
  | some key =>
    dsimp only [Option.bind_some]
    split
    · rename_i hindex
      constructor
      · rintro hlong _ heq -
        exact hlong
      · intro hlong
        exact hlong key rfl hindex
    · rename_i hother
      refine iff_of_true rfl fun other heq hindex => ?_
      cases heq
      exact (hother hindex).elim

theorem stringArrayOf_isSome {fieldName : String} {item : CborItem} {errors : ErrorAccumulator}
    (harray : cborIsaArray item = true) :
    (stringArrayOf failFast fieldName item errors).isSome = true := by
  cases item with
  | array span => exact decodeStringArray_isSome fieldName span errors
  | _ => cases harray

theorem readInterestGroupEntry_isSome_iff (key : String)
    (s : Decoding (InterestGroup BrowserSignalsForBidding × Bool)) (value : CborItem) :
    (readInterestGroupEntry lib failFast key s value).isSome = true ↔
      failFast = true ∨ (findKeyIndex kInterestGroupKeys key = some 5 →
        browserSignalsAreLong value = true) := by
  have hstring (fieldName : String) (set : InterestGroup BrowserSignalsForBidding × Bool →
      String → InterestGroup BrowserSignalsForBidding × Bool) :
      (readField failFast cborIsaString fieldName "string" (accessed cborDecodeString) set s
        value).isSome = true := readField_accessed cborDecodeString_isSome
  have hstrings (fieldName entryName : String) (set : InterestGroup BrowserSignalsForBidding ×
      Bool → List String → InterestGroup BrowserSignalsForBidding × Bool) :
      (readField failFast cborIsaArray fieldName "array" (stringArrayOf failFast entryName) set s
        value).isSome = true := by
    refine (readField_isSome_iff fun harray => iff_of_true (stringArrayOf_isSome harray) ?_).mpr
      (.inr fun _ => trivial)
    exact .inr trivial
  unfold readInterestGroupEntry
  split
  · rename_i hindex
    exact iff_of_true (hstring _ _) (.inr fun h => by cases hindex.symm.trans h)
  · rename_i hindex
    exact iff_of_true (hstrings _ _ _) (.inr fun h => by cases hindex.symm.trans h)
  · rename_i hindex
    exact iff_of_true (hstring _ _) (.inr fun h => by cases hindex.symm.trans h)
  · rename_i hindex
    exact iff_of_true (hstrings _ _ _) (.inr fun h => by cases hindex.symm.trans h)
  · rename_i hindex
    exact iff_of_true (hstrings _ _ _) (.inr fun h => by cases hindex.symm.trans h)
  · rename_i hindex
    have hsignals : _ ↔ failFast = true ∨ _ := decodeBrowserSignals_isSome_iff lib
      "interestGroups.biddingSignalKeys[x]" value s.errors
    refine Iff.trans ?_ (hsignals.trans (or_congr_right ⟨fun h _ => h, fun h => h hindex⟩))
    cases decodeBrowserSignals lib failFast "interestGroups.biddingSignalKeys[x]" value
        s.errors with
    | none => exact Iff.rfl
    | some signals => exact iff_of_true (returnIfPrevErrors_isSome.mpr (.inr rfl)) rfl
  · rename_i hindex
    exact iff_of_true (readField_accessed cborGetBool_isSome)
      (.inr fun h => by cases hindex.symm.trans h)
  · rename_i hfive hsix
    exact iff_of_true rfl (.inr fun h => (hfive h).elim)

theorem readInterestGroupEntry_isNext {key : String}
    {s : Decoding (InterestGroup BrowserSignalsForBidding × Bool)} {value : CborItem}
    {flow : Flow (Decoding (InterestGroup BrowserSignalsForBidding × Bool))}
    (h : readInterestGroupEntry lib false key s value = some flow) : flow.IsNext := by
  unfold readInterestGroupEntry at h
  split at h
  · exact readField_isNext h
  · exact readField_isNext h
  · exact readField_isNext h
  · exact readField_isNext h
  · exact readField_isNext h
  · obtain ⟨signals, -, h⟩ := Option.bind_eq_some_iff.mp h
    rw [returnIfPrevErrors_false] at h
    cases h
    trivial
  · exact readField_isNext h
  · cases h
    trivial

theorem interestGroupEntries_isNext {entries : List (CborItem × CborItem)}
    {s : Decoding (InterestGroup BrowserSignalsForBidding × Bool)}
    {flow : Flow (Decoding (InterestGroup BrowserSignalsForBidding × Bool))}
    (h : loopOrReturn (readEntry false "BuyerInput[x].key" (readInterestGroupEntry lib false)) s
      entries = some flow) : flow.IsNext :=
  loopOrReturn_isNext
    (fun _ _ _ => readEntry_isNext fun _ _ _ _ => readInterestGroupEntry_isNext lib) h

theorem decodeInterestGroup_isSome_iff (s : Decoding BuyerInputForBidding)
    (interestGroup : CborItem) :
    (decodeInterestGroup lib failFast s interestGroup).isSome = true ↔
      failFast = true ∨ interestGroupIsLong interestGroup = true := by
  cases interestGroup with
  | map entries =>
    unfold decodeInterestGroup
    rw [isTypeValid_of_valid rfl]
    dsimp only
    rw [returnIfPrevErrors_isSome, if_pos rfl]
    show _ ∨ (Option.map _ _).isSome = true ↔ _
    rw [Option.isSome_map, loopFailFast_isSome_iff
      (fun failFast => readEntry failFast _ (readInterestGroupEntry lib failFast))
      (readEntry_isSome_iff (readInterestGroupEntry_isSome_iff lib))
      fun _ _ _ => readEntry_isNext fun _ _ _ _ => readInterestGroupEntry_isNext lib,
      interestGroupIsLong, List.all_eq_true]
    simp only [← interestGroupEntryIsLong_iff]
    tauto
  | _ => exact iff_of_true (returnIfPrevErrors_isSome.mpr (.inr rfl)) (.inr rfl)

theorem decodeInterestGroup_isNext {s : Decoding BuyerInputForBidding} {interestGroup : CborItem}
    {flow : Flow (Decoding BuyerInputForBidding)}
    (h : decodeInterestGroup lib false s interestGroup = some flow) : flow.IsNext := by
  unfold decodeInterestGroup at h
  simp only [returnIfPrevErrors_false] at h
  split at h
  · obtain ⟨entries, -, h⟩ := Option.bind_eq_some_iff.mp h
    obtain ⟨group, hgroup, rfl⟩ := Option.map_eq_some_iff.mp h
    cases group with
    | next group => trivial
    | returned group => exact (interestGroupEntries_isNext lib hgroup).elim
  · cases h
    trivial

/-- A loaded item is decoded safely if every error makes the function return, and otherwise
exactly if no previous win is too short. -/
theorem decodeLoadedBuyerInput_isSome_iff (root : CborItem) (errors : ErrorAccumulator) :
    (decodeLoadedBuyerInput lib failFast root errors).isSome = true ↔
      failFast = true ∨ buyerInputIsLong root = true := by
  cases root with
  | array interestGroups =>
    unfold decodeLoadedBuyerInput
    rw [isTypeValid_of_valid rfl]
    dsimp only
    rw [Bool.not_true, Bool.and_false, if_neg Bool.false_ne_true]
    show (Option.map _ _).isSome = true ↔ _
    rw [Option.isSome_map, loopFailFast_isSome_iff (decodeInterestGroup lib)
      (decodeInterestGroup_isSome_iff lib) fun _ _ _ => decodeInterestGroup_isNext lib,
      buyerInputIsLong, List.all_eq_true]
  | _ => exact iff_of_true (by simp [decodeLoadedBuyerInput, isTypeValid, cborIsaArray]) (.inr rfl)

end Decoders

/-! ## The whole -/

/-- Only what is defined is read, and a buyer's input comes out, with the errors. -/
structure IsDecodedSafely (lib : Library) (failFast : Bool)
    (gzipDecompress : Bytes → Option Bytes) (cborLoad : Bytes → Option CborItem) (owner : String)
    (compressedBuyerInput : Bytes) (errors : ErrorAccumulator) (serializedGroups : CborItem) :
    Prop where
  buyerInput : ∃ decoded, decodeBuyerInput lib failFast gzipDecompress cborLoad owner
    compressedBuyerInput errors = some decoded
  updateGroups : cborDecodeUpdateGroupMapToProto serializedGroups ≠ .error .misused

/-- Decoding is safe iff it fails fast, or no previous win of the loaded item is shorter than two
elements; and the update groups are a map, sound up to the first entry that is refused. -/
theorem isDecodedSafely_iff (lib : Library) (failFast : Bool)
    (gzipDecompress : Bytes → Option Bytes) (cborLoad : Bytes → Option CborItem) (owner : String)
    (compressedBuyerInput : Bytes) (errors : ErrorAccumulator) (serializedGroups : CborItem) :
    IsDecodedSafely lib failFast gzipDecompress cborLoad owner compressedBuyerInput errors
        serializedGroups ↔
      (failFast = true ∨ ∀ root, (gzipDecompress compressedBuyerInput).bind cborLoad = some root →
        buyerInputIsLong root = true) ∧
      updateGroupsAreSound serializedGroups = true := by
  have hbuyer : (∃ decoded, decodeBuyerInput lib failFast gzipDecompress cborLoad owner
      compressedBuyerInput errors = some decoded) ↔
      failFast = true ∨ ∀ root, (gzipDecompress compressedBuyerInput).bind cborLoad = some root →
        buyerInputIsLong root = true := by
    rw [← Option.isSome_iff_exists]
    unfold decodeBuyerInput
    cases gzipDecompress compressedBuyerInput with
    | none => simp
    | some bytes =>
      rw [Option.bind_some]
      dsimp only
      cases cborLoad bytes with
      | none => simp
      | some root => simp [decodeLoadedBuyerInput_isSome_iff]
  rw [← hbuyer, ← cborDecodeUpdateGroupMapToProto_ne_misused]
  exact ⟨fun h => ⟨h.buyerInput, h.updateGroups⟩, fun h => ⟨h.1, h.2⟩⟩

/-- An empty previous win is read past its end, and the key of an update group that is no string
is decoded. -/
theorem emptyPrevWin_misused :
    let lib : Library := ⟨fun _ => none, fun _ => none, fun _ => none, fun _ => "", id⟩
    let root : CborItem := .array [.map [(.string "browserSignals",
      .map [(.string "prevWins", .array [.array []])])]]
    let groups : CborItem := .map [(.string "owner", .array [.map [(.uint 1, .uint 2)]])]
    decodeBuyerInput lib false some (fun _ => some root) "buyer" [] [] = none ∧
      cborDecodeUpdateGroupMapToProto groups = .error .misused :=
  ⟨rfl, rfl⟩

end LoadedInput

end BiddingAuction

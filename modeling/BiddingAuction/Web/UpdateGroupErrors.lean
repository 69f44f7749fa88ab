import BiddingAuction.Foundation.EarlyReturn
import BiddingAuction.Web.LoadedItems
import BiddingAuction.Web.Messages

/-!
# Malformed update groups

The update groups of an auction result are refused where a type is checked. A key is decoded
before it is checked, and a value is not checked at all.
-/

namespace BiddingAuction

open Foundation

namespace LoadedInput

/-! ## Decoding -/

/-- A status, or an access that is not defined. -/
inductive UpdateGroupError where
  | invalidArgument (message : String)
  | misused
deriving DecidableEq, Repr

def orMisused {α : Type} : Option α → Except UpdateGroupError α
  | some value => .ok value
  | none => .error .misused

/-- One member of an update. The key is decoded before it is checked, a value is not checked. -/
def decodeUpdateField (update : UpdateInterestGroup) (kv : CborItem × CborItem) :
    Except UpdateGroupError UpdateInterestGroup := do
  let field ← orMisused (cborDecodeString kv.1)
  if !cborIsaString kv.1 then
    throw (.invalidArgument "Interest group update keys must be strings.")
  else if field = "index" then
    return { update with index := .ofNat (← orMisused (cborGetInt kv.2)).toNat }
  else if field = "updateIfOlderThanMs" then
    return { update with updateIfOlderThanMs := .ofNat (← orMisused (cborGetInt kv.2)).toNat }
  else throw (.invalidArgument "Interest group update key invalid.")

def decodeUpdate (updateEntry : CborItem) : Except UpdateGroupError UpdateInterestGroup := do
  if !cborIsaMap updateEntry then
    throw (.invalidArgument "Update interest group is not a map")
  (← orMisused (cborMapHandle updateEntry)).foldlM decodeUpdateField {}

def decodeOwnerEntry (updateGroupMap : UpdateGroupMap) (ownerEntry : CborItem × CborItem) :
    Except UpdateGroupError UpdateGroupMap := do
  if !cborIsaString ownerEntry.1 || !cborIsaArray ownerEntry.2 then
    throw (.invalidArgument ("Malformed interest group update list, either key is not string or " ++
      "value is not an array"))
  let updates ← (← orMisused (cborArrayHandle ownerEntry.2)).mapM decodeUpdate
  let owner ← orMisused (cborDecodeString ownerEntry.1)
  return FlatHashMap.emplace updateGroupMap owner ⟨updates⟩

def cborDecodeUpdateGroupMapToProto (serializedGroups : CborItem) :
    Except UpdateGroupError UpdateGroupMap := do
  (← orMisused (cborMapHandle serializedGroups)).foldlM decodeOwnerEntry ∅

def isUpdateKey (key : CborItem) : Bool :=
  (cborDecodeString key).any fun field => field = "index" || field = "updateIfOlderThanMs"

def updateFieldIsAccepted (kv : CborItem × CborItem) : Bool := isUpdateKey kv.1 && cborIsInt kv.2

/-- A member whose key is a string, and whose value an integer if it is read. -/
def updateFieldIsSound (kv : CborItem × CborItem) : Bool :=
  cborIsaString kv.1 && (!isUpdateKey kv.1 || cborIsInt kv.2)

def updateIsAccepted : CborItem → Bool
  | .map entries => entries.all updateFieldIsAccepted
  | _ => false

/-- The members of an update are sound, up to the first that is refused. -/
def updateIsSound : CborItem → Bool
  | .map entries => soundUpTo updateFieldIsAccepted updateFieldIsSound entries
  | _ => true

def ownerEntryIsAccepted (ownerEntry : CborItem × CborItem) : Bool :=
  match ownerEntry.2 with
  | .array updates => cborIsaString ownerEntry.1 && updates.all updateIsAccepted
  | _ => false

/-- The updates of an owner are sound, up to the first that is refused. -/
def ownerEntryIsSound (ownerEntry : CborItem × CborItem) : Bool :=
  match ownerEntry.2 with
  | .array updates => !cborIsaString ownerEntry.1 ||
    soundUpTo updateIsAccepted updateIsSound updates
  | _ => true

/-- A map whose entries are sound, up to the first that is refused. -/
def updateGroupsAreSound : CborItem → Bool
  | .map entries => soundUpTo ownerEntryIsAccepted ownerEntryIsSound entries
  | _ => false

/-! ## What is not defined -/

theorem orMisused_bind {α β : Type} {value : Option α} {f : α → Except UpdateGroupError β} :
    (orMisused value >>= f) = value.elim (.error .misused) f := by
  cases value <;> rfl

theorem decodeUpdateField_eq (update : UpdateInterestGroup) (key value : CborItem) :
    (∃ update', decodeUpdateField update (key, value) = .ok update' ∧
      isUpdateKey key = true ∧ cborIsInt value = true) ∨
    (decodeUpdateField update (key, value) = .error .misused ∧
      (cborIsaString key = false ∨ isUpdateKey key = true ∧ cborIsInt value = false)) ∨
    (∃ message, decodeUpdateField update (key, value) = .error (.invalidArgument message) ∧
      cborIsaString key = true ∧ isUpdateKey key = false) := by
  unfold decodeUpdateField isUpdateKey
  rw [← cborDecodeString_isSome, ← cborGetInt_isSome]
  simp only [orMisused_bind]
  cases cborDecodeString key with
  | none => exact .inr (.inl ⟨rfl, .inl rfl⟩)
  | some field =>
    by_cases hindex : field = "index"
    · cases cborGetInt value with
      | none => exact .inr (.inl ⟨by simp [hindex], .inr ⟨by simp [hindex], rfl⟩⟩)
      | some n => exact .inl ⟨_, by simp [hindex]; rfl, by simp [hindex], rfl⟩
    · by_cases holder : field = "updateIfOlderThanMs"
      · cases cborGetInt value with
        | none => exact .inr (.inl ⟨by simp [holder], .inr ⟨by simp [holder], rfl⟩⟩)
        | some n => exact .inl ⟨_, by simp [holder]; rfl, by simp [holder], rfl⟩
      · exact .inr (.inr ⟨_, by simp [hindex, holder]; rfl, rfl, by simp [hindex, holder]⟩)

theorem isaString_of_isUpdateKey {key : CborItem} (h : isUpdateKey key = true) :
    cborIsaString key = true := by
  rw [← cborDecodeString_isSome]
  unfold isUpdateKey at h
  cases hkey : cborDecodeString key with
  | none => rw [hkey] at h; cases h
  | some field => rfl

theorem decodeUpdateField_isOk (update : UpdateInterestGroup) (kv : CborItem × CborItem) :
    (decodeUpdateField update kv).isOk = updateFieldIsAccepted kv := by
  obtain ⟨key, value⟩ := kv
  unfold updateFieldIsAccepted
  rcases decodeUpdateField_eq update key value with
    ⟨update', heq, hkey, hint⟩ | ⟨heq, hkey | ⟨hkey, hint⟩⟩ | ⟨message, heq, -, hkey⟩
  · rw [heq, hkey, hint]
    rfl
  · have hnot : isUpdateKey key = false := Bool.eq_false_iff.mpr fun h => by
      rw [isaString_of_isUpdateKey h] at hkey
      cases hkey
    rw [heq, hnot]
    rfl
  · rw [heq, hkey, hint]
    rfl
  · rw [heq, hkey]
    rfl

theorem decodeUpdateField_ne_misused (update : UpdateInterestGroup) (kv : CborItem × CborItem) :
    decodeUpdateField update kv ≠ .error .misused ↔ updateFieldIsSound kv = true := by
  obtain ⟨key, value⟩ := kv
  unfold updateFieldIsSound
  rcases decodeUpdateField_eq update key value with
    ⟨update', heq, hkey, hint⟩ | ⟨heq, hkey | ⟨hkey, hint⟩⟩ | ⟨message, heq, hstring, hkey⟩
  · rw [heq]
    simp [hkey, hint, isaString_of_isUpdateKey hkey]
  · rw [heq]
    simp [hkey]
  · rw [heq]
    simp [hkey, hint]
  · rw [heq]
    simp [hstring, hkey]

theorem decodeUpdate_isOk (updateEntry : CborItem) :
    (decodeUpdate updateEntry).isOk = updateIsAccepted updateEntry := by
  cases updateEntry with
  | map entries => exact foldlM_isOk decodeUpdateField_isOk entries {}
  | _ => rfl

theorem decodeUpdate_ne_misused (updateEntry : CborItem) :
    decodeUpdate updateEntry ≠ .error .misused ↔ updateIsSound updateEntry = true := by
  cases updateEntry with
  | map entries =>
    exact foldlM_ne_error decodeUpdateField_isOk decodeUpdateField_ne_misused entries {}
  | _ => exact iff_of_true (fun h => nomatch h) rfl

theorem decodeOwnerEntry_eq (updateGroupMap : UpdateGroupMap) {owner : CborItem}
    (updates : List CborItem) (hstring : cborIsaString owner = true) :
    ∃ name, decodeOwnerEntry updateGroupMap (owner, .array updates) =
      (updates.mapM decodeUpdate).map fun updates =>
        FlatHashMap.emplace updateGroupMap name ⟨updates⟩ := by
  obtain ⟨name, hname⟩ := Option.isSome_iff_exists.mp
    ((cborDecodeString_isSome owner).trans hstring)
  refine ⟨name, ?_⟩
  unfold decodeOwnerEntry
  simp only [hstring, hname, orMisused_bind]
  rw [if_neg (by simp [cborIsaArray])]
  show (updates.mapM decodeUpdate >>= _) = _
  cases updates.mapM decodeUpdate <;> rfl

theorem decodeOwnerEntry_refused (updateGroupMap : UpdateGroupMap)
    (ownerEntry : CborItem × CborItem)
    (h : (!cborIsaString ownerEntry.1 || !cborIsaArray ownerEntry.2) = true) :
    ∃ message, decodeOwnerEntry updateGroupMap ownerEntry = .error (.invalidArgument message) := by
  unfold decodeOwnerEntry
  rw [if_pos h]
  exact ⟨_, rfl⟩

theorem decodeOwnerEntry_cases (updateGroupMap : UpdateGroupMap)
    (ownerEntry : CborItem × CborItem) :
    (∃ name updates, ownerEntry.2 = .array updates ∧ cborIsaString ownerEntry.1 = true ∧
      decodeOwnerEntry updateGroupMap ownerEntry = (updates.mapM decodeUpdate).map fun updates =>
        FlatHashMap.emplace updateGroupMap name ⟨updates⟩) ∨
    (∃ message, decodeOwnerEntry updateGroupMap ownerEntry = .error (.invalidArgument message) ∧
      ownerEntryIsAccepted ownerEntry = false ∧ ownerEntryIsSound ownerEntry = true) := by
  obtain ⟨owner, list⟩ := ownerEntry
  cases hrefused : !cborIsaString owner || !cborIsaArray list with
  | true =>
    obtain ⟨message, heq⟩ := decodeOwnerEntry_refused updateGroupMap (owner, list) hrefused
    refine .inr ⟨message, heq, ?_⟩
    unfold ownerEntryIsAccepted ownerEntryIsSound
    cases list with
    | array updates =>
      -- the type of the list is right, so it is the key that was refused
      have hstring : cborIsaString owner = false := by simpa [cborIsaArray] using hrefused
      exact ⟨by simp [hstring], by simp [hstring]⟩
    | _ => exact ⟨rfl, rfl⟩
  | false =>
    cases list with
    | array updates =>
      have hstring : cborIsaString owner = true := by simpa [cborIsaArray] using hrefused
      obtain ⟨name, heq⟩ := decodeOwnerEntry_eq updateGroupMap updates hstring
      exact .inl ⟨name, updates, rfl, hstring, heq⟩
    | _ => simp [cborIsaArray] at hrefused

theorem decodeOwnerEntry_isOk (updateGroupMap : UpdateGroupMap)
    (ownerEntry : CborItem × CborItem) :
    (decodeOwnerEntry updateGroupMap ownerEntry).isOk = ownerEntryIsAccepted ownerEntry := by
  rcases decodeOwnerEntry_cases updateGroupMap ownerEntry with
    ⟨name, updates, hlist, hstring, heq⟩ | ⟨message, heq, hrefused, -⟩
  · rw [heq, ownerEntryIsAccepted, hlist, hstring]
    dsimp only
    rw [Bool.true_and, ← mapM_isOk decodeUpdate_isOk]
    cases updates.mapM decodeUpdate <;> rfl
  · rw [heq, hrefused]
    rfl

theorem decodeOwnerEntry_ne_misused (updateGroupMap : UpdateGroupMap)
    (ownerEntry : CborItem × CborItem) :
    decodeOwnerEntry updateGroupMap ownerEntry ≠ .error .misused ↔
      ownerEntryIsSound ownerEntry = true := by
  rcases decodeOwnerEntry_cases updateGroupMap ownerEntry with
    ⟨name, updates, hlist, hstring, heq⟩ | ⟨message, heq, -, hsound⟩
  · rw [heq, ownerEntryIsSound, hlist, hstring]
    dsimp only
    rw [Bool.not_true, Bool.false_or, ← mapM_ne_error decodeUpdate_isOk decodeUpdate_ne_misused]
    cases updates.mapM decodeUpdate with
    | ok updates => exact iff_of_true (fun h => nomatch h) (fun h => nomatch h)
    | error e => simp [Except.map]
  · rw [heq, hsound]
    simp

theorem cborDecodeUpdateGroupMapToProto_ne_misused (serializedGroups : CborItem) :
    cborDecodeUpdateGroupMapToProto serializedGroups ≠ .error .misused ↔
      updateGroupsAreSound serializedGroups = true := by
  cases serializedGroups with
  | map entries => exact foldlM_ne_error decodeOwnerEntry_isOk decodeOwnerEntry_ne_misused entries ∅
  | _ => exact iff_of_false (fun h => h rfl) (fun h => nomatch h)

end LoadedInput

end BiddingAuction

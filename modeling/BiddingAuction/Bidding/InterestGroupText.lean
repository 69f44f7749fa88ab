import BiddingAuction.Bidding.ByobRequest
import BiddingAuction.Common.CString
import BiddingAuction.Common.JsonByHand

/-!
# `SerializeIG`

The text of an interest group for the script is put together by hand. Lists of strings are written
by the JSON library, each string up to its first null character; the name is put between quotes as
it is, and the user bidding signals are text already.
-/

namespace BiddingAuction

open JsonText

/-! ## The text -/

def serializeRepeatedStringField (repeatedStringField : List String) : String :=
  "[" ++ ",".intercalate (repeatedStringField.map fun item =>
    String.ofList (writeString (cString item))) ++ "]"

namespace InterestGroupText

def kName := "name"
def kTrustedBiddingSignalsKeys := "trustedBiddingSignalsKeys"
def kAdRenderIds := "adRenderIds"
def kAdComponentRenderIds := "adComponentRenderIds"
def kUserBiddingSignals := "userBiddingSignals"

def field (name text : String) : String := ",\"" ++ name ++ "\":" ++ text

def listField (name : String) (items : List String) : String :=
  if items.isEmpty then "" else field name (serializeRepeatedStringField items)

end InterestGroupText

open InterestGroupText

def serializeIG (ig : Byob.InterestGroupForBidding) : String :=
  "\x7b\"" ++ kName ++ "\":\"" ++ ig.name ++ "\"" ++
    listField kTrustedBiddingSignalsKeys ig.trustedBiddingSignalsKeys ++
    listField kAdRenderIds ig.adRenderIds ++
    listField kAdComponentRenderIds ig.adComponentRenderIds ++
    (if ig.userBiddingSignals = "" then "" else field kUserBiddingSignals ig.userBiddingSignals) ++
    "\x7d"

namespace InterestGroupText

/-! ## What it should be the text of -/

def listMember (name : String) (items : List String) : List (String × Json) :=
  if items.isEmpty then [] else [(name, .array (items.map .string))]

/-- The fields that are not empty, with the value of the user bidding signals. -/
def fields (ig : Byob.InterestGroupForBidding) (userBiddingSignals : Json) : List (String × Json) :=
  (if ig.name = "" then [] else [(kName, .string ig.name)]) ++
    (listMember kTrustedBiddingSignalsKeys ig.trustedBiddingSignalsKeys ++
      (listMember kAdRenderIds ig.adRenderIds ++
        (listMember kAdComponentRenderIds ig.adComponentRenderIds ++
          if ig.userBiddingSignals = "" then [] else [(kUserBiddingSignals, userBiddingSignals)])))

def readFields (ig : Byob.InterestGroupForBidding) (userBiddingSignals : Json) :
    List (String × Json) :=
  (kName, .string ig.name) ::
    (listMember kTrustedBiddingSignalsKeys (ig.trustedBiddingSignalsKeys.map cString) ++
      (listMember kAdRenderIds (ig.adRenderIds.map cString) ++
        (listMember kAdComponentRenderIds (ig.adComponentRenderIds.map cString) ++
          if ig.userBiddingSignals = "" then [] else [(kUserBiddingSignals, userBiddingSignals)])))

def writtenList (name : String) (items : List String) : List (List Char × List Char) :=
  if items.isEmpty then []
  else [(name.toList, arrayText (items.map fun item => writeString (cString item)))]

def written (ig : Byob.InterestGroupForBidding) : List (List Char × List Char) :=
  (kName.toList, '\x22' :: (ig.name.toList ++ ['\x22'])) ::
    (writtenList kTrustedBiddingSignalsKeys ig.trustedBiddingSignalsKeys ++
      (writtenList kAdRenderIds ig.adRenderIds ++
        (writtenList kAdComponentRenderIds ig.adComponentRenderIds ++
          if ig.userBiddingSignals = "" then []
          else [(kUserBiddingSignals.toList, ig.userBiddingSignals.toList)])))

/-! ## The text as that of an object -/

theorem toList_serializeRepeatedStringField (items : List String) :
    (serializeRepeatedStringField items).toList =
      arrayText (items.map fun item => writeString (cString item)) := by
  unfold serializeRepeatedStringField arrayText
  rw [String.toList_append, String.toList_append, String.toList_intercalate, List.map_map]
  have hitem : String.toList ∘ (fun item => String.ofList (writeString (cString item))) =
      fun item => writeString (cString item) := by
    funext item
    exact String.toList_ofList
  rw [hitem]
  rfl

theorem toList_field (name text : String) :
    (field name text).toList = ',' :: memberText (name.toList, text.toList) := by
  unfold field memberText
  simp [String.toList_append]

theorem toList_listField (name : String) (items : List String) :
    (listField name items).toList =
      ((writtenList name items).map memberText).flatMap fun text => ',' :: text := by
  unfold listField writtenList
  split
  · rfl
  · rw [toList_field, toList_serializeRepeatedStringField]
    simp

theorem toList_serializeIG (ig : Byob.InterestGroupForBidding) :
    (serializeIG ig).toList = objectText (written ig) := by
  have hsignals : (if ig.userBiddingSignals = "" then ""
      else field kUserBiddingSignals ig.userBiddingSignals).toList =
      ((if ig.userBiddingSignals = "" then []
        else [(kUserBiddingSignals.toList, ig.userBiddingSignals.toList)]).map memberText).flatMap
        fun text => ',' :: text := by
    split
    · rfl
    · rw [toList_field]
      simp
  unfold serializeIG objectText written
  rw [List.map_cons, intercalate_cons_flatMap]
  simp only [String.toList_append, toList_listField, hsignals, List.map_append,
    List.flatMap_append]
  unfold memberText
  simp

/-! ## What is read of it -/

section Read

variable {ig : Byob.InterestGroupForBidding} {userBiddingSignals : Json}

theorem forall₂_writtenList (name : String) (items : List String) :
    List.Forall₂ IsMember (writtenList name items) (listMember name (items.map cString)) := by
  unfold writtenList listMember
  rw [List.isEmpty_map]
  split
  · exact .nil
  · refine .cons ⟨String.ofList_toList.symm, isText_array ?_⟩ .nil
    rw [List.map_map, List.forall₂_map_left_iff, List.forall₂_map_right_iff, List.forall₂_same]
    exact fun item _ => isText_writeString (cString item)

theorem isClean_kName : IsClean kName.toList := by decide

theorem isText_written (hname : IsClean ig.name.toList)
    (hsignals : ig.userBiddingSignals ≠ "" →
      parse ig.userBiddingSignals = some userBiddingSignals) :
    IsText (objectText (written ig)) (.object (readFields ig userBiddingSignals)) := by
  have hmembers : List.Forall₂ IsMember (written ig) (readFields ig userBiddingSignals) := by
    unfold written readFields
    refine .cons ⟨String.ofList_toList.symm, ?_⟩ (List.rel_append (forall₂_writtenList _ _)
      (List.rel_append (forall₂_writtenList _ _)
        (List.rel_append (forall₂_writtenList _ _) ?_)))
    · have hquoted := isText_quoted hname
      rwa [String.ofList_toList] at hquoted
    · split
      · exact .nil
      · rename_i hsome
        exact .cons ⟨String.ofList_toList.symm, parse_eq_some_iff_isText.mp (hsignals hsome)⟩ .nil
  rw [isText_objectText_iff hmembers]
  have hlist {name : String} (hclean : IsClean name.toList) (items : List String) :
      ∀ w ∈ writtenList name items, IsClean w.1 := by
    unfold writtenList
    split
    · exact fun w hw => absurd hw List.not_mem_nil
    · exact List.forall_mem_singleton.mpr hclean
  unfold written
  rw [List.forall_mem_cons, List.forall_mem_append, List.forall_mem_append, List.forall_mem_append]
  have hlast : IsClean kUserBiddingSignals.toList := by decide
  refine ⟨isClean_kName, hlist (by decide) _, hlist (by decide) _, hlist (by decide) _, ?_⟩
  split
  · exact fun w hw => absurd hw List.not_mem_nil
  · exact List.forall_mem_singleton.mpr hlast

theorem exists_name_of_isText {members : List (String × Json)}
    (h : IsText (objectText (written ig)) (.object members)) :
    ∃ chars rest more tail, readChars .plain (ig.name.toList ++ '\x22' :: more) =
      some (chars, rest) ∧ members = (kName, .string (String.ofList chars)) :: tail := by
  obtain ⟨more, hmore⟩ : ∃ more, [','].intercalate ((written ig).map memberText) ++ ['\x7d'] =
      memberText (kName.toList, '\x22' :: (ig.name.toList ++ ['\x22'])) ++ more := by
    unfold written
    rw [List.map_cons, intercalate_cons_flatMap, List.append_assoc]
    exact ⟨_, rfl⟩
  unfold objectText at h
  rw [hmore] at h
  obtain ⟨members', fuel, rest, heq, hread, -⟩ :=
    (isText_braced_iff (c := '\x22') rfl (by decide)).mp h
  cases heq
  cases fuel with
  | zero => cases hread
  | succ fuel =>
    obtain ⟨key, afterKey, beforeValue, value, afterValue, hkey, hcolon, hvalue, hrest⟩ :=
      readMembers_memberText.mp hread
    rw [readChars_self_iff.mpr ⟨isClean_kName, rfl⟩] at hkey
    cases hkey
    rw [expect_cons rfl, if_pos rfl] at hcolon
    cases hcolon
    cases fuel with
    | zero => cases hvalue
    | succ fuel =>
      have hvalue := (readValue_string fuel _).symm.trans hvalue
      obtain ⟨⟨chars, rest'⟩, hchars, heq⟩ := Option.map_eq_some_iff.mp hvalue
      cases heq
      obtain ⟨tail, htail⟩ := exists_tail_of_readMore hrest
      have hchars : readChars .plain (ig.name.toList ++ ['\x22'] ++ more) =
          some (chars, rest') := hchars
      rw [List.append_assoc] at hchars
      exact ⟨chars, _, _, tail, hchars, htail⟩

/-! ## When it is what it should be -/

def HasNoNull (s : String) : Prop := ∀ c ∈ s.toList, c.toNat ≠ 0

instance (s : String) : Decidable (HasNoNull s) :=
  List.decidableBAll (fun c : Char => c.toNat ≠ 0) s.toList

theorem cString_eq_self_iff (s : String) : cString s = s ↔ HasNoNull s := cString_eq_iff s

theorem listMember_map_cString_eq_iff (name : String) (items : List String) :
    listMember name (items.map cString) = listMember name items ↔
      ∀ item ∈ items, HasNoNull item := by
  have hmap : items.map cString = items ↔ ∀ item ∈ items, HasNoNull item := by
    simp only [← cString_eq_self_iff]
    have hself := @List.map_inj_left _ _ items cString id
    rwa [List.map_id] at hself
  rw [← hmap]
  unfold listMember
  rw [List.isEmpty_map]
  cases items with
  | nil => exact iff_of_true rfl rfl
  | cons item items =>
    rw [List.isEmpty_cons, if_neg Bool.false_ne_true, if_neg Bool.false_ne_true]
    constructor
    · intro h
      have harray := congrArg Prod.snd (List.cons.inj h).1
      exact List.map_injective_iff.mpr (fun _ _ heq => Json.string.inj heq) (Json.array.inj harray)
    · intro h
      rw [h]

theorem length_listMember (name : String) (items : List String) :
    (listMember name (items.map cString)).length = (listMember name items).length := by
  unfold listMember
  rw [List.isEmpty_map]
  split
  · rfl
  · rfl

theorem readFields_eq_fields_iff (hname : ig.name ≠ "") :
    readFields ig userBiddingSignals = fields ig userBiddingSignals ↔
      (∀ item ∈ ig.trustedBiddingSignalsKeys, HasNoNull item) ∧
      (∀ item ∈ ig.adRenderIds, HasNoNull item) ∧
      ∀ item ∈ ig.adComponentRenderIds, HasNoNull item := by
  unfold readFields fields
  rw [if_neg hname, List.singleton_append, List.cons.injEq, eq_self_iff_true, true_and,
    ← listMember_map_cString_eq_iff kTrustedBiddingSignalsKeys,
    ← listMember_map_cString_eq_iff kAdRenderIds,
    ← listMember_map_cString_eq_iff kAdComponentRenderIds]
  constructor
  · intro h
    obtain ⟨hkeys, h⟩ := List.append_inj h (length_listMember _ _)
    obtain ⟨hids, h⟩ := List.append_inj h (length_listMember _ _)
    obtain ⟨hcomponents, -⟩ := List.append_inj h (length_listMember _ _)
    exact ⟨hkeys, hids, hcomponents⟩
  · rintro ⟨hkeys, hids, hcomponents⟩
    rw [hkeys, hids, hcomponents]

theorem name_ne_empty {value : Json} {tail : List (String × Json)}
    (h : fields ig userBiddingSignals = (kName, value) :: tail) :
    ig.name ≠ "" ∧ value = .string ig.name := by
  have hlist (name : String) (items : List String) :
      ∀ member ∈ listMember name items, member.1 = name := by
    unfold listMember
    split
    · exact fun member hmember => absurd hmember List.not_mem_nil
    · exact List.forall_mem_singleton.mpr rfl
  unfold fields at h
  by_cases hname : ig.name = ""
  · rw [if_pos hname, List.nil_append] at h
    have hmem : (kName, value) ∈ (kName, value) :: tail := List.mem_cons_self
    rw [← h, List.mem_append, List.mem_append, List.mem_append] at hmem
    rcases hmem with hmem | hmem | hmem | hmem
    · have hne : kName ≠ kTrustedBiddingSignalsKeys := by decide
      exact absurd (hlist _ _ _ hmem) hne
    · have hne : kName ≠ kAdRenderIds := by decide
      exact absurd (hlist _ _ _ hmem) hne
    · have hne : kName ≠ kAdComponentRenderIds := by decide
      exact absurd (hlist _ _ _ hmem) hne
    · split at hmem
      · exact absurd hmem List.not_mem_nil
      · have hne : kName ≠ kUserBiddingSignals := by decide
        exact absurd (congrArg Prod.fst (List.mem_singleton.mp hmem)) hne
  · rw [if_neg hname, List.singleton_append] at h
    exact ⟨hname, (congrArg Prod.snd (List.cons.inj h).1).symm⟩

/-- What makes the text of an interest group that of its fields. -/
structure IsPlain (ig : Byob.InterestGroupForBidding) : Prop where
  name : ig.name ≠ ""
  isClean : IsClean ig.name.toList
  keys : ∀ item ∈ ig.trustedBiddingSignalsKeys, HasNoNull item
  adRenderIds : ∀ item ∈ ig.adRenderIds, HasNoNull item
  adComponentRenderIds : ∀ item ∈ ig.adComponentRenderIds, HasNoNull item

/-- The text of an interest group is that of its fields if and only if it has a name that is clean,
and no string of its lists is cut. -/
theorem parse_serializeIG_eq_iff (hsignals : ig.userBiddingSignals ≠ "" →
      parse ig.userBiddingSignals = some userBiddingSignals) :
    parse (serializeIG ig) = some (.object (fields ig userBiddingSignals)) ↔ IsPlain ig := by
  rw [parse_eq_some_iff_isText, toList_serializeIG]
  constructor
  · intro h
    obtain ⟨chars, rest, more, tail, hread, hmembers⟩ := exists_name_of_isText h
    obtain ⟨hname, hvalue⟩ := name_ne_empty hmembers
    have hchars : chars = ig.name.toList := by
      rw [← Json.string.inj hvalue, String.toList_ofList]
    rw [hchars] at hread
    have hclean := (readChars_self_iff.mp hread).1
    have hsame := Json.object.inj ((isText_written hclean hsignals).unique h)
    obtain ⟨hkeys, hids, hcomponents⟩ := (readFields_eq_fields_iff hname).mp hsame
    exact ⟨hname, hclean, hkeys, hids, hcomponents⟩
  · intro h
    rw [← (readFields_eq_fields_iff h.name).mpr ⟨h.keys, h.adRenderIds, h.adComponentRenderIds⟩]
    exact isText_written h.isClean hsignals

end Read

end InterestGroupText

end BiddingAuction

import BiddingAuction.Common.JsonByHand
import BiddingAuction.SelectAd.BuyerInputs

/-!
# Previous wins in milliseconds

The previous wins of a browser come in CBOR, those of a client in JSON. In both a time in
seconds becomes an `int`, and an `int` again once it is multiplied. The times that come out a
thousand times as large are told apart from those that do not.
-/

namespace BiddingAuction

open Foundation.Cbor

namespace SelectAd

/-! ## Previous wins -/

/-- The time of a previous win in seconds, and its ad. -/
abbrev PrevWin := ℤ × String

def cborTime (time : ℤ) : Item :=
  if 0 ≤ time then .uint time.toNat else .negint (-1 - time).toNat

def cborPrevWin (win : PrevWin) : Item := .array [cborTime win.1, .text win.2]

def prevWinsIn (unit : ℤ) (wins : List PrevWin) : Json :=
  .array (wins.map fun win => .array [.number ((win.1 * unit : ℤ) : ℚ), .string win.2])

/-- The `prev_wins_ms` of a browser, out of its CBOR. -/
def cborPrevWinsMs (lib : Library) (entries : List Item) : Decoded String :=
  (entries.mapM decodePrevWin).map fun wins => (getStringifiedPrevWins lib wins).2

/-- The JSON library reads back what it writes of previous wins. -/
def ReadsBackWins (lib : Library) : Prop :=
  ∀ (unit : Int32) (wins : List (Int32 × String)), ∃ text,
    lib.serializeJsonDoc (prevWinsDocument unit wins) = some text ∧
      lib.parseJsonString text = some (prevWinsDocument unit wins)

def ListsInMs (lib : Library) (wins : List PrevWin) (prevWinsMs : Option String) : Prop :=
  ∃ text, prevWinsMs = some text ∧ lib.parseJsonString text = some (prevWinsIn 1000 wins)

def AreInts (wins : List PrevWin) : Prop := ∀ win ∈ wins, -2 ^ 31 ≤ win.1 ∧ win.1 < 2 ^ 31

/-- The wins come out in milliseconds on both paths, and alike. -/
structure PrevWinsMsExact (lib : Library) (wins : List PrevWin) : Prop where
  cbor : ListsInMs lib wins (cborPrevWinsMs lib (wins.map cborPrevWin))
  json : AreInts wins → ∀ prevWins, lib.parseJsonString prevWins = some (prevWinsIn 1 wins) →
    ListsInMs lib wins (toPrevWinsMs lib prevWins)
  agree : AreInts wins → ∀ prevWins, lib.parseJsonString prevWins = some (prevWinsIn 1 wins) →
    cborPrevWinsMs lib (wins.map cborPrevWin) = toPrevWinsMs lib prevWins

/-! ## The two paths -/

/-- What `cbor_get_int` makes of a time, in an `int`. -/
def readTime (time : ℤ) : Int32 := .ofNat (cborGetInt (cborTime time))

theorem mapM_decodePrevWin (wins : List PrevWin) :
    (wins.map cborPrevWin).mapM decodePrevWin =
      some (wins.map fun win => (readTime win.1, win.2)) := by
  induction wins with
  | nil => rfl
  | cons win rest ih =>
    have hint : cborIsInt (cborTime win.1) = true := by
      unfold cborTime
      split <;> rfl
    have hwin : decodePrevWin (cborPrevWin win) = some (readTime win.1, win.2) := by
      simp [decodePrevWin, cborPrevWin, hint, readTime, decodeString, cborIsaString,
        cborDecodeString]
    rw [List.map_cons, List.mapM_cons, hwin, ih]
    rfl

/-- The document of `int`s is that of the wins iff none of them is another number. -/
theorem prevWinsDocument_eq_iff (unit : Int32) (read : ℤ → Int32) (wins : List PrevWin) :
    prevWinsDocument unit (wins.map fun win => (read win.1, win.2)) =
        prevWinsIn unit.toInt wins ↔
      ∀ win ∈ wins, (read win.1 * unit).toInt = win.1 * unit.toInt := by
  unfold prevWinsDocument prevWinsIn
  rw [Json.array.injEq, List.map_map, List.map_inj_left]
  refine forall₂_congr fun win _ => ?_
  simp only [Function.comp_apply, Json.array.injEq, List.cons.injEq, Json.number.injEq, and_true]
  exact Int.cast_inj

/-- An `int` multiplied, in terms of the integer it was narrowed from. -/
theorem toInt_ofInt_mul (n : ℤ) : (Int32.ofInt n * 1000).toInt = (n * 1000).bmod (2 ^ 32) := by
  rw [Int32.toInt_mul, Int32.toInt_ofInt]
  exact Int.bmod_mul_bmod

theorem readTime_mul (time : ℤ) :
    (readTime time * 1000).toInt = time * 1000 ↔ 0 ≤ time ∧ time * 1000 < 2 ^ 31 := by
  unfold readTime cborTime
  by_cases hnonneg : 0 ≤ time
  · have hread : Int32.ofNat (cborGetInt (.uint time.toNat)) = Int32.ofInt time := by
      rw [cborGetInt, ← Int32.ofInt_eq_ofNat, Int.toNat_of_nonneg hnonneg]
    rw [if_pos hnonneg, hread, toInt_ofInt_mul, Int.bmod_eq_emod]
    split <;> omega
  · have hread : Int32.ofNat (cborGetInt (.negint (-1 - time).toNat)) =
        Int32.ofInt (-1 - time) := by
      rw [cborGetInt, ← Int32.ofInt_eq_ofNat, Int.toNat_of_nonneg (by omega)]
    rw [if_neg hnonneg, hread, toInt_ofInt_mul, Int.bmod_eq_emod]
    -- twice the time and one is odd, and a thousand times that no multiple of `2 ^ 32`
    split <;> omega

/-- A time that the JSON path admits comes out right iff the product is an `int`. -/
theorem ofInt_mul (time : ℤ) :
    (Int32.ofInt time * 1000).toInt = time * 1000 ↔
      -2 ^ 31 ≤ time * 1000 ∧ time * 1000 < 2 ^ 31 := by
  rw [toInt_ofInt_mul, Int.bmod_eq_emod]
  split <;> omega

section Paths

variable {lib : Library} (hlib : ReadsBackWins lib) (wins : List PrevWin)

include hlib

theorem listsInMs_iff (unit : Int32) (decoded : List (Int32 × String)) :
    ListsInMs lib wins (lib.serializeJsonDoc (prevWinsDocument unit decoded)) ↔
      prevWinsDocument unit decoded = prevWinsIn 1000 wins := by
  obtain ⟨text, hwritten, hread⟩ := hlib unit decoded
  unfold ListsInMs
  rw [hwritten]
  simp only [Option.some.injEq, exists_eq_left', hread]

theorem cborPrevWinsMs_eq : cborPrevWinsMs lib (wins.map cborPrevWin) =
    lib.serializeJsonDoc
      (prevWinsDocument 1000 (wins.map fun win => (readTime win.1, win.2))) := by
  unfold cborPrevWinsMs getStringifiedPrevWins
  rw [mapM_decodePrevWin]
  obtain ⟨text, hwritten, -⟩ := hlib 1 (wins.map fun win => (readTime win.1, win.2))
  obtain ⟨textMs, hwrittenMs, -⟩ := hlib 1000 (wins.map fun win => (readTime win.1, win.2))
  rw [Option.map_some, hwritten, hwrittenMs]

omit hlib in
theorem toPrevWinsMs_eq {prevWins : String} (hints : AreInts wins)
    (hread : lib.parseJsonString prevWins = some (prevWinsIn 1 wins)) :
    toPrevWinsMs lib prevWins = lib.serializeJsonDoc
      (prevWinsDocument 1000 (wins.map fun win => (Int32.ofInt win.1, win.2))) := by
  have hseconds : prevWinsIn 1 wins =
      prevWinsDocument 1 (wins.map fun win => (Int32.ofInt win.1, win.2)) := by
    refine ((prevWinsDocument_eq_iff 1 Int32.ofInt wins).mpr fun win hwin => ?_).symm
    obtain ⟨hlow, hhigh⟩ := hints win hwin
    rw [Int32.mul_one, Int32.toInt_ofInt_of_le hlow hhigh]
    exact (Int.mul_one _).symm
  unfold toPrevWinsMs
  rw [hread, hseconds]
  show ((List.map _ _).mapM entryInMs).bind _ = _
  rw [mapM_entryInMs]
  rfl

theorem listsInMs_cbor_iff : ListsInMs lib wins (cborPrevWinsMs lib (wins.map cborPrevWin)) ↔
    ∀ win ∈ wins, 0 ≤ win.1 ∧ win.1 * 1000 < 2 ^ 31 := by
  rw [cborPrevWinsMs_eq hlib, listsInMs_iff hlib]
  refine (prevWinsDocument_eq_iff 1000 readTime wins).trans ?_
  exact forall₂_congr fun win _ => readTime_mul win.1

theorem listsInMs_json_iff {prevWins : String} (hints : AreInts wins)
    (hread : lib.parseJsonString prevWins = some (prevWinsIn 1 wins)) :
    ListsInMs lib wins (toPrevWinsMs lib prevWins) ↔
      ∀ win ∈ wins, -2 ^ 31 ≤ win.1 * 1000 ∧ win.1 * 1000 < 2 ^ 31 := by
  rw [toPrevWinsMs_eq wins hints hread, listsInMs_iff hlib]
  refine (prevWinsDocument_eq_iff 1000 Int32.ofInt wins).trans ?_
  exact forall₂_congr fun win _ => ofInt_mul win.1

/-- Both paths list each win with a thousand times its seconds iff no time is negative and
none comes to more milliseconds than an `int` holds. -/
theorem prevWinsMsExact_iff : PrevWinsMsExact lib wins ↔
    ∀ win ∈ wins, 0 ≤ win.1 ∧ win.1 * 1000 < 2 ^ 31 := by
  refine ⟨fun h => (listsInMs_cbor_iff hlib wins).mp h.cbor, fun h => ?_⟩
  refine ⟨(listsInMs_cbor_iff hlib wins).mpr h, fun hints prevWins hread => ?_,
    fun hints prevWins hread => ?_⟩
  · refine (listsInMs_json_iff hlib wins hints hread).mpr fun win hwin => ?_
    obtain ⟨hnonneg, hhigh⟩ := h win hwin
    exact ⟨by omega, hhigh⟩
  · -- a time that is not negative is read as the same `int` on both paths
    rw [cborPrevWinsMs_eq hlib, toPrevWinsMs_eq wins hints hread]
    congr 2
    refine List.map_congr_left fun win hwin => ?_
    have hnonneg := (h win hwin).1
    rw [readTime, cborTime, if_pos hnonneg, cborGetInt, ← Int32.ofInt_eq_ofNat,
      Int.toNat_of_nonneg hnonneg]

end Paths

/-! ## Texts -/

def writePrevWin : Json → Option (List Char)
  | .array [.number time, .string adRenderId] =>
    some (JsonText.arrayText [JsonText.writeInt time.num, JsonText.writeString adRenderId])
  | _ => none

/-- A library that writes lists of previous wins, and reads any text. -/
def prevWinsLibrary : Library where
  parseJsonString := JsonText.parse
  serializeJsonDoc
    | .array entries => (entries.mapM writePrevWin).map fun texts =>
        String.ofList (JsonText.arrayText texts)
    | _ => none
  messageToJsonString _ := none
  toString _ := ""
  toFloat q := q

theorem readsBackWins_prevWinsLibrary : ReadsBackWins prevWinsLibrary := by
  intro unit wins
  have hwritten : ∃ texts, (wins.map fun win =>
      Json.array [.number ((win.1 * unit).toInt : ℚ), .string win.2]).mapM writePrevWin =
        some texts ∧ List.Forall₂ JsonText.IsText texts (wins.map fun win =>
          Json.array [.number ((win.1 * unit).toInt : ℚ), .string win.2]) := by
    induction wins with
    | nil => exact ⟨[], rfl, .nil⟩
    | cons win rest ih =>
      obtain ⟨texts, hmap, htexts⟩ := ih
      refine ⟨JsonText.arrayText [JsonText.writeInt (win.1 * unit).toInt,
        JsonText.writeString win.2] :: texts, ?_, .cons ?_ htexts⟩
      · rw [List.map_cons, List.mapM_cons, hmap]
        rfl
      · exact JsonText.isText_array (.cons (JsonText.isText_writeInt _)
          (.cons (JsonText.isText_writeString _) .nil))
  obtain ⟨texts, hmap, htexts⟩ := hwritten
  refine ⟨String.ofList (JsonText.arrayText texts), ?_, ?_⟩
  · show ((wins.map _).mapM writePrevWin).map _ = _
    rw [hmap]
    rfl
  · refine JsonText.parse_eq_some_iff_isText.mpr ?_
    rw [String.toList_ofList]
    exact JsonText.isText_array htexts

theorem prevWinsMsExact_twoSeconds : PrevWinsMsExact prevWinsLibrary [(2, "ad")] :=
  (prevWinsMsExact_iff readsBackWins_prevWinsLibrary [(2, "ad")]).mpr (by decide)

theorem negative_positive :
    cborPrevWinsMs prevWinsLibrary [cborPrevWin (-3600, "ad")] = some "[[3599000,\"ad\"]]" ∧
      ¬ ∀ (lib : Library) (wins : List PrevWin), ReadsBackWins lib → PrevWinsMsExact lib wins := by
  refine ⟨by decide +kernel, fun hexact => ?_⟩
  have hcbor := (hexact _ [(-3600, "ad")] readsBackWins_prevWinsLibrary).cbor
  rw [listsInMs_cbor_iff readsBackWins_prevWinsLibrary] at hcbor
  exact absurd (hcbor _ List.mem_cons_self).1 (by decide)

end SelectAd

end BiddingAuction

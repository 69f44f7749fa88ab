import BiddingAuction.Foundation.Cbor
import BiddingAuction.Foundation.FirstFailure
import BiddingAuction.Web.Messages
import Mathlib.Algebra.Order.Group.Abs
import Mathlib.Algebra.Order.Ring.Rat
import Mathlib.Tactic.Positivity

/-!
# Serializing single values

`cbor_common_util`: building integers and floats, and adding one keyed value to a
map. libcbor itself is a parameter: how it rounds to half precision, how it
serializes and loads items.
-/

namespace BiddingAuction

open Foundation.Cbor

inductive StatusCode where
  | internal
  | invalidArgument
deriving DecidableEq, Repr

/-- A status other than `ok`. `badStatusOrAccess` is the abort on the value of a
`StatusOr` that holds none. -/
inductive Status where
  | error (code : StatusCode) (message : String)
  | badStatusOrAccess
deriving DecidableEq, Repr

def internalError (message : String) : Status := .error .internal message

def invalidArgumentError (message : String) : Status := .error .invalidArgument message

/-- What of libcbor the code relies on. A float is read back from a half as
`half`, and `float_get_float4` of a double reads `lowWord`, its first four
bytes. -/
structure LibCbor where
  half : FloatVal → FloatVal
  lowWord : FloatVal → FloatVal
  serialize : Item → Option Bytes
  load : Bytes → Option Item

def LibCbor.Faithful (lib : LibCbor) : Prop :=
  ∀ item bytes, lib.serialize item = some bytes → lib.load bytes = some item

def LibCbor.EncodesFloats (lib : LibCbor) : Prop :=
  ∀ precision value, ∃ bytes, lib.serialize (.float precision value) = some bytes ∧
    (lib.load bytes).isSome

/-! ## Integers -/

def cborBuildUint (input : UInt32) : Item := .uint input.toNat

def cborBuildNegint (input : UInt32) : Item := .negint input.toNat

def cborBuildInt (input : Int32) : Item :=
  if input < 0 then cborBuildNegint (-input - 1).toUInt32 else cborBuildUint input.toUInt32

/-- `cbor_get_int`: the number stored, whatever the sign of the item. -/
def cborGetInt : Item → ℕ
  | .uint n => n
  | .negint n => n
  | _ => 0

def cborIsInt : Item → Bool
  | .uint _ => true
  | .negint _ => true
  | _ => false

/-- An integer built, then read back into an `int32`. -/
def readBack (v : Int32) : Int32 := Int32.ofNat (cborGetInt (cborBuildInt v))

theorem ofNat_toUInt32_toNat (v : Int32) : Int32.ofNat v.toUInt32.toNat = v := by
  apply Int32.toBitVec.inj
  show BitVec.ofNat 32 v.toBitVec.toNat = v.toBitVec
  exact BitVec.ofNat_toNat 32 v.toBitVec |>.trans (BitVec.setWidth_eq v.toBitVec)

theorem readBack_of_nonneg {v : Int32} (hv : 0 ≤ v) : readBack v = v := by
  unfold readBack cborBuildInt
  rw [if_neg (Int32.not_lt.mpr hv)]
  exact ofNat_toUInt32_toNat v

@[simp] theorem cborIsInt_cborBuildInt (v : Int32) : cborIsInt (cborBuildInt v) = true := by
  unfold cborBuildInt
  split <;> rfl

@[simp] theorem cborIsInt_cborBuildUint (v : UInt32) : cborIsInt (cborBuildUint v) = true := rfl

/-! ## Floats -/

/-- `std::numeric_limits<double>::epsilon()`. -/
def epsilon : ℚ := 1 / 2 ^ 52

/-- `AreFloatsEqual`: the difference of two infinities is no number. -/
def areFloatsEqual : FloatVal → FloatVal → Bool
  | .fin a, .fin b => |a - b| < epsilon
  | _, _ => false

def serializeToCbor (lib : LibCbor) (cborDataRoot : Item) : Except Status Bytes :=
  match lib.serialize cborDataRoot with
  | some byteString => .ok byteString
  | none => .error (internalError "CBOR data size too large")

/-- The value of a float item, `cbor_float_get_float`. -/
def cborFloatGetFloat : Item → FloatVal
  | .float _ value => value
  | _ => .fin 0

/-- `cbor_build_float2`, `cbor_build_float4`, `cbor_build_float8` of a value that
single precision holds exactly. -/
def cborBuildFloatN (lib : LibCbor) (input : FloatVal) : Precision → Item
  | .half => .float .half (lib.half input)
  | .single => .float .single input
  | .double => .float .double input

def encodeDecodeFloatCbor (lib : LibCbor) (input : FloatVal) (width : Precision) :
    Except Status FloatVal := do
  let encoded ← serializeToCbor lib (cborBuildFloatN lib input width)
  match lib.load encoded with
  | some loadedData => return cborFloatGetFloat loadedData
  | none => throw (internalError "Failed to load CBOR encoded float")

/-- Every caller passes a `float`, which single precision holds exactly. -/
def cborBuildFloat (lib : LibCbor) (input : FloatVal) : Except Status Item := do
  let decodedDouble ← encodeDecodeFloatCbor lib input .double
  let decodedSingle ← encodeDecodeFloatCbor lib input .single
  if areFloatsEqual decodedDouble decodedSingle then
    let decodedHalf ← encodeDecodeFloatCbor lib input .half
    if areFloatsEqual decodedSingle decodedHalf then
      return cborBuildFloatN lib input .half
    return cborBuildFloatN lib input .single
  return cborBuildFloatN lib input .double

theorem encodeDecodeFloatCbor_isOk {lib : LibCbor} (hlib : lib.EncodesFloats) (v : FloatVal)
    (width : Precision) : ∃ w, encodeDecodeFloatCbor lib v width = .ok w := by
  have hfloat : ∃ value, cborBuildFloatN lib v width = .float width value := by
    cases width <;> exact ⟨_, rfl⟩
  obtain ⟨value, hvalue⟩ := hfloat
  obtain ⟨bytes, hser, hload⟩ := hlib width value
  obtain ⟨item, hitem⟩ := Option.isSome_iff_exists.mp hload
  refine ⟨cborFloatGetFloat item, ?_⟩
  unfold encodeDecodeFloatCbor serializeToCbor
  rw [hvalue, hser]
  show (match lib.load bytes with
    | some loadedData => pure (cborFloatGetFloat loadedData)
    | none => _) = _
  rw [hitem]
  rfl

theorem cborBuildFloat_isOk {lib : LibCbor} (hlib : lib.EncodesFloats) (v : FloatVal) :
    ∃ item, cborBuildFloat lib v = .ok item := by
  obtain ⟨double, hdouble⟩ := encodeDecodeFloatCbor_isOk hlib v .double
  obtain ⟨single, hsingle⟩ := encodeDecodeFloatCbor_isOk hlib v .single
  obtain ⟨half, hhalf⟩ := encodeDecodeFloatCbor_isOk hlib v .half
  unfold cborBuildFloat
  rw [hdouble, hsingle, hhalf]
  show ∃ item, (if areFloatsEqual double single = true then
    (if areFloatsEqual single half = true then _ else _) else _) = _
  split
  · split <;> exact ⟨_, rfl⟩
  · exact ⟨_, rfl⟩

theorem cborBuildFloat_float {lib : LibCbor} {v : FloatVal} {item : Item}
    (h : cborBuildFloat lib v = .ok item) : ∃ precision value, item = .float precision value := by
  have hfloat : ∀ width, ∃ precision value,
      cborBuildFloatN lib v width = .float precision value := by
    intro width
    cases width <;> exact ⟨_, _, rfl⟩
  unfold cborBuildFloat at h
  obtain ⟨double, _, h⟩ := Foundation.except_bind_eq_ok.mp h
  obtain ⟨single, _, h⟩ := Foundation.except_bind_eq_ok.mp h
  split at h
  · obtain ⟨half, _, h⟩ := Foundation.except_bind_eq_ok.mp h
    split at h <;> exact Except.ok.inj h ▸ hfloat _
  · exact Except.ok.inj h ▸ hfloat _

/-! ## One keyed value -/

def failedToSerialize (key : String) : String := "Failed to serialize " ++ key ++ " to CBOR"

/-- `cbor_map_add` of a key and a value, or the message to the error handler. -/
def cborMapAddOr (message key : String) (value : Item) :
    DefiniteMap → Emit Status DefiniteMap :=
  Definite.addOr message (internalError "") (.text key, value)

def cborSerializeByteString (key : String) (value : Bytes) :
    DefiniteMap → Emit Status DefiniteMap :=
  cborMapAddOr (failedToSerialize key) key (.bytes value)

def cborSerializeFloat (lib : LibCbor) (key : String) (value : FloatVal) (root : DefiniteMap) :
    Emit Status DefiniteMap := do
  let floatVal ← Emit.ofExcept (cborBuildFloat lib value)
  cborMapAddOr (failedToSerialize key) key floatVal root

def cborSerializeBool (key : String) (value : Bool) : DefiniteMap → Emit Status DefiniteMap :=
  cborMapAddOr (failedToSerialize key) key (.bool value)

def cborSerializeInt (key : String) (value : Int32) : DefiniteMap → Emit Status DefiniteMap :=
  cborMapAddOr (failedToSerialize key) key (cborBuildInt value)

def cborSerializeString (key value : String) : DefiniteMap → Emit Status DefiniteMap :=
  cborMapAddOr (failedToSerialize key) key (.text value)

theorem cborMapAddOr_writes (message key : String) (value : Item) :
    Writes 1 (cborMapAddOr message key value) (some [(key, value)]) :=
  .addOr message _ key value

theorem cborSerializeFloat_writes (lib : LibCbor) (key : String) (value : FloatVal) :
    Writes 1 (cborSerializeFloat lib key value)
      ((cborBuildFloat lib value).toOption.map fun item => [(key, item)]) :=
  .ofExcept fun item => cborMapAddOr_writes (failedToSerialize key) key item

/-! ## Reading items -/

/-- `cbor_map_handle`, the pairs of a map. -/
def cborMapHandle : Item → List (Item × Item)
  | .map pairs => pairs
  | _ => []

/-- `cbor_array_handle`, the items of an array. -/
def cborArrayHandle : Item → List Item
  | .array items => items
  | _ => []

def cborIsaString : Item → Bool
  | .text _ => true
  | _ => false

def cborIsaBytestring : Item → Bool
  | .bytes _ => true
  | _ => false

def cborIsaArray : Item → Bool
  | .array _ => true
  | _ => false

def cborIsaMap : Item → Bool
  | .map _ => true
  | _ => false

def cborIsBool : Item → Bool
  | .bool _ => true
  | _ => false

def cborGetBool : Item → Bool
  | .bool b => b
  | _ => false

def cborDecodeString : Item → String
  | .text s => s
  | _ => ""

def cborDecodeByteString : Item → Bytes
  | .bytes b => b
  | _ => []

def checkTypeAndCborDecodeString (input : Item) : Except Status String :=
  if cborIsaString input then .ok (cborDecodeString input)
  else .error (invalidArgumentError "cbor_item is not a string")

@[simp] theorem checkTypeAndCborDecodeString_text (s : String) :
    checkTypeAndCborDecodeString (.text s) = .ok s := rfl

/-- `FindItemIndex`, `FindKeyIndex`; `none` for -1. -/
def findKeyIndex (haystack : List String) (needle : String) : Option ℕ := haystack.idxOf? needle

theorem mem_cborMapHandle_record {fs : Fields} {key : String} {value : Item} :
    (.text key, value) ∈ cborMapHandle (.record fs) ↔ (key, value) ∈ fs := by
  show _ ∈ fs.map _ ↔ _
  constructor
  · intro h
    obtain ⟨f, hf, heq⟩ := List.mem_map.mp h
    obtain ⟨hkey, rfl⟩ := Prod.mk.inj heq
    rw [← Item.text.inj hkey]
    exact hf
  · intro h
    exact List.mem_map.mpr ⟨_, h, rfl⟩

theorem foldlM_record {σ : Type} (step : σ → Item × Item → Except Status σ) (init : σ)
    (fs : Fields) : (cborMapHandle (.record fs)).foldlM step init =
      fs.foldlM (fun acc f => step acc (.text f.1, f.2)) init :=
  List.foldlM_map ..

end BiddingAuction

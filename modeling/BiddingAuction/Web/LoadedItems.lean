import BiddingAuction.Proto.AdScore

/-!
# Loaded items

The items that a CBOR document is loaded into, of all eight types, and their accessors. What an
accessor reads of an item of another type, or past the end of an array, is not defined.
-/

namespace BiddingAuction

namespace LoadedInput

/-! ## Items -/

/-- An item as it is loaded, of any of the eight types. -/
inductive CborItem where
  | uint (value : UInt64)
  | negint (value : UInt64)
  | bytestring (bytes : Bytes)
  | string (s : String)
  /-- A string in chunks has no length of its own. -/
  | chunkedString (chunks : List String)
  | array (items : List CborItem)
  | map (pairs : List (CborItem × CborItem))
  | tag (value : UInt64) (item : CborItem)
  /-- A simple value; 20 and 21 are the booleans. -/
  | ctrl (value : UInt8)
  | float (bits : UInt64)

/-- `kCborDataTypesLookup`. -/
def CborItem.dataType : CborItem → String
  | .uint _ => "positive int"
  | .negint _ => "negative int"
  | .bytestring _ => "bytestring"
  | .string _ => "string"
  | .chunkedString _ => "string"
  | .array _ => "array"
  | .map _ => "map"
  | .tag _ _ => "tag"
  | .ctrl _ => "float control"
  | .float _ => "float control"

def cborIsInt : CborItem → Bool
  | .uint _ => true
  | .negint _ => true
  | _ => false

def cborIsaString : CborItem → Bool
  | .string _ => true
  | .chunkedString _ => true
  | _ => false

def cborIsaArray : CborItem → Bool
  | .array _ => true
  | _ => false

def cborIsaMap : CborItem → Bool
  | .map _ => true
  | _ => false

def cborIsBool : CborItem → Bool
  | .ctrl value => value = 20 || value = 21
  | _ => false

/-! Accessors are not defined on items of another type. -/

def cborGetInt : CborItem → Option UInt64
  | .uint value => some value
  | .negint value => some value
  | _ => none

def cborDecodeString : CborItem → Option String
  | .string s => some s
  | .chunkedString _ => some ""
  | _ => none

def cborArrayHandle : CborItem → Option (List CborItem)
  | .array items => some items
  | _ => none

def cborArrayGet (item : CborItem) (index : ℕ) : Option CborItem :=
  (cborArrayHandle item).bind fun items => items[index]?

def cborMapHandle : CborItem → Option (List (CborItem × CborItem))
  | .map pairs => some pairs
  | _ => none

def cborGetBool : CborItem → Option Bool
  | .ctrl value =>
    if value = 21 then some true
    else if value = 20 then some false
    else none
  | _ => none

theorem cborGetInt_isSome (item : CborItem) : (cborGetInt item).isSome = cborIsInt item := by
  cases item <;> rfl

theorem cborDecodeString_isSome (item : CborItem) :
    (cborDecodeString item).isSome = cborIsaString item := by
  cases item <;> rfl

theorem cborGetBool_isSome (item : CborItem) : (cborGetBool item).isSome = cborIsBool item := by
  cases item with
  | ctrl value =>
    unfold cborGetBool cborIsBool
    by_cases htrue : value = 21
    · simp [htrue]
    · by_cases hfalse : value = 20 <;> simp [htrue, hfalse]
  | _ => rfl

end LoadedInput

end BiddingAuction

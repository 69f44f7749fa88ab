import Mathlib.Data.Rat.Defs

/-!
# JSON documents

A document as `rapidjson` holds it: the members of an object in the order of
the text, duplicates included. Numbers are exact; reading the text and writing
it are the library's.
-/

namespace BiddingAuction

/-- `rapidjson::Value`. -/
inductive Json where
  | null
  | bool (b : Bool)
  | number (value : ℚ)
  /-- A number that is written with a fraction or an exponent, even if it is whole. -/
  | double (value : ℚ)
  | string (s : String)
  | array (elements : List Json)
  | object (members : List (String × Json))

namespace Json

/-- `FindMember`: the first member of the name, none in a value without members. -/
def findMember (name : String) : Json → Option Json
  | .object members => (members.find? fun member => member.1 = name).map Prod.snd
  | _ => none

def isNumber : Json → Bool
  | .number _ => true
  | .double _ => true
  | _ => false

def number? : Json → Option ℚ
  | .number value => some value
  | .double value => some value
  | _ => none

def string? : Json → Option String
  | .string s => some s
  | _ => none

def bool? : Json → Option Bool
  | .bool b => some b
  | _ => none

end Json

/-- `GetString`, which ends at the first null character. -/
def cString (s : String) : String := String.ofList (s.toList.takeWhile fun c => c.toNat ≠ 0)

/-- What the code takes from its JSON library and from conversions between the
floating-point types. -/
structure Library where
  parseJsonString : String → Option Json
  serializeJsonDoc : Json → Option String
  /-- `MessageToJsonString` of a `Value`. -/
  messageToJsonString : Json → Option String
  /-- `std::to_string` of a `float`. -/
  toString : ℚ → String
  /-- A `double` rounded to a `float`. -/
  toFloat : ℚ → ℚ

end BiddingAuction

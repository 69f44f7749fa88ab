import BiddingAuction.Common.Json
import BiddingAuction.Foundation.Guarded

/-!
# Accessors of the JSON library

An accessor is meant for values of one type; of any other value it is an assertion that ends
the process.
-/

namespace BiddingAuction

open Foundation

/-- Reading is given up with a status, or the process ends on an assertion of the JSON
library. -/
inductive ReadError where
  | invalidArgument (message : String)
  | asserted
deriving DecidableEq, Repr

namespace Json

/-- `FindMember`, of an object. -/
def member? (name : String) : Json → Except ReadError (Option Json)
  | .object members => .ok ((Json.object members).findMember name)
  | _ => .error .asserted

/-- `GetArray`, of an array. -/
def getArray : Json → Except ReadError (List Json)
  | .array elements => .ok elements
  | _ => .error .asserted

/-- `GetString`, of a string. -/
def getString : Json → Except ReadError String
  | .string s => .ok (cString s)
  | _ => .error .asserted

/-- `MemberBegin` and `GetObject`, of an object. -/
def getMembers : Json → Except ReadError (List (String × Json))
  | .object members => .ok members
  | _ => .error .asserted

/-- The list of strings under a name, without any if the member is absent. -/
def readStrings (document : Json) (name : String) : Except ReadError (List String) := do
  match ← document.member? name with
  | none => return []
  | some list => (← list.getArray).mapM getString

/-! ## Values of the right type -/

def isObject : Json → Bool
  | .object _ => true
  | _ => false

def isString : Json → Bool
  | .string _ => true
  | _ => false

def areStrings : Json → Bool
  | .array elements => elements.all isString
  | _ => false

def absentOr (document : Json) (name : String) (p : Json → Bool) : Bool :=
  ((document.findMember name).map p).getD true

def membersRead : Json → List (String × Json)
  | .object members => members
  | _ => []

def stringRead (j : Json) : String := (j.string?.map cString).getD ""

def stringsRead : Json → List String
  | .array elements => elements.map stringRead
  | _ => []

def stringsUnder (document : Json) (name : String) : List String :=
  ((document.findMember name).map stringsRead).getD []

theorem findMember_cons_eq {name : String} {member : String × Json}
    (members : List (String × Json)) (h : member.1 = name) :
    (object (member :: members)).findMember name = some member.2 := by
  simp [findMember, h]

theorem findMember_cons_ne {name : String} {member : String × Json}
    (members : List (String × Json)) (h : member.1 ≠ name) :
    (object (member :: members)).findMember name = (object members).findMember name := by
  simp [findMember, h]

theorem member?_eq (name : String) (j : Json) :
    j.member? name = if j.isObject then .ok (j.findMember name) else .error .asserted := by
  cases j <;> rfl

theorem member?_object (name : String) (members : List (String × Json)) :
    (object members).member? name = .ok ((object members).findMember name) := rfl

theorem member?_guarded (name : String) (j : Json) :
    j.member? name = guarded .asserted j.isObject (j.findMember name) := by
  cases j <;> rfl

theorem getString_guarded (j : Json) : j.getString = guarded .asserted j.isString j.stringRead := by
  cases j <;> rfl

theorem readStrings_guarded (document : Json) (name : String) :
    document.readStrings name =
      guarded .asserted (document.isObject && document.absentOr name areStrings)
        (document.stringsUnder name) := by
  unfold readStrings absentOr stringsUnder
  rw [member?_guarded]
  refine guarded_bind fun _ => ?_
  cases document.findMember name with
  | none => rfl
  | some list =>
    cases list with
    | array elements =>
      have hread : elements.mapM getString =
          guarded .asserted (elements.all isString) (elements.map stringRead) := by
        rw [← mapM_guarded]
        exact congrArg elements.mapM (funext getString_guarded)
      exact hread
    | _ => rfl

end Json

end BiddingAuction

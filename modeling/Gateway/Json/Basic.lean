import Gateway.Number.Binary64

/-!
JSON values. Objects keep their members in the order of first appearance; a repeated key keeps its
place and takes the last value.
-/

namespace Gateway

namespace Json

/-- A number is an integer of 64 bits or a double. -/
inductive Number where
  | int (value : Int)
  | float (value : Binary64)
  deriving DecidableEq, Repr, Inhabited

end Json

inductive Json where
  | null
  | bool (value : Bool)
  | num (value : Json.Number)
  | str (value : String)
  | arr (items : List Json)
  | obj (members : List (String × Json))
  deriving Repr, Inhabited

namespace Json

/-- Members of an object under insertion: the value of a present key is replaced in place. -/
def insertMember {Value : Type} (members : List (String × Value)) (key : String) (value : Value) :
    List (String × Value) :=
  match members with
  | [] => [(key, value)]
  | (present, old) :: rest =>
      if present = key then (key, value) :: rest
      else (present, old) :: insertMember rest key value

def lookup {Value : Type} (members : List (String × Value)) (key : String) : Option Value :=
  (members.find? fun member => member.1 = key).map Prod.snd

def nat (n : Nat) : Json := .num (.int n)

def int (n : Int) : Json := .num (.int n)

def bool? : Json → Option Bool
  | .bool value => some value
  | _ => none

/-- Least and greatest integers of 64 bits with a sign. -/
def minInt64 : Int := -(Nat.pow 2 63)

def maxInt64 : Int := Nat.pow 2 63 - 1

def clampInt64 (value : Int) : Int :=
  max minInt64 (min maxInt64 value)

/-- The value as a signed integer of 64 bits: an integer in range as it is, otherwise a number
without fractional part brought into range. -/
def Number.toInt64? : Number → Option Int
  | .int value => some (clampInt64 value)
  | .float value => if value.isIntegral then some (clampInt64 value.truncate) else none

def toInt64? : Json → Option Int
  | .num number => number.toInt64?
  | _ => none

end Json

end Gateway

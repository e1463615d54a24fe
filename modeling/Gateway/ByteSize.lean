import Gateway.Number.Binary64
import Gateway.Text.Blank

/-!
Byte sizes such as `64MiB`, `10kB` or `512`. The number is read as a double, multiplied by its unit
as a double and cut to a whole number of bytes, which has to fit 64 bits.
-/

namespace Gateway.ByteSize

inductive Fault where
  | missingNumber
  | notANumber
  | unknownUnit
  | outOfRange
  deriving DecidableEq, Repr

def Fault.message : Fault → String
  | .missingNumber => "missing number"
  | .notANumber => "not a number"
  | .unknownUnit => "unknown unit"
  | .outOfRange => "out of range"

/-- Bytes of a unit written in small letters. -/
def multiplier (unit : String) : Option Nat :=
  if unit ∈ ["", "b"] then some 1
  else if unit ∈ ["k", "kb"] then some 1000
  else if unit ∈ ["m", "mb"] then some 1000000
  else if unit ∈ ["g", "gb"] then some 1000000000
  else if unit ∈ ["t", "tb"] then some 1000000000000
  else if unit ∈ ["ki", "kib"] then some 1024
  else if unit ∈ ["mi", "mib"] then some 1048576
  else if unit ∈ ["gi", "gib"] then some 1073741824
  else if unit ∈ ["ti", "tib"] then some 1099511627776
  else none

def isNumberChar (c : Char) : Bool := c.isDigit || c = '.'

def digitsValue (digits : List Char) : Nat :=
  digits.foldl (fun value c => value * 10 + (c.toNat - 48)) 0

/-- The digits of a number and how many of them stand after its point: at most one point and at
least one digit. -/
def readNumber (chars : List Char) : Option (List Char × Nat) :=
  let whole := chars.takeWhile Char.isDigit
  match chars.dropWhile Char.isDigit with
  | [] => if whole.isEmpty then none else some (whole, 0)
  | _ :: fraction =>
      if fraction.all Char.isDigit && !(whole.isEmpty && fraction.isEmpty) then
        some (whole ++ fraction, fraction.length)
      else none

/-- Sizes above this are refused; it is itself too large for 64 bits and becomes the greatest
size. -/
def bound : Nat := Nat.pow 2 64

def greatest : Nat := Nat.pow 2 64 - 1

/-- Cuts the product of a number and its unit to bytes. -/
def ofProduct (number : Option Binary64) (unit : Nat) : Except Fault Nat :=
  match number with
  | none => .error .outOfRange
  | some number =>
      match (Binary64.ofNat? unit).bind number.mul? with
      | none => .error .outOfRange
      | some product =>
          if bound < product.floor then .error .outOfRange else .ok (min product.floor greatest)

def read (text : String) : Except Fault Nat :=
  let chars := Text.trimChars text.toList
  let number := chars.takeWhile isNumberChar
  let unit := Text.lower (Text.trim (String.ofList (chars.dropWhile isNumberChar)))
  if number.isEmpty then .error .missingNumber
  else
    match readNumber number with
    | none => .error .notANumber
    | some (digits, places) =>
        match multiplier unit with
        | none => .error .unknownUnit
        | some size => ofProduct (Binary64.ofDecimal? (digitsValue digits) (-(places : Int))) size

end Gateway.ByteSize

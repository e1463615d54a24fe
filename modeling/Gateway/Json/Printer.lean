import Gateway.Json.Basic
import Gateway.Number.Shortest

/-!
Compact JSON text. Strings are written with the shortest escapes, non-ASCII characters as they are.
Doubles take the fewest digits that read back, written positionally from `10 ^ -5` up to below
`10 ^ 16` and with a signed exponent otherwise.
-/

namespace Gateway.Json

def hexDigit (n : Nat) : Char :=
  if n < 10 then Char.ofNat (48 + n) else Char.ofNat (87 + n)

def escapeChar (c : Char) : List Char :=
  if c = '"' then ['\\', '"']
  else if c = '\\' then ['\\', '\\']
  else if c = '\n' then ['\\', 'n']
  else if c = '\r' then ['\\', 'r']
  else if c = '\t' then ['\\', 't']
  else if c.toNat = 8 then ['\\', 'b']
  else if c.toNat = 12 then ['\\', 'f']
  else if c.toNat < 0x20 then
    ['\\', 'u', '0', '0', hexDigit (c.toNat / 16), hexDigit (c.toNat % 16)]
  else [c]

def escapeChars (chars : List Char) : List Char :=
  chars.flatMap escapeChar

def escape (text : String) : String :=
  String.ofList (escapeChars text.toList)

def quote (text : String) : String :=
  "\"" ++ escape text ++ "\""

/-- Powers of the leading digit from here on are written with an exponent. -/
def positionalEnd : Int := 16

/-- Powers of the leading digit below this are written with an exponent. -/
def positionalStart : Int := -5

def zeros (count : Nat) : String :=
  String.ofList (List.replicate count '0')

/-- Text of a positive double from its shortest decimal. -/
def decimalText (decimal : Shortest.Decimal) : String :=
  let digits := Nat.toDigits 10 decimal.digits
  let leading : Int := digits.length + decimal.power - 1
  if leading < positionalStart || positionalEnd ≤ leading then
    let fraction := digits.tail
    let sign := if leading < 0 then "-" else "+"
    String.ofList (digits.take 1) ++
      (if fraction.isEmpty then "" else "." ++ String.ofList fraction) ++
      "e" ++ sign ++ toString leading.natAbs
  else if leading < 0 then
    "0." ++ zeros (leading.natAbs - 1) ++ String.ofList digits
  else if 0 ≤ decimal.power then
    String.ofList digits ++ zeros decimal.power.toNat ++ ".0"
  else
    let whole := (leading + 1).toNat
    String.ofList (digits.take whole) ++ "." ++ String.ofList (digits.drop whole)

def floatText (number : Binary64) : String :=
  (if number.negative then "-" else "") ++
    (if number.isZero then "0.0" else decimalText (Shortest.decimal number))

def Number.text : Number → String
  | .int value => toString value
  | .float value => floatText value

mutual

/-- The text of a value without blanks. -/
def compact : Json → String
  | .null => "null"
  | .bool value => if value then "true" else "false"
  | .num number => number.text
  | .str text => quote text
  | .arr items => "[" ++ compactItems items ++ "]"
  | .obj members => "\x7b" ++ compactMembers members ++ "\x7d"

def compactItems : List Json → String
  | [] => ""
  | [item] => compact item
  | item :: rest => compact item ++ "," ++ compactItems rest

def compactMembers : List (String × Json) → String
  | [] => ""
  | [(key, value)] => quote key ++ ":" ++ compact value
  | (key, value) :: rest => quote key ++ ":" ++ compact value ++ "," ++ compactMembers rest

end

end Gateway.Json

import Gateway.Text.Utf8

/-!
Form coding of texts and of ordered parameters. Letters, digits and `* - . _` stand for themselves,
a blank is written `+`, every other byte as `%` and two hexadecimal digits. `decodeComponent`
inverts `encodeComponent`; `parse` reads a whole query, where a lone `%` stands for itself and
bytes that are no text are replaced.
-/

namespace Gateway.Form

/-- Bytes that are written as they are. -/
def isPlain (byte : UInt8) : Bool :=
  let code := byte.toNat
  (48 ≤ code && code ≤ 57) || (65 ≤ code && code ≤ 90) || (97 ≤ code && code ≤ 122) ||
    code = 42 || code = 45 || code = 46 || code = 95

def hexDigit (value : Nat) : Char :=
  if value < 10 then Char.ofNat (48 + value) else Char.ofNat (55 + value)

def hexValue? (byte : UInt8) : Option Nat :=
  let code := byte.toNat
  if 48 ≤ code ∧ code ≤ 57 then some (code - 48)
  else if 65 ≤ code ∧ code ≤ 70 then some (code - 55)
  else if 97 ≤ code ∧ code ≤ 102 then some (code - 87)
  else none

def encodeByte (byte : UInt8) : List Char :=
  if isPlain byte then [Char.ofNat byte.toNat]
  else if byte = 32 then ['+']
  else ['%', hexDigit (byte.toNat / 16), hexDigit (byte.toNat % 16)]

def encodeBytes (bytes : Bytes) : List Char :=
  bytes.flatMap encodeByte

def encodeComponent (text : String) : String :=
  String.ofList (encodeBytes (Utf8.encode text))

/-- Bytes with each `%` and two hexadecimal digits read as one byte. -/
def percentDecode : Bytes → Bytes
  | [] => []
  | [byte] => [byte]
  | [byte, next] => [byte, next]
  | byte :: high :: low :: rest =>
      if byte = 37 then
        match hexValue? high, hexValue? low with
        | some upper, some lower => (upper * 16 + lower).toUInt8 :: percentDecode rest
        | _, _ => byte :: percentDecode (high :: low :: rest)
      else byte :: percentDecode (high :: low :: rest)

def plusToBlank (bytes : Bytes) : Bytes :=
  bytes.map fun byte => if byte = 43 then 32 else byte

def decodeComponent (bytes : Bytes) : String :=
  Utf8.decodeLossy (percentDecode (plusToBlank bytes))

/-- Splits at every separator; the parts may be empty. -/
def splitOn (separator : UInt8) : Bytes → List Bytes
  | [] => [[]]
  | byte :: rest =>
      match splitOn separator rest with
      | [] => [[byte]]
      | part :: parts => if byte = separator then [] :: part :: parts else (byte :: part) :: parts

/-- Splits at the first separator; without one the second part is empty. -/
def splitFirst (separator : UInt8) (bytes : Bytes) : Bytes × Bytes :=
  (bytes.takeWhile (· ≠ separator), (bytes.dropWhile (· ≠ separator)).drop 1)

/-- The parameters of a written form. Empty parts between separators are skipped. -/
def parse (bytes : Bytes) : List (String × String) :=
  ((splitOn 38 bytes).filter fun part => !part.isEmpty).map fun part =>
    let pair := splitFirst 61 part
    (decodeComponent pair.1, decodeComponent pair.2)

abbrev Params := List (String × String)

namespace Params

def add (params : Params) (key value : String) : Params :=
  params ++ [(key, value)]

def get? (params : Params) (key : String) : Option String :=
  (params.find? fun param => param.1 = key).map Prod.snd

def encodePair (param : String × String) : String :=
  encodeComponent param.1 ++ "=" ++ encodeComponent param.2

/-- All parameters in order, joined by `&`. -/
def encode (params : Params) : String :=
  "&".intercalate (params.map encodePair)

end Params

end Gateway.Form

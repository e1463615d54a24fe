import Gateway.Text.Utf8

/-!
Base64 with padding. `encode` writes three bytes as four letters and fills the last group with `=`;
`decode?` reads such texts back; bits that fill up the last letter have to be zero.
-/

namespace Gateway.Base64

/-- The letter of a value below 64. -/
def letter (value : Nat) : Char :=
  if value < 26 then Char.ofNat (65 + value)
  else if value < 52 then Char.ofNat (71 + value)
  else if value < 62 then Char.ofNat (value - 4)
  else if value = 62 then '+'
  else '/'

def value? (c : Char) : Option Nat :=
  let code := c.toNat
  if 65 ≤ code ∧ code ≤ 90 then some (code - 65)
  else if 97 ≤ code ∧ code ≤ 122 then some (code - 71)
  else if 48 ≤ code ∧ code ≤ 57 then some (code + 4)
  else if c = '+' then some 62
  else if c = '/' then some 63
  else none

def encodeChars : Bytes → List Char
  | [] => []
  | [a] => [letter (a.toNat / 4), letter (a.toNat % 4 * 16), '=', '=']
  | [a, b] =>
      [letter (a.toNat / 4), letter (a.toNat % 4 * 16 + b.toNat / 16),
        letter (b.toNat % 16 * 4), '=']
  | a :: b :: c :: rest =>
      letter (a.toNat / 4) :: letter (a.toNat % 4 * 16 + b.toNat / 16) ::
        letter (b.toNat % 16 * 4 + c.toNat / 64) :: letter (c.toNat % 64) :: encodeChars rest

def encode (bytes : Bytes) : String :=
  String.ofList (encodeChars bytes)

def decodeChars? : List Char → Option Bytes
  | [] => some []
  | a :: b :: c :: d :: rest => do
      let first ← value? a
      let second ← value? b
      if c = '=' then
        if d = '=' ∧ rest = [] ∧ second % 16 = 0 then some [(first * 4 + second / 16).toUInt8]
        else none
      else do
        let third ← value? c
        if d = '=' then
          if rest = [] ∧ third % 4 = 0 then
            some [(first * 4 + second / 16).toUInt8, (second % 16 * 16 + third / 4).toUInt8]
          else none
        else do
          let fourth ← value? d
          let more ← decodeChars? rest
          some ((first * 4 + second / 16).toUInt8 :: (second % 16 * 16 + third / 4).toUInt8 ::
            (third % 4 * 64 + fourth).toUInt8 :: more)
  | _ => none

def decode? (text : String) : Option Bytes :=
  decodeChars? text.toList

end Gateway.Base64

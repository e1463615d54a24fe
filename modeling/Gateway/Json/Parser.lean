import Gateway.Json.Basic
import Gateway.Text.Utf8

/-!
Reading JSON. `Json.parse?` accepts one value with blanks around it, at most 127 containers deep,
whose text is valid UTF-8. Integers that fit 64 bits stay integers; other numbers are doubles, and
a double beyond the finite range is refused.
-/

namespace Gateway.Json

def isSpace (c : Char) : Bool :=
  c = ' ' || c = '\n' || c = '\t' || c = '\r'

def skipSpaces (chars : List Char) : List Char :=
  chars.dropWhile isSpace

def digitValue (c : Char) : Nat :=
  c.toNat - 48

/-- The significand never exceeds 64 bits. -/
def significandLimit : Nat := Nat.pow 2 64

/-- Reads digits into a significand as long as it fits; later digits are counted only. -/
structure Significand where
  value : Nat
  /-- Digits that were dropped because the significand was full. -/
  dropped : Nat

def Significand.push (significand : Significand) (c : Char) : Significand :=
  let next := significand.value * 10 + digitValue c
  if significand.dropped = 0 && next < significandLimit then { significand with value := next }
  else { significand with dropped := significand.dropped + 1 }

/-- Adds the digits after the point: how many of them the significand took. -/
def pushFraction (significand : Significand) : List Char → Significand × Nat
  | [] => (significand, 0)
  | c :: rest =>
      let next := significand.value * 10 + digitValue c
      if next < significandLimit then
        let result := pushFraction { significand with value := next } rest
        (result.1, result.2 + 1)
      else (significand, 0)

/-- Multiplies by a power of ten in steps of at most `10 ^ 308`, rounding after each. -/
def scale : Nat → Binary64 → Int → Option Binary64
  | 0, number, _ => some number
  | fuel + 1, number, power =>
      if power.natAbs ≤ 308 then
        if 0 ≤ power then do
          let factor ← Binary64.ofDecimal? 1 power
          number.mul? factor
        else do
          let divisor ← Binary64.ofDecimal? 1 (-power)
          number.div? divisor
      else if number.isZero then some number
      else if 0 ≤ power then none
      else do
        let divisor ← Binary64.ofDecimal? 1 308
        let next ← number.div? divisor
        scale fuel next (power + 308)

def float (negative : Bool) (significand : Nat) (power : Int) : Option Number := do
  let start ← Binary64.ofNat? significand
  let number ← scale (power.natAbs / 308 + 1) start power
  pure (.float (number.withSign negative))

/-- Greatest power that is computed with; larger ones are settled without arithmetic. -/
def maxPower : Nat := Nat.pow 2 31 - 1

def readExponent (chars : List Char) : Option (Bool × Nat × List Char) :=
  let signed : Bool × List Char := match chars with
    | '+' :: rest => (true, rest)
    | '-' :: rest => (false, rest)
    | _ => (true, chars)
  let digits := signed.2.takeWhile Char.isDigit
  if digits.isEmpty then none
  else some (signed.1, digits.foldl (fun n c => n * 10 + digitValue c) 0,
    signed.2.dropWhile Char.isDigit)

/-- The number after its digits and fraction: an optional exponent ends it. -/
def finishFloat (negative : Bool) (significand : Nat) (power : Int) (chars : List Char) :
    Option (Number × List Char) :=
  match chars with
  | c :: rest =>
      if c = 'e' || c = 'E' then do
        let (positive, size, after) ← readExponent rest
        if maxPower < size then
          if significand ≠ 0 ∧ positive then none
          else some (.float (Binary64.zero.withSign negative), after)
        else
          let number ← float negative significand (if positive then power + size else power - size)
          pure (number, after)
      else do
        let number ← float negative significand power
        pure (number, chars)
  | [] => do
      let number ← float negative significand power
      pure (number, [])

def readUnsigned (negative : Bool) (chars : List Char) : Option (Number × List Char) :=
  let digits := chars.takeWhile Char.isDigit
  let rest := chars.dropWhile Char.isDigit
  if digits.isEmpty || (digits.head? = some '0' && 1 < digits.length) then none
  else
    let whole := digits.foldl Significand.push ⟨0, 0⟩
    match rest with
    | '.' :: more =>
        let fraction := more.takeWhile Char.isDigit
        if fraction.isEmpty then none
        else
          let result := pushFraction whole fraction
          finishFloat negative result.1.value (whole.dropped - result.2)
            (more.dropWhile Char.isDigit)
    | c :: _ =>
        if c = 'e' || c = 'E' || whole.dropped ≠ 0 then
          finishFloat negative whole.value whole.dropped rest
        else some (integer negative whole.value, rest)
    | [] =>
        if whole.dropped ≠ 0 then finishFloat negative whole.value whole.dropped rest
        else some (integer negative whole.value, rest)
where
  /-- An integer literal: zero with a sign and values below the least integer are doubles. -/
  integer (negative : Bool) (value : Nat) : Number :=
    if !negative then .int value
    else if value = 0 || Nat.pow 2 63 < value then
      .float (((Binary64.ofNat? value).getD Binary64.zero).withSign true)
    else .int (-value)

def readNumber : List Char → Option (Number × List Char)
  | '-' :: rest => readUnsigned true rest
  | chars => readUnsigned false chars

def hexValue? (c : Char) : Option Nat :=
  if c.isDigit then some (c.toNat - 48)
  else if 'a' ≤ c ∧ c ≤ 'f' then some (c.toNat - 87)
  else if 'A' ≤ c ∧ c ≤ 'F' then some (c.toNat - 55)
  else none

def readHex4 : List Char → Option (Nat × List Char)
  | a :: b :: c :: d :: rest => do
      let a ← hexValue? a
      let b ← hexValue? b
      let c ← hexValue? c
      let d ← hexValue? d
      pure (a * 4096 + b * 256 + c * 16 + d, rest)
  | _ => none

def isHighSurrogate (unit : Nat) : Bool := 0xD800 ≤ unit && unit < 0xDC00

def isLowSurrogate (unit : Nat) : Bool := 0xDC00 ≤ unit && unit < 0xE000

/-- Reads the escape after a backslash; a surrogate needs its partner. -/
def readEscape : List Char → Option (Char × List Char)
  | '"' :: rest => some ('"', rest)
  | '\\' :: rest => some ('\\', rest)
  | '/' :: rest => some ('/', rest)
  | 'b' :: rest => some (Char.ofNat 8, rest)
  | 'f' :: rest => some (Char.ofNat 12, rest)
  | 'n' :: rest => some ('\n', rest)
  | 'r' :: rest => some ('\r', rest)
  | 't' :: rest => some ('\t', rest)
  | 'u' :: rest => do
      let (unit, after) ← readHex4 rest
      if isHighSurrogate unit then
        match after with
        | '\\' :: 'u' :: more => do
            let (low, after) ← readHex4 more
            if isLowSurrogate low then
              pure (Char.ofNat (0x10000 + (unit - 0xD800) * 1024 + (low - 0xDC00)), after)
            else none
        | _ => none
      else if isLowSurrogate unit then none
      else pure (Char.ofNat unit, after)
  | _ => none

/-- Reads the rest of a string after its opening quote. -/
def readString : Nat → List Char → Option (List Char × List Char)
  | 0, _ => none
  | fuel + 1, chars =>
      match chars with
      | [] => none
      | c :: rest =>
          if c = '"' then some ([], rest)
          else if c = '\\' then do
            let (escaped, after) ← readEscape rest
            let (more, after) ← readString fuel after
            pure (escaped :: more, after)
          else if c.toNat < 0x20 then none
          else do
            let (more, after) ← readString fuel rest
            pure (c :: more, after)

def readText (chars : List Char) : Option (String × List Char) :=
  (readString (chars.length + 1) chars).map fun (text, rest) => (String.ofList text, rest)

/-- Containers may be nested this deep. -/
def maxDepth : Nat := 127

mutual

/-- Reads a value, `depth` containers being still allowed. -/
def readValue : Nat → Nat → List Char → Option (Json × List Char)
  | 0, _, _ => none
  | fuel + 1, depth, chars =>
      match skipSpaces chars with
      | 'n' :: 'u' :: 'l' :: 'l' :: rest => some (.null, rest)
      | 't' :: 'r' :: 'u' :: 'e' :: rest => some (.bool true, rest)
      | 'f' :: 'a' :: 'l' :: 's' :: 'e' :: rest => some (.bool false, rest)
      | '"' :: rest => (readText rest).map fun (text, rest) => (.str text, rest)
      | '[' :: rest =>
          if depth = 0 then none
          else
            match skipSpaces rest with
            | ']' :: after => some (.arr [], after)
            | _ => (readItems fuel (depth - 1) rest).map fun (items, rest) => (.arr items, rest)
      | '{' :: rest =>
          if depth = 0 then none
          else
            match skipSpaces rest with
            | '}' :: after => some (.obj [], after)
            | _ => (readMembers fuel (depth - 1) rest []).map fun (members, rest) =>
                (.obj members, rest)
      | other => (readNumber other).map fun (number, rest) => (.num number, rest)

def readItems : Nat → Nat → List Char → Option (List Json × List Char)
  | 0, _, _ => none
  | fuel + 1, depth, chars => do
      let (item, rest) ← readValue fuel depth chars
      match skipSpaces rest with
      | ',' :: after =>
          let (items, rest) ← readItems fuel depth after
          pure (item :: items, rest)
      | ']' :: after => pure ([item], after)
      | _ => none

def readMembers : Nat → Nat → List Char → List (String × Json) →
    Option (List (String × Json) × List Char)
  | 0, _, _, _ => none
  | fuel + 1, depth, chars, members =>
      match skipSpaces chars with
      | '"' :: rest => do
          let (key, rest) ← readText rest
          match skipSpaces rest with
          | ':' :: rest =>
              let (value, rest) ← readValue fuel depth rest
              let members := insertMember members key value
              match skipSpaces rest with
              | ',' :: after => readMembers fuel depth after members
              | '}' :: after => pure (members, after)
              | _ => none
          | _ => none
      | _ => none

end

def parse? (text : String) : Option Json :=
  let chars := text.toList
  match readValue (2 * chars.length + 2) maxDepth chars with
  | some (value, rest) => if (skipSpaces rest).isEmpty then some value else none
  | none => none

def ofBytes? (bytes : Bytes) : Option Json := do
  let text ← Utf8.decode? bytes
  parse? text

end Gateway.Json

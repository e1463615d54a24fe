import Gateway.Text.Blank
import Gateway.Text.Utf8

/-!
Durations in nanoseconds and their written form: numbers with a unit each, such as `1h 30m` or
`1.5s`. `Duration.parse` reads configured texts, where a bare `0` is the empty duration, and
`Duration.text` writes the unit parts from years down to nanoseconds.
-/

namespace Gateway

structure Duration where
  nanos : Nat
  deriving DecidableEq, Repr, Inhabited

namespace Duration

def second : Nat := 1000000000

def ofMillis (millis : Nat) : Duration := ⟨millis * 1000000⟩

def ofSeconds (seconds : Nat) : Duration := ⟨seconds * second⟩

def seconds (duration : Duration) : Nat := duration.nanos / second

def subsecond (duration : Duration) : Nat := duration.nanos % second

def millis (duration : Duration) : Nat := duration.nanos / 1000000

/-- The least whole number of milliseconds that is not shorter. -/
def millisUp (duration : Duration) : Nat := (duration.nanos + 999999) / 1000000

/-- Numbers and sums have to fit 64 bits. -/
def limit : Nat := Nat.pow 2 64

/-- Why a text is no duration. Offsets count bytes. -/
inductive Fault where
  | empty
  | numberExpected (offset : Nat)
  | invalidCharacter (offset : Nat)
  | unknownUnit (unit : String) (value : Nat)
  | overflow
  deriving DecidableEq, Repr

def Fault.message : Fault → String
  | .empty => "value was empty"
  | .numberExpected offset => "expected number at " ++ toString offset
  | .invalidCharacter offset => "invalid character at " ++ toString offset
  | .unknownUnit unit value =>
      if unit = "" then
        "time unit needed, for example " ++ toString value ++ "sec or " ++ toString value ++ "ms"
      else
        "unknown time unit \"" ++ unit ++ "\", supported units: ns, us/µs, ms, sec, min, hours, " ++
          "days, weeks, months, years (and few variations)"
  | .overflow =>
      "number is too large or cannot be represented without a lack of precision " ++
        "(values below 1ns are not supported)"

/-- Nanoseconds of a unit. A month is 30.44 days and a year 365.25 days. -/
def unitNanos (unit : String) : Option Nat :=
  if unit ∈ ["nanos", "nsec", "ns"] then some 1
  else if unit ∈ ["usec", "us", "µs"] then some 1000
  else if unit ∈ ["millis", "msec", "ms"] then some 1000000
  else if unit ∈ ["seconds", "second", "secs", "sec", "s"] then some second
  else if unit ∈ ["minutes", "minute", "min", "mins", "m"] then some (60 * second)
  else if unit ∈ ["hours", "hour", "hrs", "hr", "h"] then some (3600 * second)
  else if unit ∈ ["days", "day", "d"] then some (86400 * second)
  else if unit ∈ ["weeks", "week", "wks", "wk", "w"] then some (604800 * second)
  else if unit ∈ ["months", "month", "M"] then some (2630016 * second)
  else if unit ∈ ["years", "year", "yrs", "yr", "y"] then some (31557600 * second)
  else none

/-- Digits after a point, as a fraction of a power of ten. -/
structure Fraction where
  numerator : Nat
  denominator : Nat

/-- A number of a duration, its fraction, and the characters from its unit on with their
offset. -/
structure Amount where
  whole : Nat
  fraction : Option Fraction
  offset : Nat
  rest : List Char

def isUnitLetter (c : Char) : Bool :=
  ('a' ≤ c && c ≤ 'z') || ('A' ≤ c && c ≤ 'Z') || c = 'µ'

def digitValue (c : Char) : Nat := c.toNat - 48

/-- Reads the fraction after a point. Faults are reported at the offset reached so far. -/
def readFraction (fraction : Fraction) (reached next : Nat) :
    List Char → Except Fault (Fraction × Nat × List Char)
  | [] =>
      if fraction.denominator = 1 then .error (.invalidCharacter reached)
      else .ok (fraction, reached, [])
  | c :: rest =>
      let after := next + Utf8.width c
      if c.isDigit then
        let longer : Fraction :=
          ⟨fraction.numerator * 10 + digitValue c, fraction.denominator * 10⟩
        if limit ≤ longer.denominator ∨ limit ≤ longer.numerator then .error .overflow
        else readFraction longer after after rest
      else if Text.isBlank c then readFraction fraction after after rest
      else if isUnitLetter c then
        if fraction.denominator = 1 then .error (.invalidCharacter reached)
        else .ok (fraction, reached, c :: rest)
      else .error (.invalidCharacter reached)

/-- Reads a number whose first digit is known; blanks between digits are passed over. -/
def readAmount (whole offset : Nat) : List Char → Except Fault Amount
  | [] => .ok ⟨whole, none, offset, []⟩
  | c :: rest =>
      let after := offset + Utf8.width c
      if c.isDigit then
        let longer := whole * 10 + digitValue c
        if limit ≤ longer then .error .overflow else readAmount longer after rest
      else if Text.isBlank c then readAmount whole after rest
      else if isUnitLetter c then .ok ⟨whole, none, offset, c :: rest⟩
      else if c = '.' then
        match readFraction ⟨0, 1⟩ offset after rest with
        | .error fault => .error fault
        | .ok (fraction, offset, rest) => .ok ⟨whole, some fraction, offset, rest⟩
      else .error (.invalidCharacter offset)

inductive Following where
  | digit (value : Nat)
  | gap

/-- Reads the letters of a unit up to a digit, a blank or the end. -/
def readUnit (offset : Nat) : List Char → Except Fault (List Char × Following × Nat × List Char)
  | [] => .ok ([], .gap, offset, [])
  | c :: rest =>
      let after := offset + Utf8.width c
      if c.isDigit then .ok ([], .digit (digitValue c), after, rest)
      else if Text.isBlank c then .ok ([], .gap, after, rest)
      else if isUnitLetter c then
        match readUnit after rest with
        | .error fault => .error fault
        | .ok (letters, following, offset, rest) => .ok (c :: letters, following, offset, rest)
      else .error (.invalidCharacter offset)

def boundedMul (left right : Nat) : Except Fault Nat :=
  if limit ≤ left * right then .error .overflow else .ok (left * right)

/-- A quotient that has to be whole. -/
def exactDiv (left right : Nat) : Except Fault Nat :=
  if left % right = 0 then .ok (left / right) else .error .overflow

/-- Adds a count of a grain, which is a nanosecond or a second. The count beside the nanoseconds
below a second, and the seconds of the sum, have to fit 64 bits. -/
def addCount (total count grain : Nat) : Except Fault Nat :=
  if grain = 1 ∧ limit ≤ total % second + count then .error .overflow
  else if limit * second ≤ total + count * grain then .error .overflow
  else .ok (total + count * grain)

/-- Adds one amount of a unit. The whole part counts in seconds where the unit holds whole seconds.
The fraction counts in seconds from hours on, so `0.0001h` is refused and `0.0001m` is not. -/
def addAmount (total : Nat) (amount : Amount) (unit : String) : Except Fault Nat := do
  let size ← match unitNanos unit with
    | some size => .ok size
    | none => .error (.unknownUnit unit amount.whole)
  let grain := if size < second then 1 else second
  let sum ← addCount total (← boundedMul amount.whole (size / grain)) grain
  match amount.fraction with
  | none => .ok sum
  | some fraction =>
      if size = 1 then .error .overflow
      else do
        let grain := if size < 3600 * second then 1 else second
        let part ← boundedMul fraction.numerator (size / grain)
        addCount sum (← exactDiv part fraction.denominator) grain

def readFirstDigit (start offset : Nat) : List Char → Except Fault (Option (Nat × Nat × List Char))
  | [] => .ok none
  | c :: rest =>
      let after := offset + Utf8.width c
      if c.isDigit then .ok (some (digitValue c, after, rest))
      else if Text.isBlank c then readFirstDigit start after rest
      else .error (.numberExpected start)

def readAmounts : Nat → Nat → Nat → Nat → List Char → Except Fault Nat
  | 0, total, _, _, _ => .ok total
  | fuel + 1, total, first, offset, chars => do
      let amount ← readAmount first offset chars
      let (letters, following, offset, rest) ← readUnit amount.offset amount.rest
      let total ← addAmount total amount (String.ofList letters)
      match following with
      | .digit value => readAmounts fuel total value offset rest
      | .gap =>
          match ← readFirstDigit offset offset rest with
          | none => .ok total
          | some (value, offset, rest) => readAmounts fuel total value offset rest

def read (text : String) : Except Fault Duration := do
  let chars := text.toList
  match ← readFirstDigit 0 0 chars with
  | none => .error .empty
  | some (value, offset, rest) =>
      (readAmounts (chars.length + 1) 0 value offset rest).map Duration.mk

def parse (text : String) : Except String Duration :=
  let trimmed := Text.trim text
  if trimmed = "0" then .ok ⟨0⟩
  else
    match read trimmed with
    | .ok duration => .ok duration
    | .error fault =>
        .error ("invalid duration '" ++ trimmed ++ "': " ++ fault.message ++
          " (expected e.g. 10s, 1h 30m)")

/-- A unit part, left out when zero. -/
def part (count : Nat) (unit : String) (plural : Bool) : List String :=
  if count = 0 then []
  else [toString count ++ unit ++ (if plural && 1 < count then "s" else "")]

/-- The parts of a duration from the largest unit down. -/
def text (duration : Duration) : String :=
  let seconds := duration.seconds
  let ofYear := seconds % 31557600
  let ofMonth := ofYear % 2630016
  let ofDay := ofMonth % 86400
  let nanos := duration.subsecond
  let parts :=
    part (seconds / 31557600) "year" true ++ part (ofYear / 2630016) "month" true ++
      part (ofMonth / 86400) "day" true ++ part (ofDay / 3600) "h" false ++
      part (ofDay % 3600 / 60) "m" false ++ part (ofDay % 60) "s" false ++
      part (nanos / 1000000) "ms" false ++ part (nanos / 1000 % 1000) "us" false ++
      part (nanos % 1000) "ns" false
  if parts.isEmpty then "0s" else " ".intercalate parts

end Duration

end Gateway

import Gateway.Number.Binary64

/-!
The shortest decimal that reads back as a given double. `Shortest.decimal` tries one digit, two
digits and so on; on each decimal grid it takes the neighbours of the exact value that still round
to it, and of two the nearer one.
-/

namespace Gateway.Shortest

/-- `digits * 10 ^ power`. -/
structure Decimal where
  digits : Nat
  power : Int
  deriving DecidableEq, Repr, Inhabited

/-- A positive double as four naturals over one denominator: the value, and the ends of the
interval that rounds to it. -/
structure Interval where
  value : Nat
  low : Nat
  high : Nat
  denominator : Nat
  /-- The ends round to the value as well. -/
  closed : Bool

/-- The interval of a positive double. A mantissa at the bottom of its binade has a lower
neighbour at half the distance. -/
def Interval.of (number : Binary64) : Interval :=
  let quarter : Nat × Nat :=
    if 2 ≤ number.exponent then (Nat.pow 2 (number.exponent.toNat - 2), 1)
    else (1, Nat.pow 2 (2 - number.exponent).toNat)
  let bottom := number.mantissa = Nat.pow 2 52 && Binary64.minExponent < number.exponent
  { value := 4 * number.mantissa * quarter.1
    low := (4 * number.mantissa - (if bottom then 1 else 2)) * quarter.1
    high := (4 * number.mantissa + 2) * quarter.1
    denominator := quarter.2
    closed := number.mantissa % 2 = 0 }

/-- `digits * 10 ^ power` against a bound of the interval, both times the denominator. -/
def compareTo (digits : Nat) (power : Int) (bound denominator : Nat) : Ordering :=
  if 0 ≤ power then compare (digits * Nat.pow 10 power.toNat * denominator) bound
  else compare (digits * denominator) (bound * Nat.pow 10 (-power).toNat)

def Interval.holds (interval : Interval) (digits : Nat) (power : Int) : Bool :=
  let low := compareTo digits power interval.low interval.denominator
  let high := compareTo digits power interval.high interval.denominator
  (low == .gt && high == .lt) || (interval.closed && (low == .eq || high == .eq))

/-- The value on the grid of `10 ^ power`: the point below it and twice the remainder, with the
grid's unit. -/
def Interval.onGrid (interval : Interval) (power : Int) : Nat × Nat × Nat :=
  let part : Nat × Nat :=
    if 0 ≤ power then (interval.value, interval.denominator * Nat.pow 10 power.toNat)
    else (interval.value * Nat.pow 10 (-power).toNat, interval.denominator)
  (part.1 / part.2, 2 * (part.1 % part.2), part.2)

/-- The grid point chosen for a power of ten, if one rounds to the value. -/
def Interval.pick (interval : Interval) (power : Int) : Option Decimal :=
  let grid := interval.onGrid power
  let below := grid.1
  let nearer := if grid.2.1 < grid.2.2 then below
    else if grid.2.1 = grid.2.2 then below + below % 2 else below + 1
  let farther := if nearer = below then below + 1 else below
  if interval.holds nearer power then some ⟨nearer, power⟩
  else if interval.holds farther power then some ⟨farther, power⟩
  else none

def digitCount (n : Nat) : Nat :=
  (Nat.toDigits 10 n).length

/-- The power of ten of the leading digit, for a positive value. -/
def Interval.leading (interval : Interval) : Int :=
  if interval.denominator ≤ interval.value then
    digitCount (interval.value / interval.denominator) - 1
  else
    0 - (digitCount ((interval.denominator - 1) / interval.value) : Int)

def trimZeros : Nat → Decimal → Decimal
  | 0, decimal => decimal
  | fuel + 1, decimal =>
      if decimal.digits ≠ 0 ∧ decimal.digits % 10 = 0 then
        trimZeros fuel ⟨decimal.digits / 10, decimal.power + 1⟩
      else decimal

def search (interval : Interval) (leading : Int) : List Nat → Decimal
  | [] => ⟨interval.value / interval.denominator, 0⟩
  | count :: more =>
      match interval.pick (leading - count + 1) with
      | some decimal => decimal
      | none => search interval leading more

/-- The shortest decimal of a positive double. -/
def decimal (number : Binary64) : Decimal :=
  let interval := Interval.of number
  trimZeros 20 (search interval interval.leading (List.range' 1 17))

end Gateway.Shortest

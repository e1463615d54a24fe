/-!
Binary floating-point numbers of double precision, as exact pairs of a mantissa and an exponent.
Every operation computes the exact quotient of two naturals and rounds it once with `roundRatio`,
to nearest and to the even neighbour on a tie, so results do not hang on a machine's arithmetic.
-/

namespace Gateway

/-- A finite number `mantissa * 2 ^ exponent` with a sign of its own, so that zero has two. -/
structure Binary64 where
  negative : Bool
  mantissa : Nat
  exponent : Int
  deriving DecidableEq, Repr, Inhabited

namespace Binary64

def minExponent : Int := -1074

def maxExponent : Int := 971

def zero : Binary64 := ⟨false, 0, minExponent⟩

/-- `numerator / (denominator * 2 ^ exponent)` as a quotient of naturals. -/
def scaled (numerator denominator : Nat) (exponent : Int) : Nat × Nat :=
  if 0 ≤ exponent then (numerator, denominator * Nat.pow 2 exponent.toNat)
  else (numerator * Nat.pow 2 (-exponent).toNat, denominator)

/-- The nearest natural to a quotient, the even one of two. -/
def nearestEven (numerator denominator : Nat) : Nat :=
  let quotient := numerator / denominator
  let twice := 2 * (numerator % denominator)
  if twice < denominator then quotient
  else if twice = denominator then quotient + quotient % 2
  else quotient + 1

/-- The exponent at which a positive quotient has a mantissa of 53 bits, or the least one. -/
def exponentOf (numerator denominator : Nat) : Int :=
  let guess : Int := (Nat.log2 numerator : Int) - Nat.log2 denominator - 53
  let part := scaled numerator denominator guess
  let exponent := if part.1 / part.2 < Nat.pow 2 53 then guess else guess + 1
  max exponent minExponent

/-- The finite number nearest to `numerator / denominator`, `none` beyond the finite range. -/
def roundRatio (numerator denominator : Nat) : Option Binary64 :=
  if numerator = 0 then some zero
  else
    let exponent := exponentOf numerator denominator
    let part := scaled numerator denominator exponent
    let mantissa := nearestEven part.1 part.2
    let rounded : Binary64 :=
      if mantissa = Nat.pow 2 53 then ⟨false, Nat.pow 2 52, exponent + 1⟩
      else ⟨false, mantissa, exponent⟩
    if maxExponent < rounded.exponent then none else some rounded

def ratio (number : Binary64) : Nat × Nat :=
  if 0 ≤ number.exponent then (number.mantissa * Nat.pow 2 number.exponent.toNat, 1)
  else (number.mantissa, Nat.pow 2 (-number.exponent).toNat)

def withSign (number : Binary64) (negative : Bool) : Binary64 :=
  { number with negative := negative }

def ofNat? (n : Nat) : Option Binary64 :=
  roundRatio n 1

/-- `digits * 10 ^ power`, rounded once. -/
def ofDecimal? (digits : Nat) (power : Int) : Option Binary64 :=
  if 0 ≤ power then roundRatio (digits * Nat.pow 10 power.toNat) 1
  else roundRatio digits (Nat.pow 10 (-power).toNat)

def mul? (left right : Binary64) : Option Binary64 :=
  let first := left.ratio
  let second := right.ratio
  (roundRatio (first.1 * second.1) (first.2 * second.2)).map fun product =>
    product.withSign (left.negative != right.negative)

def div? (left right : Binary64) : Option Binary64 :=
  let first := left.ratio
  let second := right.ratio
  (roundRatio (first.1 * second.2) (first.2 * second.1)).map fun quotient =>
    quotient.withSign (left.negative != right.negative)

def floor (number : Binary64) : Nat :=
  number.ratio.1 / number.ratio.2

def isZero (number : Binary64) : Bool :=
  number.mantissa = 0

def isIntegral (number : Binary64) : Bool :=
  number.ratio.1 % number.ratio.2 = 0

def truncate (number : Binary64) : Int :=
  if number.negative then -(number.floor : Int) else number.floor

end Binary64

end Gateway

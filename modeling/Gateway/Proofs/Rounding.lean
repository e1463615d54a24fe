import Gateway.Number.Binary64
import Mathlib.Algebra.Order.Floor.Semifield
import Mathlib.Data.Rat.Floor
import Mathlib.Tactic.FieldSimp
import Mathlib.Tactic.Linarith
import Mathlib.Tactic.Positivity
import Mathlib.Tactic.Ring

/-!
Rounding to double precision. Every operation rounds an exact rational once. Rounding keeps the order
of numbers and leaves alone what has a mantissa of 53 bits, so that a result is exact where the exact
one can be written down, and lies between the results at two known points where it cannot.
-/

namespace Gateway.Binary64

def magnitude (number : Binary64) : ℚ := number.mantissa * 2 ^ number.exponent

/-- What is rounded to this or more has no finite result. -/
def ceiling : ℚ := 2 ^ (maxExponent + 53)

theorem ratio_pos (number : Binary64) : 0 < number.ratio.2 := by
  unfold ratio
  split
  · exact Nat.one_pos
  · exact Nat.two_pow_pos _

theorem ratio_eq (number : Binary64) : (number.ratio.1 : ℚ) / number.ratio.2 = number.magnitude := by
  unfold ratio magnitude
  split
  · rename_i whole
    obtain ⟨exponent, same⟩ := Int.eq_ofNat_of_zero_le whole
    simp [same]
  · rename_i part
    obtain ⟨exponent, same⟩ := Int.exists_eq_neg_ofNat (le_of_not_ge part)
    simp [same, div_eq_mul_inv]

theorem floor_eq (number : Binary64) : number.floor = ⌊number.magnitude⌋₊ := by
  rw [← ratio_eq, Nat.floor_div_eq_div, floor]

theorem scaled_pos {denominator : ℕ} (positive : 0 < denominator) (numerator : ℕ) (exponent : ℤ) :
    0 < (scaled numerator denominator exponent).2 := by
  unfold scaled
  split
  · exact Nat.mul_pos positive (Nat.two_pow_pos _)
  · exact positive

theorem scaled_eq (numerator denominator : ℕ) (exponent : ℤ) :
    ((scaled numerator denominator exponent).1 : ℚ) / (scaled numerator denominator exponent).2 =
      numerator / denominator / 2 ^ exponent := by
  unfold scaled
  split
  · rename_i whole
    obtain ⟨exponent, rfl⟩ := Int.eq_ofNat_of_zero_le whole
    simp [div_div]
  · rename_i part
    obtain ⟨exponent, rfl⟩ := Int.exists_eq_neg_ofNat (le_of_not_ge part)
    simp [mul_div_right_comm]

/-- A natural nearest to a value, the even one of two. -/
structure Nearest (value : ℚ) (whole : ℕ) : Prop where
  above : value ≤ whole + 1 / 2
  below : whole ≤ value + 1 / 2
  even : value = whole + 1 / 2 ∨ whole = value + 1 / 2 → whole % 2 = 0

namespace Nearest

variable {value other : ℚ} {whole next : ℕ}

theorem ofNat (whole : ℕ) : Nearest whole whole := by
  refine ⟨by linarith, by linarith, ?_⟩
  rintro (tie | tie) <;> linarith

/-- Two neighbours are both even only if they are the same, so that ties do not spoil the order. -/
theorem mono (less : value ≤ other) (first : Nearest value whole) (second : Nearest other next) :
    whole ≤ next := by
  by_contra beyond
  have step : (next : ℚ) + 1 ≤ whole := by exact_mod_cast not_le.mp beyond
  have lower := first.below
  have upper := second.above
  have tie : (whole : ℚ) = next + 1 := by linarith
  have firstEven := first.even (.inr (by linarith))
  have secondEven := second.even (.inl (by linarith))
  have successor : whole = next + 1 := by exact_mod_cast tie
  omega

theorem down {part : ℚ} (nonnegative : 0 ≤ part) (half : part < 1 / 2) :
    Nearest (whole + part) whole := by
  refine ⟨by linarith, by linarith, ?_⟩
  rintro (tie | tie) <;> linarith

theorem up {part : ℚ} (half : 1 / 2 < part) (small : part < 1) :
    Nearest (whole + part) (whole + 1 : ℕ) := by
  refine ⟨by push_cast; linarith, by push_cast; linarith, ?_⟩
  push_cast
  rintro (tie | tie) <;> linarith

theorem tie (whole : ℕ) : Nearest (whole + 1 / 2) (whole + whole % 2) := by
  rcases Nat.mod_two_eq_zero_or_one whole with even | odd
  · rw [even]
    exact ⟨le_rfl, by push_cast; linarith, fun _ => even⟩
  · rw [odd]
    exact ⟨by push_cast; linarith, by push_cast; linarith, fun _ => by omega⟩

theorem unique (first : Nearest value whole) (second : Nearest value next) : whole = next :=
  le_antisymm (mono le_rfl first second) (mono le_rfl second first)

end Nearest

section Halves

variable {rest denominator : ℕ}

theorem div_lt_half_iff (positive : 0 < denominator) :
    (rest : ℚ) / denominator < 1 / 2 ↔ 2 * rest < denominator := by
  have scale : (0 : ℚ) < denominator := by exact_mod_cast positive
  rw [div_lt_div_iff₀ scale two_pos, one_mul, mul_comm]
  norm_cast

theorem half_lt_div_iff (positive : 0 < denominator) :
    1 / 2 < (rest : ℚ) / denominator ↔ denominator < 2 * rest := by
  have scale : (0 : ℚ) < denominator := by exact_mod_cast positive
  rw [div_lt_div_iff₀ two_pos scale, one_mul, mul_comm]
  norm_cast

theorem div_eq_half (positive : 0 < denominator) (middle : 2 * rest = denominator) :
    (rest : ℚ) / denominator = 1 / 2 := by
  apply le_antisymm
  · exact not_lt.mp ((half_lt_div_iff positive).not.mpr middle.not_gt)
  · exact not_lt.mp ((div_lt_half_iff positive).not.mpr middle.not_lt)

end Halves

theorem nearest_nearestEven {denominator : ℕ} (positive : 0 < denominator) (numerator : ℕ) :
    Nearest (numerator / denominator) (nearestEven numerator denominator) := by
  have scale : (0 : ℚ) < denominator := by exact_mod_cast positive
  let part : ℚ := (numerator % denominator : ℕ) / denominator
  have split : (numerator : ℚ) / denominator = (numerator / denominator : ℕ) + part := by
    have division : denominator * (numerator / denominator) + numerator % denominator = numerator :=
      Nat.div_add_mod numerator denominator
    have rest : part * denominator = (numerator % denominator : ℕ) := div_mul_cancel₀ _ scale.ne'
    rw [div_eq_iff scale.ne', add_mul, rest, mul_comm]
    exact_mod_cast division.symm
  have nonnegative : 0 ≤ part := by positivity
  have small : part < 1 := by
    rw [div_lt_one scale]
    exact_mod_cast Nat.mod_lt numerator positive
  rw [split]
  unfold nearestEven
  dsimp only
  split
  · rename_i below
    exact .down nonnegative ((div_lt_half_iff positive).mpr below)
  · split
    · rename_i middle
      have half : part = 1 / 2 := div_eq_half positive middle
      rw [half]
      exact .tie _
    · rename_i notBelow notMiddle
      exact .up ((half_lt_div_iff positive).mpr (by omega)) small

/-- The exponent at which a value has a mantissa of 53 bits, or the least one. -/
structure Spans (value : ℚ) (exponent : ℤ) : Prop where
  least : minExponent ≤ exponent
  below : value < 2 ^ (exponent + 53)
  full : exponent = minExponent ∨ 2 ^ (exponent + 52) ≤ value

theorem zpow_two_pos (exponent : ℤ) : (0 : ℚ) < 2 ^ exponent := zpow_pos (by norm_num) _

theorem zpow_two_add (first second : ℤ) : (2 : ℚ) ^ (first + second) = 2 ^ first * 2 ^ second :=
  zpow_add₀ (by norm_num) _ _

theorem exponent_lt {first second : ℤ} (less : (2 : ℚ) ^ first < 2 ^ second) : first < second :=
  (zpow_lt_zpow_iff_right₀ (by norm_num)).mp less

theorem exponent_le_pow {first second : ℤ} (less : first ≤ second) : (2 : ℚ) ^ first ≤ 2 ^ second :=
  zpow_le_zpow_right₀ (by norm_num) less

namespace Spans

variable {value other : ℚ} {exponent next : ℤ} {whole : ℕ}

theorem mono (less : value ≤ other) (first : Spans value exponent) (second : Spans other next) :
    exponent ≤ next := by
  rcases first.full with least | full
  · exact least ▸ second.least
  · have := exponent_lt ((full.trans less).trans_lt second.below)
    omega

theorem nearest_le (spans : Spans value exponent) (nearest : Nearest (value / 2 ^ exponent) whole) :
    whole ≤ 2 ^ 53 := by
  refine Nearest.mono ?_ nearest (Nearest.ofNat _)
  have below := spans.below
  rw [add_comm, zpow_two_add] at below
  rw [div_le_iff₀ (zpow_two_pos exponent)]
  exact_mod_cast below.le

theorem le_nearest (spans : Spans value exponent) (nearest : Nearest (value / 2 ^ exponent) whole)
    (normal : minExponent < exponent) : 2 ^ 52 ≤ whole := by
  refine Nearest.mono ?_ (Nearest.ofNat _) nearest
  have full : 2 ^ (exponent + 52) ≤ value := spans.full.resolve_left normal.ne'
  rw [add_comm, zpow_two_add] at full
  rw [le_div_iff₀ (zpow_two_pos exponent)]
  exact_mod_cast full

end Spans

theorem quotient_between {numerator denominator : ℕ} (nonzero : 0 < numerator)
    (positive : 0 < denominator) :
    let bits : ℤ := (Nat.log2 numerator : ℤ) - Nat.log2 denominator
    (2 : ℚ) ^ (bits - 1) ≤ numerator / denominator ∧
      (numerator : ℚ) / denominator < 2 ^ (bits + 1) := by
  intro bits
  have scale : (0 : ℚ) < denominator := by exact_mod_cast positive
  have numeratorLow : (2 : ℚ) ^ (Nat.log2 numerator : ℤ) ≤ numerator := by
    exact_mod_cast Nat.log2_self_le nonzero.ne'
  have numeratorHigh : (numerator : ℚ) < 2 ^ ((Nat.log2 numerator : ℤ) + 1) := by
    exact_mod_cast Nat.lt_log2_self (n := numerator)
  have denominatorLow : (2 : ℚ) ^ (Nat.log2 denominator : ℤ) ≤ denominator := by
    exact_mod_cast Nat.log2_self_le positive.ne'
  have denominatorHigh : (denominator : ℚ) < 2 ^ ((Nat.log2 denominator : ℤ) + 1) := by
    exact_mod_cast Nat.lt_log2_self (n := denominator)
  constructor
  · rw [le_div_iff₀ scale]
    calc (2 : ℚ) ^ (bits - 1) * denominator
        ≤ 2 ^ (bits - 1) * 2 ^ ((Nat.log2 denominator : ℤ) + 1) :=
          mul_le_mul_of_nonneg_left denominatorHigh.le (zpow_two_pos _).le
      _ = 2 ^ (Nat.log2 numerator : ℤ) := by
          rw [← zpow_two_add]
          congr 1
          omega
      _ ≤ numerator := numeratorLow
  · rw [div_lt_iff₀ scale]
    calc (numerator : ℚ) < 2 ^ ((Nat.log2 numerator : ℤ) + 1) := numeratorHigh
      _ = 2 ^ (bits + 1) * 2 ^ (Nat.log2 denominator : ℤ) := by
          rw [← zpow_two_add]
          congr 1
          omega
      _ ≤ 2 ^ (bits + 1) * denominator :=
          mul_le_mul_of_nonneg_left denominatorLow (zpow_two_pos _).le

/-- Whether 53 bits hold the mantissa at an exponent, as the division tells it. -/
theorem scaled_div_lt_iff {denominator : ℕ} (positive : 0 < denominator) (numerator : ℕ)
    (exponent : ℤ) :
    (scaled numerator denominator exponent).1 / (scaled numerator denominator exponent).2 <
        Nat.pow 2 53 ↔
      (numerator : ℚ) / denominator < 2 ^ (exponent + 53) := by
  have pos := scaled_pos positive numerator exponent
  have scale : (0 : ℚ) < (scaled numerator denominator exponent).2 := by exact_mod_cast pos
  rw [Nat.div_lt_iff_lt_mul pos, zpow_two_add, mul_comm ((2 : ℚ) ^ exponent),
    ← div_lt_iff₀ (zpow_two_pos exponent), ← scaled_eq, div_lt_iff₀ scale]
  norm_cast

theorem spans_exponentOf {numerator denominator : ℕ} (nonzero : 0 < numerator)
    (positive : 0 < denominator) :
    Spans (numerator / denominator) (exponentOf numerator denominator) := by
  obtain ⟨low, high⟩ := quotient_between nonzero positive
  generalize value : (numerator : ℚ) / denominator = quotient at low high
  let guess : ℤ := (Nat.log2 numerator : ℤ) - Nat.log2 denominator - 53
  let part := scaled numerator denominator guess
  have small : part.1 / part.2 < Nat.pow 2 53 ↔ quotient < 2 ^ (guess + 53) :=
    value ▸ scaled_div_lt_iff positive numerator guess
  let exponent := if part.1 / part.2 < Nat.pow 2 53 then guess else guess + 1
  have normal : quotient < 2 ^ (exponent + 53) ∧ 2 ^ (exponent + 52) ≤ quotient := by
    simp only [exponent]
    split
    · rename_i fits
      refine ⟨small.mp fits, ?_⟩
      convert low using 2
      omega
    · rename_i beyond
      have reached : 2 ^ (guess + 53) ≤ quotient := not_lt.mp fun less => beyond (small.mpr less)
      constructor
      · convert high using 2
        omega
      · convert reached using 2
        omega
  have found : exponentOf numerator denominator = max exponent minExponent := rfl
  rw [found]
  rcases le_total exponent minExponent with less | greater
  · rw [max_eq_right less]
    exact ⟨le_rfl, normal.1.trans_le (exponent_le_pow (by omega)), .inl rfl⟩
  · rw [max_eq_left greater]
    exact ⟨greater, normal.1, .inr normal.2⟩

def RoundsTo (value rounded : ℚ) : Prop :=
  ∃ exponent whole, Spans value exponent ∧ Nearest (value / 2 ^ exponent) whole ∧
    rounded = whole * 2 ^ exponent

def Representable (value : ℚ) : Prop :=
  ∃ (mantissa : ℕ) (exponent : ℤ), mantissa < 2 ^ 53 ∧ minExponent ≤ exponent ∧
    value = mantissa * 2 ^ exponent

theorem representable_of_le {number : ℕ} (small : number ≤ 2 ^ 53) : Representable number := by
  rcases small.lt_or_eq with less | rfl
  · exact ⟨number, 0, less, by decide, by simp⟩
  · exact ⟨2 ^ 52, 1, by norm_num, by decide, by norm_num⟩

namespace RoundsTo

variable {value other rounded next : ℚ}

/-- A mantissa that is rounded up to 54 bits is still below what has a greater exponent. -/
theorem mono (less : value ≤ other) (first : RoundsTo value rounded) (second : RoundsTo other next) :
    rounded ≤ next := by
  obtain ⟨exponent, whole, spans, nearest, rfl⟩ := first
  obtain ⟨later, mantissa, spansLater, nearestLater, rfl⟩ := second
  rcases (Spans.mono less spans spansLater).eq_or_lt with rfl | smaller
  · have order : whole ≤ mantissa :=
      Nearest.mono (div_le_div_of_nonneg_right less (zpow_two_pos exponent).le) nearest nearestLater
    exact mul_le_mul_of_nonneg_right (by exact_mod_cast order) (zpow_two_pos exponent).le
  · have upper : whole ≤ 2 ^ 53 := spans.nearest_le nearest
    have lower : 2 ^ 52 ≤ mantissa :=
      spansLater.le_nearest nearestLater (spans.least.trans_lt smaller)
    calc (whole : ℚ) * 2 ^ exponent
        ≤ 2 ^ (53 : ℤ) * 2 ^ exponent :=
          mul_le_mul_of_nonneg_right (by exact_mod_cast upper) (zpow_two_pos exponent).le
      _ = 2 ^ (53 + exponent) := (zpow_two_add _ _).symm
      _ ≤ 2 ^ (52 + later) := exponent_le_pow (by omega)
      _ = 2 ^ (52 : ℤ) * 2 ^ later := zpow_two_add _ _
      _ ≤ mantissa * 2 ^ later :=
          mul_le_mul_of_nonneg_right (by exact_mod_cast lower) (zpow_two_pos later).le

theorem eq_of_representable (rounds : RoundsTo value rounded) (exact : Representable value) :
    rounded = value := by
  obtain ⟨exponent, whole, spans, nearest, rfl⟩ := rounds
  obtain ⟨mantissa, finer, small, least, rfl⟩ := exact
  have coarse : exponent ≤ finer := by
    rcases spans.full with same | full
    · exact same ▸ least
    · have bound : (mantissa : ℚ) * 2 ^ finer < 2 ^ (53 + finer) := by
        rw [zpow_two_add]
        exact mul_lt_mul_of_pos_right (by exact_mod_cast small) (zpow_two_pos finer)
      have := exponent_lt (full.trans_lt bound)
      omega
  obtain ⟨shift, rfl⟩ := Int.le.dest coarse
  have natural : (mantissa : ℚ) * 2 ^ (exponent + shift) / 2 ^ exponent =
      (mantissa * 2 ^ shift : ℕ) := by
    rw [zpow_two_add]
    push_cast
    field_simp
    rw [zpow_natCast]
  rw [natural] at nearest
  rw [Nearest.unique nearest (Nearest.ofNat _), ← natural,
    div_mul_cancel₀ _ (zpow_two_pos exponent).ne']

end RoundsTo

/-- What an operation answers whose exact result is a value. -/
inductive Rounds (value : ℚ) : Option Binary64 → Prop
  | finite (number : Binary64) (rounds : RoundsTo value number.magnitude)
      (below : number.magnitude < ceiling) : Rounds value (some number)
  | beyond (rounded : ℚ) (rounds : RoundsTo value rounded) (above : ceiling ≤ rounded) :
      Rounds value none

theorem magnitude_lt_ceiling {number : Binary64} (small : number.mantissa < 2 ^ 53)
    (within : number.exponent ≤ maxExponent) : number.magnitude < ceiling := by
  have mantissa : (number.mantissa : ℚ) < 2 ^ (53 : ℤ) := by exact_mod_cast small
  calc number.magnitude < 2 ^ (53 : ℤ) * 2 ^ number.exponent :=
        mul_lt_mul_of_pos_right mantissa (zpow_two_pos _)
    _ = 2 ^ (53 + number.exponent) := (zpow_two_add _ _).symm
    _ ≤ ceiling := exponent_le_pow (by omega)

theorem ceiling_le_magnitude {number : Binary64} (full : 2 ^ 52 ≤ number.mantissa)
    (beyond : maxExponent < number.exponent) : ceiling ≤ number.magnitude := by
  have mantissa : (2 : ℚ) ^ (52 : ℤ) ≤ number.mantissa := by exact_mod_cast full
  calc ceiling ≤ 2 ^ (52 + number.exponent) := exponent_le_pow (by omega)
    _ = 2 ^ (52 : ℤ) * 2 ^ number.exponent := zpow_two_add _ _
    _ ≤ number.magnitude := mul_le_mul_of_nonneg_right mantissa (zpow_two_pos _).le

theorem roundsTo_zero : RoundsTo 0 0 := by
  refine ⟨minExponent, 0, ⟨le_rfl, zpow_two_pos _, .inl rfl⟩, ?_, by simp⟩
  simpa using Nearest.ofNat 0

/-- A mantissa that may have been rounded up to 54 bits: such a carry moves into the exponent. -/
def normalized (mantissa : ℕ) (exponent : ℤ) : Binary64 :=
  if mantissa = Nat.pow 2 53 then ⟨false, Nat.pow 2 52, exponent + 1⟩
  else ⟨false, mantissa, exponent⟩

section Normalized

variable {mantissa : ℕ} {exponent : ℤ}

theorem magnitude_normalized : (normalized mantissa exponent).magnitude = mantissa * 2 ^ exponent := by
  unfold normalized
  split
  · rename_i carry
    rw [carry, magnitude, zpow_two_add]
    norm_num
    ring
  · rfl

theorem normalized_lt (size : mantissa ≤ 2 ^ 53) (exponent : ℤ) :
    (normalized mantissa exponent).mantissa < 2 ^ 53 := by
  unfold normalized
  split
  · norm_num
  · rename_i fits
    exact lt_of_le_of_ne size fits

theorem normalized_full (full : minExponent < exponent → 2 ^ 52 ≤ mantissa)
    (beyond : maxExponent < (normalized mantissa exponent).exponent) :
    2 ^ 52 ≤ (normalized mantissa exponent).mantissa := by
  unfold normalized at beyond ⊢
  split
  · exact le_rfl
  · rename_i fits
    rw [if_neg fits] at beyond
    exact full (lt_trans (by decide) beyond)

end Normalized

theorem rounds_roundRatio {denominator : ℕ} (positive : 0 < denominator) (numerator : ℕ) :
    Rounds (numerator / denominator) (roundRatio numerator denominator) := by
  rcases Nat.eq_zero_or_pos numerator with rfl | nonzero
  · have nothing : zero.magnitude = 0 := by simp [zero, magnitude]
    rw [roundRatio, if_pos rfl]
    refine .finite zero ?_ (nothing ▸ zpow_two_pos _)
    rw [nothing, Nat.cast_zero, zero_div]
    exact roundsTo_zero
  · let exponent := exponentOf numerator denominator
    let part := scaled numerator denominator exponent
    let mantissa := nearestEven part.1 part.2
    have spans : Spans (numerator / denominator) exponent := spans_exponentOf nonzero positive
    have nearest : Nearest ((numerator : ℚ) / denominator / 2 ^ exponent) mantissa := by
      rw [← scaled_eq]
      exact nearest_nearestEven (scaled_pos positive numerator exponent) part.1
    have rounds : RoundsTo (numerator / denominator) (normalized mantissa exponent).magnitude :=
      ⟨exponent, mantissa, spans, nearest, magnitude_normalized⟩
    have result : roundRatio numerator denominator =
        if maxExponent < (normalized mantissa exponent).exponent then none
        else some (normalized mantissa exponent) := by
      rw [roundRatio, if_neg nonzero.ne']
      rfl
    rw [result]
    split
    · rename_i beyond
      have full := normalized_full (spans.le_nearest nearest) beyond
      exact .beyond _ rounds (ceiling_le_magnitude full beyond)
    · rename_i within
      have small := normalized_lt (spans.nearest_le nearest) exponent
      exact .finite _ rounds (magnitude_lt_ceiling small (not_lt.mp within))

/-- What is not rounded out of range leaves less in range too. -/
theorem Rounds.mono {value other : ℚ} {result : Option Binary64} {upper : Binary64}
    (less : value ≤ other) (first : Rounds value result) (second : Rounds other (some upper)) :
    ∃ number, result = some number ∧ number.magnitude ≤ upper.magnitude := by
  cases second with
  | finite upper roundsUpper below =>
      cases first with
      | finite number rounds _ => exact ⟨number, rfl, RoundsTo.mono less rounds roundsUpper⟩
      | beyond rounded rounds above =>
          exact absurd (RoundsTo.mono less rounds roundsUpper) (not_le.mpr (below.trans_le above))

theorem Rounds.eq_of_representable {value : ℚ} {result : Option Binary64}
    (rounds : Rounds value result) (exact : Representable value) (small : value < ceiling) :
    ∃ number, result = some number ∧ number.magnitude = value := by
  cases rounds with
  | finite number rounds _ => exact ⟨number, rfl, rounds.eq_of_representable exact⟩
  | beyond rounded rounds above =>
      rw [rounds.eq_of_representable exact] at above
      exact absurd small above.not_gt

theorem Rounds.exact {number : ℕ} {result : Option Binary64} (rounds : Rounds number result)
    (small : number ≤ 2 ^ 53) : ∃ found, result = some found ∧ found.magnitude = number := by
  have below : (number : ℚ) < ceiling := by
    calc (number : ℚ) ≤ 2 ^ (53 : ℤ) := by exact_mod_cast small
      _ < ceiling := zpow_lt_zpow_right₀ (by norm_num) (by decide)
  exact rounds.eq_of_representable (representable_of_le small) below

theorem magnitude_nonneg (number : Binary64) : 0 ≤ number.magnitude :=
  mul_nonneg (Nat.cast_nonneg _) (zpow_two_pos _).le

theorem rounds_ofNat? (number : ℕ) : Rounds number (ofNat? number) := by
  simpa [ofNat?] using rounds_roundRatio Nat.one_pos number

theorem Rounds.withSign {value : ℚ} {result : Option Binary64} (rounds : Rounds value result)
    (negative : Bool) : Rounds value (result.map fun number => number.withSign negative) := by
  cases rounds with
  | finite number rounds below => exact .finite (number.withSign negative) rounds below
  | beyond rounded rounds above => exact .beyond rounded rounds above

theorem rounds_mul? (left right : Binary64) :
    Rounds (left.magnitude * right.magnitude) (left.mul? right) := by
  have positive : 0 < left.ratio.2 * right.ratio.2 := Nat.mul_pos left.ratio_pos right.ratio_pos
  have rounds := rounds_roundRatio positive (left.ratio.1 * right.ratio.1)
  rw [Nat.cast_mul, Nat.cast_mul, mul_div_mul_comm, ratio_eq, ratio_eq] at rounds
  exact rounds.withSign _

end Gateway.Binary64

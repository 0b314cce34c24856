import Mathlib.Tactic.Linarith
import Mathlib.Tactic.Ring
import OverpassQuery.Binary64.Shortest
import OverpassQuery.Proofs.Binary64.Nearest

/-!
# Ranks of decimals

A decimal is the ratio of a numerator and a power of ten. When the ratio is nearest to a positive
finite rank, that rank is the rank of the decimal (`Decimal.rank_eq`): the decimal is neither so
great nor so small that its rank is given without rounding.

A decimal of a rank on any of the grids is nearest to it (`Binary64.nearest_of_readsBack`), and the
search for the shortest one ends with such a decimal, since the finest grid has a point below every
magnitude that is still above the midpoint. So the shortest decimal of a rank has that rank
(`Binary64.rank_shortest`).
-/

set_option autoImplicit false

namespace OverpassQuery

namespace Decimal

/-! ## Decimals as ratios -/

/-- The numerator of a decimal. -/
def numerator (decimal : Decimal) : Nat := decimal.coefficient * 10 ^ decimal.exponent.toNat

/-- The power of ten that divides the numerator of a decimal. -/
def denominator (decimal : Decimal) : Nat := 10 ^ (-decimal.exponent).toNat

theorem denominator_pos (decimal : Decimal) : 0 < decimal.denominator :=
  Nat.pow_pos (by decide)

theorem lt_pow_digitCount (value : Nat) : value < 10 ^ digitCount value :=
  (Nat.length_toDigits_le_iff (by decide) Nat.length_toDigits_pos).mp (Nat.le_refl _)

theorem pow_digitCount_pred_le {value : Nat} (positive : 0 < value) :
    10 ^ (digitCount value - 1) ≤ value := by
  by_contra less
  rcases Nat.eq_zero_or_pos (digitCount value - 1) with single | several
  · rw [single] at less
    omega
  · have := (Nat.length_toDigits_le_iff (by decide) several).mpr (Nat.lt_of_not_le less)
    change digitCount value ≤ digitCount value - 1 at this
    omega

/-- Decimals of moderate size are rounded as ratios. -/
theorem rank_eq_rankOfRatio {decimal : Decimal} (nonzero : decimal.coefficient ≠ 0)
    (least : -330 ≤ (digitCount decimal.coefficient : Int) + decimal.exponent)
    (greatest : (digitCount decimal.coefficient : Int) + decimal.exponent ≤ 310) :
    decimal.rank = Binary64.rankOfRatio decimal.numerator decimal.denominator := by
  have notSmall : ¬ (decimal.coefficient = 0 ∨
      (digitCount decimal.coefficient : Int) + decimal.exponent < -330) := by
    rintro (zero | small)
    · exact nonzero zero
    · exact Int.not_lt.mpr least small
  simp only [rank, if_neg notSmall, if_neg (Int.not_lt.mpr greatest)]
  obtain ⟨coefficient, exponent⟩ := decimal
  cases exponent with
  | ofNat zeros =>
      have none : (-(Int.ofNat zeros)).toNat = 0 := by simp
      simp only [denominator, none]
      rfl
  | negSucc places =>
      show _ = Binary64.rankOfRatio (coefficient * 1) _
      rw [Nat.mul_one]
      rfl

end Decimal

namespace Binary64

/-! ## The range of the ratios near a rank -/

section Range

variable {rank numerator denominator : Nat}

theorem units_finiteRanks_lt : units finiteRanks < 10 ^ 310 * one := by decide +kernel

/-- A ratio nearest to a finite rank has at most 310 places before the point. -/
theorem Nearest.lt_pow_ten (near : Nearest rank numerator denominator) (positive : 0 < denominator)
    (inRange : rank < finiteRanks) : numerator < 10 ^ 310 * denominator := by
  have next : units (rank + 1) ≤ units finiteRanks := units_strictMono.monotone inRange
  have this : units rank < units finiteRanks := units_strictMono inRange
  have below := near.below
  have sum : units rank + units (rank + 1) < 2 * (10 ^ 310 * one) := by
    have := units_finiteRanks_lt
    omega
  have bound := Nat.mul_lt_mul_of_pos_right sum positive
  have scaled : numerator * one < 10 ^ 310 * denominator * one := by
    generalize 10 ^ 310 = places at *
    linarith
  exact Nat.lt_of_mul_lt_mul_right scaled

/-- A ratio nearest to a positive rank has a digit other than zero up to the 331st place after
the point. -/
theorem Nearest.lt_mul_pow_ten (near : Nearest rank numerator denominator)
    (positive : 0 < denominator) (positiveRank : 0 < rank) :
    denominator < numerator * 10 ^ 331 := by
  have one_lt : 2 * one < 10 ^ 331 := by decide +kernel
  have magnitude : 1 ≤ units (rank - 1) + units rank := by
    have := units_pos positiveRank
    omega
  have reaches : denominator ≤ 2 * (numerator * one) := by
    have := Nat.mul_le_mul_right denominator magnitude
    have := near.above
    omega
  have numerator_pos : 0 < numerator := by
    by_contra zero
    obtain rfl : numerator = 0 := by omega
    omega
  calc denominator ≤ numerator * (2 * one) := by linarith
    _ < numerator * 10 ^ 331 := Nat.mul_lt_mul_of_pos_left one_lt numerator_pos

end Range

end Binary64

namespace Decimal

open Binary64

/-- **A decimal has the rank that it is nearest to.** -/
theorem rank_eq {decimal : Decimal} {rank : Nat}
    (near : Nearest rank decimal.numerator decimal.denominator) (positive : 0 < rank)
    (inRange : rank < finiteRanks) : decimal.rank = rank := by
  have small := near.lt_pow_ten decimal.denominator_pos inRange
  have large := near.lt_mul_pow_ten decimal.denominator_pos positive
  unfold numerator denominator at small large
  have nonzero : decimal.coefficient ≠ 0 := by
    intro zero
    rw [zero] at large
    omega
  have least : -330 ≤ (digitCount decimal.coefficient : Int) + decimal.exponent := by
    by_contra less
    have digits := Nat.mul_lt_mul_of_pos_right (lt_pow_digitCount decimal.coefficient)
      (Nat.pow_pos (n := decimal.exponent.toNat + 331) (by decide : 0 < 10))
    have places : digitCount decimal.coefficient + (decimal.exponent.toNat + 331)
        ≤ (-decimal.exponent).toNat := by omega
    have := Nat.pow_le_pow_right (by decide : 0 < 10) places
    rw [pow_add] at this
    rw [Nat.mul_assoc, ← pow_add] at large
    omega
  have greatest : (digitCount decimal.coefficient : Int) + decimal.exponent ≤ 310 := by
    by_contra more
    have digits := Nat.mul_le_mul_right (10 ^ decimal.exponent.toNat)
      (pow_digitCount_pred_le (Nat.pos_of_ne_zero nonzero))
    have places : 310 + (-decimal.exponent).toNat
        ≤ digitCount decimal.coefficient - 1 + decimal.exponent.toNat := by omega
    have := Nat.pow_le_pow_right (by decide : 0 < 10) places
    rw [pow_add, pow_add _ (digitCount decimal.coefficient - 1)] at this
    omega
  rw [rank_eq_rankOfRatio nonzero least greatest]
  exact near.rankOfRatio_eq decimal.denominator_pos positive

end Decimal

namespace Binary64

/-! ## Points of a grid -/

variable {rank : Nat}

theorem scaledMidpoint_eq (rank : Nat) :
    scaledMidpoint rank = (units rank + units (rank + 1)) * 10 ^ finestGrid := by
  simp only [scaledMidpoint, Nat.pow_eq]

theorem scaledMagnitude_eq (rank : Nat) :
    scaledMagnitude rank = 2 * units rank * 10 ^ finestGrid := by
  simp only [scaledMagnitude, Nat.pow_eq]

theorem scaledMidpoint_pred (positive : 0 < rank) :
    scaledMidpoint (rank - 1) = (units (rank - 1) + units rank) * 10 ^ finestGrid := by
  rw [scaledMidpoint_eq, Nat.sub_add_cancel positive]

/-- A scaled value is read back when it is no lower than one midpoint and no higher than the
other, and at neither of them when the rank is odd. -/
theorem readsBack_iff {value : Nat} : readsBack rank value = true ↔
    (scaledMidpoint (rank - 1) ≤ value ∧ value ≤ scaledMidpoint rank) ∧
      (rank % 2 = 1 → scaledMidpoint (rank - 1) < value ∧ value < scaledMidpoint rank) := by
  unfold readsBack
  split
  · rename_i even
    simp [even]
  · rename_i odd
    simp only [Bool.and_eq_true, decide_eq_true_eq]
    omega

/-- A point of a grid as a ratio, on the scale of the midpoints. -/
theorem mul_pow_finestGrid (coefficient grid : Nat) :
    let decimal : Decimal := ⟨coefficient, grid - finestGrid⟩
    2 * (decimal.numerator * one) * 10 ^ finestGrid
      = coefficient * gridStep grid * decimal.denominator := by
  have exponents : ((grid : Int) - finestGrid).toNat + finestGrid
      = grid + (-((grid : Int) - finestGrid)).toNat := by omega
  have powers : 10 ^ ((grid : Int) - finestGrid).toNat * 10 ^ finestGrid
      = 10 ^ grid * 10 ^ (-((grid : Int) - finestGrid)).toNat := by
    rw [← pow_add, ← pow_add, exponents]
  have step : gridStep grid = 10 ^ grid * (2 * one) := rfl
  simp only [Decimal.numerator, Decimal.denominator, step]
  generalize 10 ^ ((grid : Int) - finestGrid).toNat = up at *
  generalize 10 ^ (-((grid : Int) - finestGrid)).toNat = down at *
  calc 2 * (coefficient * up * one) * 10 ^ finestGrid
      = coefficient * 2 * one * (up * 10 ^ finestGrid) := by ring
    _ = coefficient * 2 * one * (10 ^ grid * down) := by rw [powers]
    _ = coefficient * (10 ^ grid * (2 * one)) * down := by ring

/-- **A point of a grid that is read back as a rank is nearest to the rank.** -/
theorem nearest_of_readsBack {coefficient grid : Nat} (positive : 0 < rank)
    (back : readsBack rank (coefficient * gridStep grid) = true) :
    let decimal : Decimal := ⟨coefficient, grid - finestGrid⟩
    Nearest rank decimal.numerator decimal.denominator := by
  intro decimal
  have scaled := mul_pow_finestGrid coefficient grid
  change 2 * (decimal.numerator * one) * 10 ^ finestGrid
      = coefficient * gridStep grid * decimal.denominator at scaled
  obtain ⟨⟨above, below⟩, strict⟩ := readsBack_iff.mp back
  rw [scaledMidpoint_pred positive] at above strict
  rw [scaledMidpoint_eq] at below strict
  exact nearest_of_scaled decimal.denominator_pos (Nat.pow_pos (by decide)) scaled above below
    strict

/-! ## The shortest decimal -/

theorem readsBack_of_onGrid? {grid coefficient : Nat}
    (found : onGrid? rank grid = some coefficient) :
    readsBack rank (coefficient * gridStep grid) = true := by
  simp only [onGrid?] at found
  split at found
  · cases found
  · rename_i lower _
    obtain rfl := Option.some.inj found
    exact lower
  · rename_i _ upper
    obtain rfl := Option.some.inj found
    exact upper
  · rename_i lower upper
    have chosen := Option.some.inj found
    split at chosen
    · exact chosen ▸ lower
    · exact chosen ▸ upper

/-- The point of the finest grid below a magnitude is still above the midpoint. -/
theorem readsBack_finestGrid (positive : 0 < rank) :
    readsBack rank (scaledMagnitude rank / gridStep 0 * gridStep 0) = true := by
  have step_pos : 0 < gridStep 0 := by decide +kernel
  have fine : gridStep 0 < 10 ^ finestGrid := by decide +kernel
  have floor : scaledMagnitude rank / gridStep 0 * gridStep 0 ≤ scaledMagnitude rank :=
    Nat.div_mul_le_self _ _
  have close : scaledMagnitude rank
      < scaledMagnitude rank / gridStep 0 * gridStep 0 + gridStep 0 := by
    have := Nat.lt_div_mul_add step_pos (a := scaledMagnitude rank)
    exact this
  have lower : scaledMidpoint (rank - 1) + 10 ^ finestGrid ≤ scaledMagnitude rank := by
    have before : units (rank - 1) < units rank := units_strictMono (by omega)
    have sum : units (rank - 1) + units rank + 1 ≤ 2 * units rank := by omega
    have := Nat.mul_le_mul_right (10 ^ finestGrid) sum
    rw [scaledMidpoint_pred positive, scaledMagnitude_eq]
    generalize 10 ^ finestGrid = scale at *
    linarith
  have upper : scaledMagnitude rank < scaledMidpoint rank := by
    have after : units rank < units (rank + 1) := units_strictMono (Nat.lt_succ_self rank)
    have sum : 2 * units rank < units rank + units (rank + 1) := by omega
    rw [scaledMagnitude_eq, scaledMidpoint_eq]
    exact Nat.mul_lt_mul_of_pos_right sum (Nat.pow_pos (by decide))
  generalize scaledMagnitude rank / gridStep 0 * gridStep 0 = point at *
  refine readsBack_iff.mpr ⟨⟨?_, ?_⟩, fun _ => ⟨?_, ?_⟩⟩
  · omega
  · omega
  · omega
  · omega

/-- **The search ends with a point that is read back**, whatever grid it starts with. -/
theorem exists_readsBack_shortestUpTo (positive : 0 < rank) (start : Nat) :
    ∃ coefficient grid : Nat, shortestUpTo rank start = ⟨coefficient, grid - finestGrid⟩ ∧
      readsBack rank (coefficient * gridStep grid) = true := by
  induction start with
  | zero => exact ⟨_, 0, by simp [shortestUpTo], readsBack_finestGrid positive⟩
  | succ grid ih =>
      unfold shortestUpTo
      split
      · rename_i coefficient found
        exact ⟨coefficient, grid + 1, rfl, readsBack_of_onGrid? found⟩
      · exact ih

theorem nearest_shortest (positive : 0 < rank) :
    Nearest rank (shortest rank).numerator (shortest rank).denominator := by
  unfold shortest
  rw [if_neg (Nat.ne_of_gt positive)]
  obtain ⟨coefficient, grid, eq, back⟩ := exists_readsBack_shortestUpTo positive
    (Decimal.digitCount (scaledMagnitude rank / (2 * one)))
  rw [eq]
  exact nearest_of_readsBack positive back

/-- **The shortest decimal of a rank has that rank.** -/
theorem rank_shortest (inRange : rank < finiteRanks) : (shortest rank).rank = rank := by
  rcases Nat.eq_zero_or_pos rank with rfl | positive
  · rfl
  · exact Decimal.rank_eq (nearest_shortest positive) positive inRange

end Binary64

end OverpassQuery

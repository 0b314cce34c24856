import Mathlib.Tactic.Linarith
import Mathlib.Tactic.Ring
import OverpassQuery.Binary64.Decimal

/-!
# Rounding to the nearest number

The magnitudes increase with their ranks, and the step from one to the next is the power of two
that belongs to the first (`Binary64.units_succ`). A ratio is nearest to a rank when it lies
between the midpoints to the two neighbours, where a midpoint counts if the rank is even
(`Binary64.Nearest`).

Rounding a ratio gives the rank that it is nearest to (`Binary64.Nearest.rankOfRatio_eq`). The
rounded significand has the power of two of the rank or, directly below the first rank of a power,
that of the rank before; there the significand is carried.
-/

set_option autoImplicit false

namespace OverpassQuery

namespace Binary64

/-! ## Magnitudes -/

theorem units_eq (rank : Nat) : units rank = significand rank * 2 ^ shift rank := rfl

theorem shift_mul_le (rank : Nat) : shift rank * perPower ≤ rank := by
  unfold shift perPower
  omega

/-- A rank is made of its power of two and its significand. -/
theorem rank_eq (rank : Nat) : rank = shift rank * perPower + significand rank := by
  have := shift_mul_le rank
  unfold significand
  omega

theorem significand_lt (rank : Nat) : significand rank < 2 * perPower := by
  unfold significand shift perPower
  omega

/-- From the second power of two on, significands have their highest digit. -/
theorem perPower_le_significand {rank : Nat} (shifted : 0 < shift rank) :
    perPower ≤ significand rank := by
  unfold significand shift perPower at *
  omega

/-- The next rank has the next significand, or the first one of the next power of two. -/
theorem succ_cases (rank : Nat) :
    shift (rank + 1) = shift rank ∧ significand (rank + 1) = significand rank + 1 ∨
      shift (rank + 1) = shift rank + 1 ∧ significand rank + 1 = 2 * perPower ∧
        significand (rank + 1) = perPower := by
  unfold significand shift perPower
  omega

/-- **From a magnitude to the next it is one step of its power of two.** -/
theorem units_succ (rank : Nat) : units (rank + 1) = units rank + 2 ^ shift rank := by
  rw [units_eq, units_eq]
  rcases succ_cases rank with ⟨sameShift, next⟩ | ⟨nextShift, last, first⟩
  · rw [sameShift, next]
    ring
  · have carried : significand rank * 2 ^ shift rank + 2 ^ shift rank
        = 2 * perPower * 2 ^ shift rank := by
      rw [← last]
      ring
    rw [carried, nextShift, first]
    ring

theorem units_strictMono : StrictMono units := by
  refine strictMono_nat_of_lt_succ fun rank => ?_
  have step : 0 < 2 ^ shift rank := Nat.two_pow_pos _
  have := units_succ rank
  omega

theorem units_pos {rank : Nat} (positive : 0 < rank) : 0 < units rank := by
  have := units_strictMono positive
  omega

/-! ## Rounding a ratio to a natural number -/

/-- What is within half of a natural number, or halfway and the number even, is rounded to it. -/
theorem nearestEven_eq {numerator denominator value : Nat} (positive : 0 < denominator)
    (above : 2 * (value * denominator) ≤ 2 * numerator + denominator)
    (below : 2 * numerator ≤ 2 * (value * denominator) + denominator)
    (ties : value % 2 = 1 → 2 * (value * denominator) < 2 * numerator + denominator ∧
      2 * numerator < 2 * (value * denominator) + denominator) :
    nearestEven numerator denominator = value := by
  have split : denominator * (numerator / denominator) + numerator % denominator = numerator :=
    Nat.div_add_mod numerator denominator
  have small : numerator % denominator < denominator := Nat.mod_lt _ positive
  unfold nearestEven
  generalize numerator / denominator = floor at *
  generalize numerator % denominator = remainder at *
  rw [Nat.mul_comm] at split
  have atLeast : floor ≤ value := by
    by_contra less
    have := Nat.mul_le_mul_right denominator (Nat.succ_le_of_lt (Nat.lt_of_not_le less))
    rw [Nat.succ_mul] at this
    omega
  have atMost : value ≤ floor + 1 := by
    by_contra more
    have := Nat.mul_le_mul_right denominator (Nat.succ_le_of_lt (Nat.lt_of_not_le more))
    rw [Nat.succ_mul, Nat.succ_mul] at this
    omega
  rcases Nat.lt_or_ge value (floor + 1) with lower | upper
  · obtain rfl : value = floor := by omega
    by_cases less : 2 * remainder < denominator
    · simp [less]
    · have half : 2 * remainder = denominator := by omega
      have even : value % 2 = 0 := by omega
      simp [half, even]
  · obtain rfl : value = floor + 1 := by omega
    have carried : (floor + 1) * denominator = floor * denominator + denominator :=
      Nat.succ_mul _ _
    by_cases more : denominator < 2 * remainder
    · have notLess : ¬ 2 * remainder < denominator := by omega
      simp [more, notLess]
    · have half : 2 * remainder = denominator := by omega
      have odd : floor % 2 = 1 := by omega
      simp [half, odd]

/-! ## Rounding a ratio to a rank -/

/-- A ratio lies between the midpoints to the neighbours of a positive rank. A midpoint counts
when the rank is even. -/
structure Nearest (rank numerator denominator : Nat) : Prop where
  above : (units (rank - 1) + units rank) * denominator ≤ 2 * (numerator * one)
  below : 2 * (numerator * one) ≤ (units rank + units (rank + 1)) * denominator
  inside : rank % 2 = 1 →
    (units (rank - 1) + units rank) * denominator < 2 * (numerator * one) ∧
      2 * (numerator * one) < (units rank + units (rank + 1)) * denominator

section Rounding

variable {rank numerator denominator : Nat}

/-- A ratio can be compared with the midpoints on any scale. -/
theorem nearest_of_scaled {value scale : Nat} (positive : 0 < denominator) (scale_pos : 0 < scale)
    (scaled : 2 * (numerator * one) * scale = value * denominator)
    (above : (units (rank - 1) + units rank) * scale ≤ value)
    (below : value ≤ (units rank + units (rank + 1)) * scale)
    (inside : rank % 2 = 1 → (units (rank - 1) + units rank) * scale < value ∧
      value < (units rank + units (rank + 1)) * scale) :
    Nearest rank numerator denominator := by
  generalize lower : units (rank - 1) + units rank = before at above inside
  generalize upper : units rank + units (rank + 1) = after at below inside
  have atLeast := Nat.mul_le_mul_right denominator above
  have atMost := Nat.mul_le_mul_right denominator below
  rw [← scaled, Nat.mul_right_comm] at atLeast
  rw [← scaled, Nat.mul_right_comm after] at atMost
  refine ⟨?_, ?_, fun odd => ?_⟩
  · exact lower ▸ Nat.le_of_mul_le_mul_right atLeast scale_pos
  · exact upper ▸ Nat.le_of_mul_le_mul_right atMost scale_pos
  · have more := Nat.mul_lt_mul_of_pos_right (inside odd).1 positive
    have less := Nat.mul_lt_mul_of_pos_right (inside odd).2 positive
    rw [← scaled, Nat.mul_right_comm] at more
    rw [← scaled, Nat.mul_right_comm after] at less
    exact ⟨lower ▸ Nat.lt_of_mul_lt_mul_right more, upper ▸ Nat.lt_of_mul_lt_mul_right less⟩

/-- The step to a magnitude from the one before is no greater than the step after it. -/
theorem units_le_pred_add (positive : 0 < rank) :
    units rank ≤ units (rank - 1) + 2 ^ shift rank := by
  obtain ⟨before, rfl⟩ := Nat.exists_eq_add_of_lt positive
  simp only [Nat.zero_add, Nat.add_sub_cancel]
  have shifts : shift before ≤ shift (before + 1) := by
    unfold shift perPower
    omega
  have steps : 2 ^ shift before ≤ 2 ^ shift (before + 1) :=
    Nat.pow_le_pow_right (by decide) shifts
  have := units_succ before
  omega

/-- The power of two of the rounded significand. -/
def power (numerator denominator : Nat) : Nat := (numerator * one / denominator).log2 - 52

/-- A ratio below the end of a power of two has at most that power. -/
theorem power_le {shifted : Nat} (positive : 0 < denominator)
    (less : numerator * one < 2 ^ (53 + shifted) * denominator) :
    power numerator denominator ≤ shifted := by
  have quotient : numerator * one / denominator < 2 ^ (53 + shifted) :=
    (Nat.div_lt_iff_lt_mul positive).mpr less
  unfold power
  by_cases zero : numerator * one / denominator = 0
  · simp [zero]
  · have := (Nat.log2_lt zero).mpr quotient
    omega

/-- A ratio that reaches a power of two has that power. -/
theorem le_power {shifted : Nat} (positive : 0 < denominator)
    (reaches : 2 ^ (52 + shifted) * denominator ≤ numerator * one) :
    shifted ≤ power numerator denominator := by
  have quotient : 2 ^ (52 + shifted) ≤ numerator * one / denominator :=
    (Nat.le_div_iff_mul_le positive).mpr reaches
  have nonzero : numerator * one / denominator ≠ 0 := by
    have := Nat.two_pow_pos (52 + shifted)
    omega
  have := (Nat.le_log2 nonzero).mpr quotient
  unfold power
  omega

/-- The ratio has at most the power of two of the rank. -/
theorem Nearest.power_le_shift (near : Nearest rank numerator denominator)
    (positive : 0 < denominator) : power numerator denominator ≤ shift rank := by
  refine power_le positive ?_
  have below := near.below
  rw [units_succ] at below
  have bound : units rank + (units rank + 2 ^ shift rank) < 2 * 2 ^ (53 + shift rank) := by
    rw [units_eq, pow_add]
    have lessThan := significand_lt rank
    have step : 0 < 2 ^ shift rank := Nat.two_pow_pos _
    unfold perPower at lessThan
    nlinarith
  nlinarith

/-- With the power of two of the rank, the ratio is rounded to the significand of the rank. -/
theorem Nearest.nearestEven_eq_significand (near : Nearest rank numerator denominator)
    (positive : 0 < denominator) (positiveRank : 0 < rank) :
    nearestEven (numerator * one) (denominator * 2 ^ shift rank) = significand rank := by
  have step : 0 < 2 ^ shift rank := Nat.two_pow_pos _
  have magnitude :
      significand rank * (denominator * 2 ^ shift rank) = units rank * denominator := by
    rw [units_eq]
    ring
  have before := Nat.mul_le_mul_right denominator (units_le_pred_add positiveRank)
  have above := near.above
  have below := near.below
  rw [units_succ] at below
  simp only [Nat.add_mul] at before above below
  have sizes : denominator * 2 ^ shift rank = 2 ^ shift rank * denominator := Nat.mul_comm _ _
  refine nearestEven_eq (Nat.mul_pos positive step) ?_ ?_ fun odd => ?_
  · omega
  · omega
  · have oddRank : rank % 2 = 1 := by
      have := rank_eq rank
      unfold perPower at this
      omega
    obtain ⟨inside, inside'⟩ := near.inside oddRank
    rw [units_succ] at inside'
    simp only [Nat.add_mul] at inside inside'
    omega

/-- A ratio that does not reach the power of two of its rank lies directly below the first rank
of that power: the rank before has the last significand of the power before. -/
theorem Nearest.below_first (near : Nearest rank numerator denominator)
    (shifted : 0 < shift rank) (less : numerator * one < 2 ^ (52 + shift rank) * denominator) :
    significand rank = perPower ∧ shift rank = shift (rank - 1) + 1 ∧
      significand (rank - 1) + 1 = 2 * perPower := by
  have positiveRank : 0 < rank := by
    by_contra zero
    obtain rfl : rank = 0 := by omega
    cases shifted
  obtain ⟨before, rfl⟩ : ∃ before, rank = before + 1 := ⟨rank - 1, by omega⟩
  rw [Nat.add_sub_cancel]
  rcases succ_cases before with ⟨sameShift, next⟩ | ⟨nextShift, last, first⟩
  · -- Both midpoints then lie at the power of two or past it.
    have high : perPower ≤ significand before := perPower_le_significand (sameShift ▸ shifted)
    have above := near.above
    rw [Nat.add_sub_cancel, units_succ, units_eq, ← sameShift] at above
    have reached : 2 * 2 ^ (52 + shift (before + 1))
        ≤ significand before * 2 ^ shift (before + 1)
          + (significand before * 2 ^ shift (before + 1) + 2 ^ shift (before + 1)) := by
      have firstOfPower : 2 ^ 52 = perPower := rfl
      have scaled := Nat.mul_le_mul_right (2 ^ shift (before + 1)) high
      rw [pow_add, firstOfPower]
      generalize 2 ^ shift (before + 1) = step at *
      omega
    have := Nat.mul_le_mul_right denominator reached
    rw [Nat.mul_assoc] at this
    omega
  · exact ⟨first, nextShift, last⟩

/-- Directly below the first rank of a power, the ratio is rounded with the power before, to
twice the least significand. -/
theorem Nearest.carried (near : Nearest rank numerator denominator) (positive : 0 < denominator)
    (shifted : 0 < shift rank) (less : numerator * one < 2 ^ (52 + shift rank) * denominator) :
    shift rank = power numerator denominator + 1 ∧
      nearestEven (numerator * one) (denominator * 2 ^ power numerator denominator)
        = 2 * perPower := by
  obtain ⟨first, nextShift, last⟩ := near.below_first shifted less
  have above := near.above
  rw [units_eq rank, units_eq, first, nextShift] at above
  rw [nextShift] at less
  generalize shift (rank - 1) = lower at *
  have firstOfPower : 2 ^ 52 = perPower := rfl
  -- The step below the rank, scaled by the denominator, is the measure of all sizes here.
  generalize stepped : denominator * 2 ^ lower = step
  have step_pos : 0 < step := stepped ▸ Nat.mul_pos positive (Nat.two_pow_pos lower)
  have step_le : step ≤ perPower * step := Nat.le_mul_of_pos_left step (by decide)
  have midpoint : 2 * (2 * perPower * step) ≤ 2 * (numerator * one) + step := by
    have scaled : (significand (rank - 1) * 2 ^ lower + perPower * 2 ^ (lower + 1)) * denominator
        = significand (rank - 1) * step + 2 * perPower * step := by
      rw [← stepped]
      ring
    have carry : (significand (rank - 1) + 1) * step = significand (rank - 1) * step + step :=
      Nat.succ_mul _ _
    rw [last] at carry
    omega
  have reaches : 2 ^ (52 + lower) * denominator ≤ numerator * one := by
    have scaled : 2 ^ (52 + lower) * denominator = perPower * step := by
      rw [← stepped, pow_add, firstOfPower]
      ring
    have twice : 2 * perPower * step = 2 * (perPower * step) := Nat.mul_assoc _ _ _
    omega
  have ends : numerator * one < 2 * perPower * step := by
    have scaled : 2 ^ (52 + (lower + 1)) * denominator = 2 * perPower * step := by
      rw [← stepped, pow_add, firstOfPower]
      ring
    omega
  have same : power numerator denominator = lower := by
    refine Nat.le_antisymm (power_le positive ?_) (le_power positive reaches)
    have scaled : 2 ^ (53 + lower) * denominator = 2 * perPower * step := by
      rw [← stepped, ← firstOfPower]
      ring
    omega
  rw [same, stepped]
  refine ⟨nextShift, nearestEven_eq step_pos ?_ ?_ ?_⟩
  · exact midpoint
  · omega
  · intro odd
    unfold perPower at odd
    omega

/-- **A ratio is rounded to the rank it is nearest to.** -/
theorem Nearest.rankOfRatio_eq (near : Nearest rank numerator denominator)
    (positive : 0 < denominator) (positiveRank : 0 < rank) :
    rankOfRatio numerator denominator = rank := by
  have whole := rank_eq rank
  show power numerator denominator * perPower
    + nearestEven (numerator * one) (denominator * 2 ^ power numerator denominator) = rank
  have most := near.power_le_shift positive
  by_cases reaches : shift rank ≤ power numerator denominator
  · have same : power numerator denominator = shift rank := Nat.le_antisymm most reaches
    rw [same, near.nearestEven_eq_significand positive positiveRank]
    exact whole.symm
  · have less : numerator * one < 2 ^ (52 + shift rank) * denominator := by
      by_contra notLess
      exact reaches (le_power positive (Nat.le_of_not_lt notLess))
    have shifted : 0 < shift rank := by omega
    obtain ⟨first, -, -⟩ := near.below_first shifted less
    obtain ⟨next, rounded⟩ := near.carried positive shifted less
    rw [rounded]
    rw [next, first] at whole
    rw [whole]
    ring

end Rounding

end Binary64

end OverpassQuery

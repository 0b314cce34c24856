import OverpassQuery.Proofs.Binary64.Nearest

/-!
# The range of rounded ratios

A ratio is rounded to the natural number below it or to the one above (`le_nearestEven`,
`nearestEven_le`). So a ratio that stays below a power of two has at most the first rank of that
power (`rankOfRatio_le`), and one that reaches a power of two has that rank at least
(`le_rankOfRatio`).

So nothing overflows where numbers are only divided. Natural numbers of 64 bits are far below the
last power of two, and below it the quotient by a number from two on is below it again
(`Moderate.quotientRank`).
-/

set_option autoImplicit false

namespace OverpassQuery

namespace Binary64

/-! ## Ratios -/

theorem le_nearestEven (numerator denominator : Nat) :
    numerator / denominator ≤ nearestEven numerator denominator := by
  simp only [nearestEven]
  split
  · exact Nat.le_refl _
  · split
    · exact Nat.le_succ _
    · exact Nat.le_add_right _ _

theorem nearestEven_le (numerator denominator : Nat) :
    nearestEven numerator denominator ≤ numerator / denominator + 1 := by
  simp only [nearestEven]
  split
  · exact Nat.le_succ _
  · split
    · exact Nat.le_refl _
    · exact Nat.add_le_add_left (Nat.le_of_lt_succ (Nat.mod_lt _ Nat.two_pos)) _

section Rounding

variable {numerator denominator shifted : Nat}

theorem rankOfRatio_eq_power (numerator denominator : Nat) :
    rankOfRatio numerator denominator = power numerator denominator * perPower
      + nearestEven (numerator * one) (denominator * 2 ^ power numerator denominator) := rfl

/-- Divided by its power of two, a ratio is below the last significand. -/
theorem div_power_lt (numerator denominator : Nat) :
    numerator * one / (denominator * 2 ^ power numerator denominator) < 2 * perPower := by
  have highest : (numerator * one / denominator).log2 + 1
      ≤ 53 + power numerator denominator := by
    unfold power
    omega
  have quotient : numerator * one / denominator < 2 ^ 53 * 2 ^ power numerator denominator := by
    rw [← pow_add]
    exact Nat.lt_of_lt_of_le Nat.lt_log2_self (Nat.pow_le_pow_right Nat.two_pos highest)
  rw [← Nat.div_div_eq_div_mul]
  exact (Nat.div_lt_iff_lt_mul (Nat.two_pow_pos _)).mpr quotient

/-- **A ratio below a power of two has at most the first rank of that power.** -/
theorem rankOfRatio_le (positive : 0 < denominator)
    (less : numerator * one < 2 ^ (53 + shifted) * denominator) :
    rankOfRatio numerator denominator ≤ (shifted + 2) * perPower := by
  have most := Nat.mul_le_mul_right perPower (power_le positive less)
  have rounded := nearestEven_le (numerator * one)
    (denominator * 2 ^ power numerator denominator)
  have small := div_power_lt numerator denominator
  rw [rankOfRatio_eq_power, Nat.add_mul]
  omega

/-- **A ratio that reaches a power of two has at least the first rank of that power.** -/
theorem le_rankOfRatio (positive : 0 < denominator)
    (reaches : 2 ^ (52 + shifted) * denominator ≤ numerator * one) :
    (shifted + 1) * perPower ≤ rankOfRatio numerator denominator := by
  have quotient : 2 ^ (52 + shifted) ≤ numerator * one / denominator :=
    (Nat.le_div_iff_mul_le positive).mpr reaches
  have nonzero : numerator * one / denominator ≠ 0 :=
    Nat.ne_of_gt (Nat.lt_of_lt_of_le (Nat.two_pow_pos _) quotient)
  have highest : 52 + power numerator denominator = (numerator * one / denominator).log2 := by
    have := (Nat.le_log2 nonzero).mpr quotient
    unfold power
    omega
  have large : perPower
      ≤ numerator * one / (denominator * 2 ^ power numerator denominator) := by
    rw [← Nat.div_div_eq_div_mul, Nat.le_div_iff_mul_le (Nat.two_pow_pos _)]
    show 2 ^ 52 * 2 ^ power numerator denominator ≤ _
    rw [← pow_add, highest]
    exact Nat.log2_self_le nonzero
  have least := Nat.mul_le_mul_right perPower (le_power positive reaches)
  have rounded := le_nearestEven (numerator * one)
    (denominator * 2 ^ power numerator denominator)
  rw [rankOfRatio_eq_power, Nat.add_mul]
  omega

end Rounding

/-! ## Products and quotients that stay in range -/

/-- The first rank of a power of two. -/
theorem units_mul_perPower (shifted : Nat) :
    units ((shifted + 1) * perPower) = 2 ^ (52 + shifted) := by
  have shift_eq : shift ((shifted + 1) * perPower) = shifted := by
    unfold shift perPower
    omega
  have significand_eq : significand ((shifted + 1) * perPower) = 2 ^ 52 := by
    unfold significand
    rw [shift_eq]
    unfold perPower
    omega
  rw [units_eq, shift_eq, significand_eq, pow_add]

/-- Below the last power of two. -/
def Moderate (rank : Nat) : Prop := rank < 2046 * perPower

theorem Moderate.lt_finiteRanks {rank : Nat} (moderate : Moderate rank) : rank < finiteRanks := by
  unfold Moderate at moderate
  unfold finiteRanks
  unfold perPower at *
  omega

theorem moderate_of_le {rank shifted : Nat} (bound : rank ≤ (shifted + 2) * perPower)
    (small : shifted ≤ 2043) : Moderate rank := by
  have := Nat.mul_le_mul_right perPower (Nat.add_le_add_right small 2)
  unfold Moderate
  unfold perPower at *
  omega

/-- The magnitude `1` is a power of two. Its exponent is kept in a variable, since the power is too
large to be computed with. -/
theorem exists_one_eq : ∃ places, places = 1074 ∧ one = 2 ^ places := by
  unfold one
  generalize 1074 = places
  exact ⟨places, rfl, rfl⟩

theorem one_pos : 0 < one := by
  obtain ⟨places, -, one_eq⟩ := exists_one_eq
  rw [one_eq]
  exact Nat.two_pow_pos places

/-- A natural number of 64 bits is far from overflow. -/
theorem moderate_rankOfNat {value : Nat} (small : value < 2 ^ 64) : Moderate (rankOfNat value) := by
  obtain ⟨places, places_eq, one_eq⟩ := exists_one_eq
  obtain ⟨shifted, sum⟩ : ∃ shifted, 53 + shifted = 64 + places := ⟨11 + places, by omega⟩
  have less : value * one < 2 ^ (53 + shifted) * 1 := by
    rw [sum, pow_add, ← one_eq, Nat.mul_one]
    exact Nat.mul_lt_mul_of_pos_right small one_pos
  exact moderate_of_le (rankOfRatio_le Nat.one_pos less) (by omega)

/-- Numbers from two on have the magnitude of two at least. -/
theorem two_mul_one_le_units_rankOfNat {value : Nat} (two_le : 2 ≤ value) :
    2 * one ≤ units (rankOfNat value) := by
  obtain ⟨places, places_eq, one_eq⟩ := exists_one_eq
  obtain ⟨shifted, sum⟩ : ∃ shifted, 52 + shifted = places + 1 := ⟨places - 51, by omega⟩
  have twice : 2 ^ (52 + shifted) = 2 * one := by rw [sum, pow_succ', one_eq]
  have reaches : 2 ^ (52 + shifted) * 1 ≤ value * one := by
    rw [twice, Nat.mul_one]
    exact Nat.mul_le_mul_right one two_le
  rw [← twice, ← units_mul_perPower]
  exact units_strictMono.monotone (le_rankOfRatio Nat.one_pos reaches)

/-- **The quotient by a number from two on stays in range.** -/
theorem Moderate.quotientRank {rank value : Nat} (moderate : Moderate rank) (two_le : 2 ≤ value) :
    Moderate (quotientRank rank (rankOfNat value)) := by
  have divisor := two_mul_one_le_units_rankOfNat two_le
  have divisor_pos : 0 < units (rankOfNat value) :=
    Nat.lt_of_lt_of_le (Nat.mul_pos Nat.two_pos one_pos) divisor
  obtain ⟨shifted, count⟩ : ∃ shifted, shifted = 2043 := ⟨_, rfl⟩
  have dividend : units rank < 2 ^ (53 + shifted) * 2 := by
    have first : units ((shifted + 2 + 1) * perPower) = 2 ^ (53 + shifted) * 2 := by
      rw [units_mul_perPower, ← pow_succ]
      congr 1
      omega
    rw [← first, count]
    exact units_strictMono moderate
  have less : units rank * one < 2 ^ (53 + shifted) * units (rankOfNat value) :=
    calc units rank * one < 2 ^ (53 + shifted) * 2 * one :=
          Nat.mul_lt_mul_of_pos_right dividend one_pos
      _ = 2 ^ (53 + shifted) * (2 * one) := Nat.mul_assoc _ _ _
      _ ≤ 2 ^ (53 + shifted) * units (rankOfNat value) := Nat.mul_le_mul_left _ divisor
  exact moderate_of_le (rankOfRatio_le divisor_pos less) (Nat.le_of_eq count)

end Binary64

end OverpassQuery

import OverpassQuery.Binary64

/-!
# Rounding to double precision

The rank nearest to a non-negative ratio of natural numbers, a half going to the
even neighbour. The carry out of a significand needs no case of its own: the
rank after the last significand of one power of two is the first significand of
the next (`rankOfRatio`).

Products, quotients and powers of ten are rounded ratios of exact magnitudes.
-/

set_option autoImplicit false

namespace OverpassQuery

namespace Binary64

/-- The natural number nearest to a ratio; a half goes to the even neighbour. -/
def nearestEven (numerator denominator : Nat) : Nat :=
  let floor := numerator / denominator
  let remainder := numerator % denominator
  if 2 * remainder < denominator then floor
  else if denominator < 2 * remainder then floor + 1
  else floor + floor % 2

/-- The rank nearest to a ratio. Ranks from `finiteRanks` on stand for what overflows. -/
def rankOfRatio (numerator denominator : Nat) : Nat :=
  let scaled := numerator * one
  let power := (scaled / denominator).log2 - 52
  power * perPower + nearestEven scaled (denominator * Nat.pow 2 power)

/-- The rank nearest to a natural number. -/
def rankOfNat (value : Nat) : Nat := rankOfRatio value 1

/-- The rank nearest to the product of two magnitudes. -/
def productRank (first second : Nat) : Nat :=
  rankOfRatio (units first * units second) (one * one)

/-- The rank nearest to the quotient of two magnitudes. -/
def quotientRank (dividend divisor : Nat) : Nat := rankOfRatio (units dividend) (units divisor)

/-- The number nearest to an integer. -/
def ofInt (value : Int) : Binary64 := ofRank (decide (value < 0)) (rankOfNat value.natAbs)

/-- A number without its fraction, a half going away from zero; `none` for what is not finite. -/
def toNearestInt? : Binary64 → Option Int
  | .finite negative rank =>
      let magnitude := (2 * units rank.val + one) / (2 * one)
      some (if negative then -(magnitude : Int) else magnitude)
  | _ => none

example : rankOfNat 1 = 1023 * perPower := by decide +kernel
example : rankOfNat 9007199254740993 = rankOfNat 9007199254740992 := by decide +kernel
example : rankOfNat (Nat.pow 2 1024) = finiteRanks := by decide +kernel

end Binary64

end OverpassQuery

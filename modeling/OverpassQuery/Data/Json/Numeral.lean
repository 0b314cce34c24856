import OverpassQuery.Binary64.Decimal
import OverpassQuery.Data.Value

/-!
# Numerals of JSON

The parts of a numeral, and its value. A whole numeral within 64 bits is an
integer; every other one is a double-precision number, which is not always the
nearest: the leading digits, as many as 64 bits hold, are rounded first, and the
product or quotient with a power of ten is rounded again. A negative zero is a
double-precision number. What is too large has no value.
-/

set_option autoImplicit false

namespace OverpassQuery

namespace Json

/-- The parts of a numeral: sign, digits before the point, digits after it, and the
sign and digits of the exponent. -/
structure Numeral where
  negative : Bool
  whole : List Char
  fraction : Option (List Char)
  exponent : Option (Bool × List Char)
  deriving DecidableEq

/-- The greatest value of 64 bits. -/
def maxWord : Nat := 18446744073709551615

/-- The greatest exponent that is taken at its value. -/
def maxExponent : Nat := 2147483647

/-- The greatest power of ten that one step multiplies or divides by. -/
def maxPower : Nat := 308

/-- As many digits as 64 bits hold, appended to a number, and the digits left over. -/
def accumulate (value : Nat) : List Char → Nat × List Char
  | [] => (value, [])
  | digit :: rest =>
      let next := 10 * value + (digit.toNat - '0'.toNat)
      if next ≤ maxWord then accumulate next rest else (value, digit :: rest)

/-- The magnitude of a rank times a power of ten, rounded at each step of at most
`10 ^ 308`; `none` if it is too large. -/
def scale? (rank : Nat) (exponent : Int) : Option Nat :=
  if exponent.natAbs ≤ maxPower then
    let power := Binary64.rankOfNat (Nat.pow 10 exponent.natAbs)
    if 0 ≤ exponent then
      let product := Binary64.productRank rank power
      if product < finiteRanks then some product else none
    else some (Binary64.quotientRank rank power)
  else if rank = 0 then some 0
  else if 0 ≤ exponent then none
  else
    scale? (Binary64.quotientRank rank (Binary64.rankOfNat (Nat.pow 10 maxPower)))
      (exponent + maxPower)
termination_by exponent.natAbs
decreasing_by
  simp only [maxPower] at *
  omega

namespace Numeral

/-- The double-precision value of a numeral. -/
def real? (numeral : Numeral) : Option Binary64 :=
  let (leading, wholeLeft) := accumulate 0 numeral.whole
  let fraction := numeral.fraction.getD []
  let (leading, fractionLeft) := accumulate leading fraction
  let shift : Int := (wholeLeft.length : Int) - (fraction.length - fractionLeft.length : Nat)
  let (negativeExponent, exponentDigits) := numeral.exponent.getD (false, [])
  let magnitude := Decimal.ofDigits exponentDigits
  let rank :=
    if maxExponent < magnitude then
      if leading ≠ 0 ∧ !negativeExponent then none else some 0
    else
      scale? (Binary64.rankOfNat leading)
        (if negativeExponent then shift - magnitude else shift + magnitude)
  rank.map (Binary64.ofRank numeral.negative)

/-- The value of a numeral. -/
def value? (numeral : Numeral) : Option Data :=
  let (magnitude, left) := accumulate 0 numeral.whole
  if numeral.fraction.isNone ∧ numeral.exponent.isNone ∧ left = [] then
    if !numeral.negative then some (.integer magnitude)
    else if magnitude = 0 then some (.real (.ofRank true 0))
    else
      match Data.wordInteger? true magnitude with
      | some value => some (.integer value)
      | none => some (.real (.ofRank true (Binary64.rankOfNat magnitude)))
  else numeral.real?.map .real

end Numeral

end Json

end OverpassQuery

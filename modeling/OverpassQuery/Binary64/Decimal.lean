import OverpassQuery.Binary64.Rounding

/-!
# Decimal numerals

A decimal is a natural coefficient times a power of ten. This module holds the
numeral text of a decimal in positional notation, the reading of a numeral with
a point and an exponent, and the double-precision number nearest to a decimal.
-/

set_option autoImplicit false

namespace OverpassQuery

/-- The number `coefficient * 10 ^ exponent`. -/
structure Decimal where
  coefficient : Nat
  exponent : Int
  deriving DecidableEq

namespace Decimal

/-! ## Digits -/

/-- The natural number that a list of decimal digits spells. -/
def ofDigits (digits : List Char) : Nat :=
  digits.foldl (fun value digit => 10 * value + (digit.toNat - '0'.toNat)) 0

/-- The number of digits of a natural number, at least one. -/
def digitCount (value : Nat) : Nat := (Nat.toDigits 10 value).length

/-! ## Positional notation -/

/-- Positional notation without an exponent: trailing zeros for a positive power of
ten, a point for a negative one, with at least one digit in front of the point. -/
def positional (decimal : Decimal) : List Char :=
  let digits := Nat.toDigits 10 decimal.coefficient
  match decimal.exponent with
  | .ofNat zeros => digits ++ List.replicate zeros '0'
  | .negSucc places =>
      let padded := List.replicate (places + 2 - digits.length) '0' ++ digits
      let whole := padded.length - (places + 1)
      padded.take whole ++ '.' :: padded.drop whole

example : positional ⟨145, 0⟩ = "145".toList := by decide
example : positional ⟨5, 3⟩ = "5000".toList := by decide
example : positional ⟨12345, -2⟩ = "123.45".toList := by decide
example : positional ⟨5, -3⟩ = "0.005".toList := by decide

/-! ## Reading a numeral -/

/-- An optional sign in front of a numeral, `true` for a minus. -/
def splitSign : List Char → Bool × List Char
  | '-' :: rest => (true, rest)
  | '+' :: rest => (false, rest)
  | rest => (false, rest)

/-- A list of one or more decimal digits, and nothing else. -/
def naturalOfDigits? (chars : List Char) : Option Nat :=
  if chars ≠ [] ∧ chars.all Char.isDigit then some (ofDigits chars) else none

/-- An integer numeral with an optional sign. -/
def integerOfChars? (chars : List Char) : Option Int :=
  let (negative, digits) := splitSign chars
  (naturalOfDigits? digits).map fun magnitude =>
    if negative then -(magnitude : Int) else magnitude

/-- What may follow the digits of a numeral: nothing, or an exponent. -/
def exponentOfChars? : List Char → Option Int
  | [] => some 0
  | mark :: rest => if mark = 'e' ∨ mark = 'E' then integerOfChars? rest else none

/-- An unsigned numeral: digits with at most one point among them, at least one
digit in all, and an optional exponent. -/
def ofChars? (chars : List Char) : Option Decimal :=
  let whole := chars.takeWhile Char.isDigit
  let afterWhole := chars.dropWhile Char.isDigit
  let (fraction, afterFraction) :=
    match afterWhole with
    | '.' :: rest => (rest.takeWhile Char.isDigit, rest.dropWhile Char.isDigit)
    | rest => ([], rest)
  if whole = [] ∧ fraction = [] then none
  else (exponentOfChars? afterFraction).map fun exponent =>
    ⟨ofDigits (whole ++ fraction), exponent - fraction.length⟩

example : ofChars? "12.50e3".toList = some ⟨1250, 1⟩ := by decide
example : ofChars? ".".toList = none := by decide
example : ofChars? "1e".toList = none := by decide

/-! ## The nearest double-precision number -/

/-- The rank nearest to a decimal. Decimals of more than 310 places before the point
overflow, and those whose first place is past the 330th after it vanish, so no larger
power of ten is ever computed. -/
def rank (decimal : Decimal) : Nat :=
  let places : Int := digitCount decimal.coefficient + decimal.exponent
  if decimal.coefficient = 0 ∨ places < -330 then 0
  else if 310 < places then finiteRanks
  else
    match decimal.exponent with
    | .ofNat zeros => Binary64.rankOfRatio (decimal.coefficient * Nat.pow 10 zeros) 1
    | .negSucc places => Binary64.rankOfRatio decimal.coefficient (Nat.pow 10 (places + 1))

end Decimal

end OverpassQuery

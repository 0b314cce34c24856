/-!
# Double-precision numbers

A number in the sense of IEEE 754 binary64, held as data that a proof can take
apart. The finite magnitudes are numbered in increasing order: rank `0` is zero,
rank `1` the least positive magnitude `2 ^ -1074`, and so on up to the largest.
Consecutive magnitudes have consecutive ranks, so the neighbours of a number,
which decide how it is read and written, are the neighbours of its rank.

`Binary64.units` gives the magnitude of a rank as a natural number of least
positive magnitudes. Everything else is arithmetic on natural numbers, and no
floating-point operation of the machine is involved.
-/

set_option autoImplicit false

namespace OverpassQuery

/-- The number of magnitudes that have the same power of two: `2 ^ 52`. -/
def perPower : Nat := 4503599627370496

/-- The number of finite magnitudes. -/
def finiteRanks : Nat := 2047 * perPower

/-- A double-precision number: a signed finite magnitude, an infinity, or no number. -/
inductive Binary64 where
  | finite (negative : Bool) (rank : Fin finiteRanks)
  | infinite (negative : Bool)
  | notANumber
  deriving DecidableEq

namespace Binary64

/-! ## Magnitudes -/

/-- The power of two that the significand of a rank is multiplied by. -/
def shift (rank : Nat) : Nat := rank / perPower - 1

/-- The significand of a rank, below `2 ^ 53`. -/
def significand (rank : Nat) : Nat := rank - shift rank * perPower

/-- The magnitude of a rank, counted in least positive magnitudes. -/
def units (rank : Nat) : Nat := significand rank * Nat.pow 2 (shift rank)

/-- The magnitude `1` in units: the units of rank `r` stand for `units r / one`. -/
def one : Nat := Nat.pow 2 1074

/-! ## Numbers -/

/-- Positive zero. -/
def zero : Binary64 := .finite false ⟨0, by decide⟩

/-- The signed number of a rank; the ranks past the largest magnitude are infinite. -/
def ofRank (negative : Bool) (rank : Nat) : Binary64 :=
  if inRange : rank < finiteRanks then .finite negative ⟨rank, inRange⟩ else .infinite negative

/-- Neither an infinity nor the value that is no number. -/
def isFinite : Binary64 → Bool
  | .finite .. => true
  | _ => false

/-- Numerical equality: the two zeros are equal, and what is no number equals nothing. -/
def numericallyEqual : Binary64 → Binary64 → Bool
  | .finite negative rank, .finite negative' rank' =>
      rank = rank' && (negative == negative' || rank.val = 0)
  | .infinite negative, .infinite negative' => negative == negative'
  | _, _ => false

theorem ofRank_of_lt {rank : Nat} (negative : Bool) (inRange : rank < finiteRanks) :
    ofRank negative rank = .finite negative ⟨rank, inRange⟩ := by
  simp [ofRank, inRange]

end Binary64

end OverpassQuery

import OverpassQuery.Binary64.Decimal

/-!
# The shortest decimal of a double-precision number

Among the decimals that are read back as a given magnitude, the one on the
coarsest decimal grid, and of several on that grid the nearest to the magnitude.
A decimal is read back as a magnitude when it lies between the midpoints to the
two neighbouring magnitudes; the midpoints themselves count when the rank is
even, since a half goes to the even neighbour.

All quantities are scaled by `10 ^ 342` and by twice the unit, so the grids down
to `10 ^ -342`, the magnitudes and the midpoints are natural numbers.
-/

set_option autoImplicit false

namespace OverpassQuery

namespace Binary64

/-- The exponent of the finest decimal grid considered, with its sign changed. -/
def finestGrid : Nat := 342

/-- The scaled distance between neighbours on grid `10 ^ (grid - finestGrid)`. -/
def gridStep (grid : Nat) : Nat := Nat.pow 10 grid * (2 * one)

/-- The scaled magnitude of a rank. -/
def scaledMagnitude (rank : Nat) : Nat := 2 * units rank * Nat.pow 10 finestGrid

/-- The scaled midpoint between a rank and the next. -/
def scaledMidpoint (rank : Nat) : Nat :=
  (units rank + units (rank + 1)) * Nat.pow 10 finestGrid

/-- Whether a scaled value is read back as a positive rank. -/
def readsBack (rank value : Nat) : Bool :=
  if rank % 2 = 0 then scaledMidpoint (rank - 1) ≤ value && value ≤ scaledMidpoint rank
  else scaledMidpoint (rank - 1) < value && value < scaledMidpoint rank

/-- The multiple of a grid's step nearest to a positive rank, if it is read back. Of
the two neighbours of the magnitude on the grid the nearer is taken, and the upper one
when both are equally near. -/
def onGrid? (rank grid : Nat) : Option Nat :=
  let step := gridStep grid
  let value := scaledMagnitude rank
  let below := value / step
  match readsBack rank (below * step), readsBack rank ((below + 1) * step) with
  | false, false => none
  | true, false => some below
  | false, true => some (below + 1)
  | true, true =>
      some (if value - below * step < (below + 1) * step - value then below else below + 1)

/-- The decimal of a positive rank on the coarsest grid that has one, no coarser than
the given grid. -/
def shortestUpTo (rank : Nat) : Nat → Decimal
  | 0 => ⟨scaledMagnitude rank / gridStep 0, -finestGrid⟩
  | grid + 1 =>
      match onGrid? rank (grid + 1) with
      | some coefficient => ⟨coefficient, (grid + 1 : Int) - finestGrid⟩
      | none => shortestUpTo rank grid

/-- The shortest decimal of a magnitude. Grids coarser than the magnitude itself hold
no candidate, which is where the search starts. -/
def shortest (rank : Nat) : Decimal :=
  if rank = 0 then ⟨0, 0⟩
  else shortestUpTo rank (Decimal.digitCount (scaledMagnitude rank / (2 * one)))

example : shortest (rankOfNat 145) = ⟨145, 0⟩ := by decide +kernel
example : shortest 1 = ⟨5, -324⟩ := by decide +kernel
example : shortest (finiteRanks - 1) = ⟨17976931348623157, 292⟩ := by decide +kernel

end Binary64

end OverpassQuery

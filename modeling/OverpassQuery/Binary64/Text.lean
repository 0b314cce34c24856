import OverpassQuery.Binary64.Shortest

/-!
# Numbers in text

A number is written with the fewest digits that read back, always positionally
and without a point when it is whole; a zero keeps its sign. It is read from any
decimal numeral, or from a name of an infinity or of the value that is no
number, in any mixture of cases.
-/

set_option autoImplicit false

namespace OverpassQuery

namespace Binary64

/-! ## Writing -/

/-- The characters of a finite magnitude. -/
def magnitudeChars (rank : Nat) : List Char := (shortest rank).positional

/-- The minus sign of a negative number. -/
def signChars (negative : Bool) : List Char := if negative then ['-'] else []

/-- The characters of a number. -/
def toChars : Binary64 → List Char
  | .finite negative rank => signChars negative ++ magnitudeChars rank
  | .infinite negative => signChars negative ++ ['i', 'n', 'f']
  | .notANumber => ['N', 'a', 'N']

/-- The text of a number. -/
def text (number : Binary64) : String := String.ofList number.toChars

/-! ## Reading -/

/-- The number of a signed decimal. -/
def ofDecimal (negative : Bool) (decimal : Decimal) : Binary64 := ofRank negative decimal.rank

/-- The number that a text spells, if it spells one. -/
def ofChars? (chars : List Char) : Option Binary64 :=
  let (negative, unsigned) := Decimal.splitSign chars
  let lowered := unsigned.map Char.toLower
  if lowered = "inf".toList ∨ lowered = "infinity".toList then some (.infinite negative)
  else if lowered = "nan".toList then some .notANumber
  else (Decimal.ofChars? unsigned).map (ofDecimal negative)

/-- The number that a text spells, if it spells one. -/
def ofText? (text : String) : Option Binary64 := ofChars? text.toList

example : (ofText? "-0").map text = some "-0" := by decide +kernel
example : (ofText? "1e21").map text = some "1000000000000000000000" := by decide +kernel
example : (ofText? "0.1234567890123456789").map text = some "0.12345678901234568" := by
  decide +kernel
example : (ofText? "Infinity").map text = some "inf" := by decide +kernel

end Binary64

end OverpassQuery

import OverpassQuery.Binary64.Text
import OverpassQuery.BuildError

/-!
# Points, rings and boxes

Positions have their longitude first, as in GeoJSON; the query engine takes the
latitude first. `Ring.engineOrder` is the one place where the two are swapped.

A coordinate is written as the number is, with zeros appended until two digits
follow the point.
-/

set_option autoImplicit false

namespace OverpassQuery

/-- A position on the map. -/
structure Point where
  longitude : Binary64
  latitude : Binary64
  deriving DecidableEq

/-- A line of positions around an area, or along a way. -/
abbrev Ring := List Point

/-- A rectangle of latitudes and longitudes. -/
structure BoundingBox where
  south : Binary64
  west : Binary64
  north : Binary64
  east : Binary64
  deriving DecidableEq

/-! ## Coordinates -/

/-- A numeral with zeros appended until two digits follow its point. -/
def padFraction (chars : List Char) : List Char :=
  match chars.dropWhile (· ≠ '.') with
  | [] => chars ++ ['.', '0', '0']
  | _ :: fraction => chars ++ List.replicate (2 - fraction.length) '0'

/-- The characters of a coordinate. What is not finite is not padded. -/
def Binary64.coordinateChars (number : Binary64) : List Char :=
  if number.isFinite then padFraction number.toChars else number.toChars

/-- The text of a coordinate. -/
def Binary64.coordinateText (number : Binary64) : String := String.ofList number.coordinateChars

example : padFraction "145".toList = "145.00".toList := by decide
example : padFraction "145.1".toList = "145.10".toList := by decide
example : padFraction "0.125".toList = "0.125".toList := by decide

/-! ## Rings -/

namespace Ring

/-- The positions of a ring with the latitude first, in the order of the ring. -/
def engineOrder (ring : Ring) : List (Binary64 × Binary64) :=
  ring.map fun point => (point.latitude, point.longitude)

/-- The coordinates of a ring in engine order, joined by a delimiter. -/
def coordinateText (ring : Ring) (delimiter : String) : String :=
  delimiter.intercalate <|
    (engineOrder ring).flatMap fun (latitude, longitude) =>
      [latitude.coordinateText, longitude.coordinateText]

/-- Whether all coordinates of a ring are finite. -/
def isFinite (ring : Ring) : Bool :=
  ring.all fun point => point.longitude.isFinite && point.latitude.isFinite

/-- A filter takes a ring with at least one position, all of them finite. -/
def check (kind : FilterKind) (ring : Ring) : Except BuildError Unit :=
  if ring = [] then .error (.emptyRing kind)
  else if isFinite ring then .ok ()
  else .error (.nonFinite kind)

end Ring

/-! ## Boxes -/

namespace BoundingBox

/-- Whether all four edges are finite. -/
def isFinite (box : BoundingBox) : Bool :=
  box.south.isFinite && box.west.isFinite && box.north.isFinite && box.east.isFinite

/-- All four edges of a box must be finite. -/
def check (box : BoundingBox) : Except BuildError Unit :=
  if box.isFinite then .ok () else .error (.nonFinite .boundingBox)

/-- The edges of a box, in the order south, west, north, east. -/
def clause (box : BoundingBox) : String :=
  ",".intercalate ([box.south, box.west, box.north, box.east].map Binary64.coordinateText)

end BoundingBox

end OverpassQuery

import OverpassQuery.Data.Value
import OverpassQuery.Geography

/-!
# Geometries

The geometries of GeoJSON, and the outer ring of a polygon: the first ring of a
polygon, or of the first polygon of several. Positions may carry more than two
numbers; a ring keeps the first two. Only a geometry in memory can have a
position of fewer, since reading one refuses it.
-/

set_option autoImplicit false

namespace OverpassQuery

/-- The numbers of a position: longitude, latitude, and what may follow them. -/
abbrev Position := List Binary64

/-- A geometry of GeoJSON. -/
inductive Geometry where
  | point (position : Position)
  | multiPoint (positions : List Position)
  | lineString (positions : List Position)
  | multiLineString (lines : List (List Position))
  | polygon (rings : List (List Position))
  | multiPolygon (polygons : List (List (List Position)))
  | collection (geometries : List Geometry)

/-- The cause for which a polygon has no usable outer ring. -/
inductive RingError where
  | noRings
  | shortPosition (values : Nat)
  | emptyRing
  deriving DecidableEq

namespace RingError

/-- The message of a cause. -/
def message : RingError → String
  | .noRings => "polygon has no rings"
  | .shortPosition values => "position has " ++ toString values ++ " value(s), expected 2"
  | .emptyRing => "polygon ring is empty"

end RingError

namespace Geometry

/-! ## The outer ring -/

/-- The point of a position. -/
def pointOf : Position → Except RingError Point
  | longitude :: latitude :: _ => .ok ⟨longitude, latitude⟩
  | position => .error (.shortPosition position.length)

/-- The ring of a list of positions; the first position that is too short is the error. -/
def ringOf (positions : List Position) : Except RingError Ring := do
  let ring ← positions.mapM pointOf
  if ring = [] then .error .emptyRing else .ok ring

/-- The outer ring of the rings of a polygon. -/
def outerRingOf : List (List Position) → Except RingError Ring
  | [] => .error .noRings
  | ring :: _ => ringOf ring

/-- The outer ring of a geometry, for polygons alone. -/
def outerRing? : Geometry → Option (Except RingError Ring)
  | .polygon rings => some (outerRingOf rings)
  | .multiPolygon [] => some (.error .noRings)
  | .multiPolygon (rings :: _) => some (outerRingOf rings)
  | _ => none

/-! ## Reading a geometry -/

/-- The items of a list, each read by the given reader. -/
def listOf? {α : Type} (read? : Data → Option α) : Data → Option (List α)
  | .list items => items.mapM read?
  | _ => none

/-- A position: two or more numbers. -/
def position? (value : Data) : Option Position := do
  let numbers ← listOf? Data.number? value
  if numbers.length < 2 then none else some numbers

/-- A `bbox` member, which may be left out or null, is a list of numbers. -/
def boundsAreValid (entries : List (String × Data)) : Bool :=
  match Data.lookup? entries "bbox" with
  | none | some .null => true
  | some value => (listOf? Data.number? value).isSome

/-- The geometry with coordinates of the given type. -/
def ofCoordinates? (type : String) (coordinates : Data) : Option Geometry :=
  match type with
  | "Point" => (position? coordinates).map .point
  | "MultiPoint" => (listOf? position? coordinates).map .multiPoint
  | "LineString" => (listOf? position? coordinates).map .lineString
  | "MultiLineString" => (listOf? (listOf? position?) coordinates).map .multiLineString
  | "Polygon" => (listOf? (listOf? position?) coordinates).map .polygon
  | "MultiPolygon" => (listOf? (listOf? (listOf? position?)) coordinates).map .multiPolygon
  | _ => none

/-- The geometry of a value. All of it is checked, also the parts without a use. -/
def ofData? : Data → Option Geometry
  | .table entries =>
      if !boundsAreValid entries then none
      else
        match Data.lookup? entries "type" with
        | some (.text "GeometryCollection") =>
            match _found : Data.lookup? entries "geometries" with
            | some (.list items) => do
                let geometries ← items.attach.mapM fun ⟨item, _⟩ => ofData? item
                return .collection geometries
            | _ => none
        | some (.text type) => (Data.lookup? entries "coordinates").bind (ofCoordinates? type)
        | _ => none
  | _ => none
decreasing_by
  have inEntries := Data.sizeOf_lookup?_lt _found
  have inItems := List.sizeOf_lt_of_mem ‹_ ∈ items›
  simp only [Data.list.sizeOf_spec, Data.table.sizeOf_spec] at *
  omega

end Geometry

end OverpassQuery

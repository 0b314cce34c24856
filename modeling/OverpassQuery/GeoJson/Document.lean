import OverpassQuery.Data.Json.Reader
import OverpassQuery.GeoJson.Geometry

/-!
# GeoJSON documents

A document is a geometry, a feature with at most one geometry, or a collection
of features. `GeoJson.rings` takes the outer rings of all its polygons: either
every polygon has a usable outer ring, or the document is refused for the first
that has none. A document without polygons is refused too.
-/

set_option autoImplicit false

namespace OverpassQuery

namespace GeoJson

/-- The cause for which a document yields no rings. -/
inductive DocumentError where
  | malformed
  | ring (cause : RingError)
  | noPolygon
  deriving DecidableEq

/-- The message of a cause. -/
def DocumentError.message : DocumentError → String
  | .malformed => "invalid GeoJSON"
  | .ring cause => cause.message
  | .noPolygon => "GeoJSON contains no Polygon or MultiPolygon geometry"

/-- Whether a feature's `id`, which may be left out, is a number or a text. -/
def idIsValid (entries : List (String × Data)) : Bool :=
  match Data.lookup? entries "id" with
  | none | some (.text _) => true
  | some value => value.number?.isSome

/-- Whether a feature's `properties`, which may be left out or null, are a table. -/
def propertiesAreValid (entries : List (String × Data)) : Bool :=
  match Data.lookup? entries "properties" with
  | none | some .null | some (.table _) => true
  | _ => false

/-- The geometry of a feature, which must be given, if only as null. -/
def geometryOfFeature? : Data → Option (Option Geometry)
  | .table entries =>
      match Data.lookup? entries "type", Data.lookup? entries "geometry" with
      | some (.text "Feature"), some geometry =>
          if Geometry.boundsAreValid entries && idIsValid entries && propertiesAreValid entries then
            match geometry with
            | .null => some none
            | geometry => (Geometry.ofData? geometry).map some
          else none
      | _, _ => none
  | _ => none

/-- The geometries of a document, in order. -/
def geometries? : Data → Option (List Geometry)
  | .table entries =>
      match Data.lookup? entries "type" with
      | some (.text "Feature") =>
          (geometryOfFeature? (.table entries)).map Option.toList
      | some (.text "FeatureCollection") =>
          match Geometry.boundsAreValid entries, Data.lookup? entries "features" with
          | true, some (.list features) =>
              (features.mapM geometryOfFeature?).map fun geometries => geometries.filterMap id
          | _, _ => none
      | _ => (Geometry.ofData? (.table entries)).map fun geometry => [geometry]
  | _ => none

/-- The outer rings of the polygons among a list of geometries. -/
def polygonRings (geometries : List Geometry) : Except RingError (List Ring) :=
  (geometries.filterMap Geometry.outerRing?).mapM id

/-- The outer rings of a list of geometries, of which one at least must be a polygon. -/
def ringsOf (geometries : List Geometry) : Except DocumentError (List Ring) := do
  let rings ← (polygonRings geometries).mapError .ring
  if rings = [] then .error .noPolygon else .ok rings

/-- The outer rings of a document. -/
def rings (document : String) : Except DocumentError (List Ring) :=
  match (Json.parse? (Utf8.encode document)).bind geometries? with
  | none => .error .malformed
  | some geometries => ringsOf geometries

end GeoJson

end OverpassQuery

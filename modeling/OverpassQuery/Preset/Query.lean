import OverpassQuery.Preset.Network
import OverpassQuery.Statement
import OverpassQuery.Submission.Error

/-!
# Queries for street networks

A preset query selects ways and relations in an area, with the members of both,
and prints them. All areas lead to the same shape: settings, one union, and one
or two instructions to print. The union has four members for each filter of the
area (`PresetQuery.selection`).

A place is looked up by a geocoder and then treated as a polygon of one ring.
-/

set_option autoImplicit false

namespace OverpassQuery

/-- Where a query looks. -/
inductive QueryArea where
  | boundingBox (box : BoundingBox)
  /-- A radius in metres around a centre. -/
  | radius (radius : Binary64) (center : Point)
  /-- One or more rings; each has its own selections. -/
  | polygon (rings : List Ring)
  | place (name : String)

/-- What a query selects and how it is answered, apart from the area. -/
structure PresetQuery where
  wayPredicates : List TagPredicate
  relationPredicates : List TagPredicate
  metadata : Bool
  format : OutputFormat
  formatOptions : Option String

/-- The failure of building a query for an area. -/
inductive PresetError where
  | build (error : BuildError)
  | geocode (error : GeocodeError)

/-- A way to find the outer ring of the place with a given name. -/
abbrev Geocoder (m : Type → Type) := String → m (Except GeocodeError Ring)

/-- The message of a failure. -/
def PresetError.message : PresetError → String
  | .build error => error.message
  | .geocode error => error.message

namespace PresetQuery

/-- The query of a network in a format, without metadata or options. -/
def ofNetwork (network : StreetNetwork) (format : OutputFormat) : PresetQuery :=
  ⟨network.wayPredicates, network.relationPredicates, false, format, none⟩

/-- The output setting of a query. -/
def outputSetting (query : PresetQuery) : Except BuildError Setting :=
  Setting.output query.format query.formatOptions

/-- The ways and the relations that pass a filter, each followed by their members. -/
def selection (query : PresetQuery) (filter : ElementFilter) : List Statement :=
  [.element (.make .way query.wayPredicates (some filter)),
    .recurse (.make .down),
    .element (.make .relation query.relationPredicates (some filter)),
    .recurse (.make .down)]

/-- The settings and the union of a query, followed by what is printed. -/
def finish (query : PresetQuery) (settings : List Setting) (union : UnionStatement) : Sequence :=
  let sequence := Sequence.ofList
    [.settings (.make settings), .union union, .out (.make (.detail .body false))]
  if query.metadata then sequence.append [.out (.make (.detail .metadata false))] else sequence

/-- The query for a box, which is also a setting. The box is checked before the format. -/
def byBoundingBox (query : PresetQuery) (box : BoundingBox) : Except BuildError Sequence := do
  let filter ← ElementFilter.boundingBox box
  let settings := [← query.outputSetting, ← Setting.boundingBox box]
  let union ← UnionStatement.make defaultSet (query.selection filter)
  return query.finish settings union

/-- The query for a circle. The circle is checked before the format. -/
def byRadius (query : PresetQuery) (radius : Binary64) (center : Point) :
    Except BuildError Sequence := do
  let filter ← ElementFilter.around radius [center] none
  let settings := [← query.outputSetting]
  let union ← UnionStatement.make defaultSet (query.selection filter)
  return query.finish settings union

/-- A union with the selections of a ring appended. -/
def appendRing (query : PresetQuery) (union : UnionStatement) (ring : Ring) :
    Except BuildError UnionStatement := do
  let filter ← ElementFilter.polygon ring
  union.append (query.selection filter)

/-- The query for a list of rings. The format is checked before the rings. -/
def byPolygon (query : PresetQuery) (rings : List Ring) : Except BuildError Sequence := do
  let settings := [← query.outputSetting]
  let empty ← UnionStatement.make defaultSet []
  let union ← rings.foldlM query.appendRing empty
  return query.finish settings union

/-- The query for an area. A place is looked up first, once. -/
def build {m : Type → Type} [Monad m] (query : PresetQuery) (area : QueryArea)
    (geocoder : Geocoder m) : m (Except PresetError Sequence) :=
  match area with
  | .boundingBox box => pure ((query.byBoundingBox box).mapError .build)
  | .radius radius center => pure ((query.byRadius radius center).mapError .build)
  | .polygon rings => pure ((query.byPolygon rings).mapError .build)
  | .place name => do
      match ← geocoder name with
      | .error error => return .error (.geocode error)
      | .ok ring => return (query.byPolygon [ring]).mapError .build

end PresetQuery

end OverpassQuery

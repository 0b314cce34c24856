import OverpassQuery.Data.Json.Reader
import OverpassQuery.GeoJson.Geometry
import OverpassQuery.Submission.Error

/-!
# Search hits of a geocoder

The answer of a geocoder is a list of hits, each with a name and perhaps a
geometry. The first hit whose geometry is a polygon with a usable outer ring
decides; hits before it are passed over, and hits after it do not matter. Parts
of a hit that are not used are not looked at, but an answer that is no list of
hits is refused as a whole.
-/

set_option autoImplicit false

namespace OverpassQuery

/-- A place that a geocoder found. -/
structure SearchHit where
  displayName : String
  geometry : Option Data
  deriving DecidableEq

/-- What a hit is worth. -/
inductive HitVerdict where
  | noGeometry
  | invalidGeometry
  | unsupportedType
  | unusable (cause : RingError)
  | usable (ring : Ring)
  deriving DecidableEq

namespace SearchHit

/-! ## Reading hits -/

open Json (RawJson Piece Scalar pieceText?)

/-- How many containers a geometry may have inside one another: two are open around it. -/
def geometryDepth : Nat := Json.maxDepth - 2

/-- The name of a hit. -/
def name? : RawJson → Option String
  | .scalar (.text pieces) => pieceText? pieces
  | _ => none

/-- The geometry of a hit; null counts as none. -/
def shape? (value : RawJson) : Option (Option Data) :=
  match value.toData? geometryDepth with
  | some .null => some none
  | some geometry => some (some geometry)
  | none => none

/-- The keys of a table in clear, with their values. -/
def clearKeys? (entries : List (List Piece × RawJson)) : Option (List (String × RawJson)) :=
  entries.mapM fun (pieces, value) => (pieceText? pieces).map fun key => (key, value)

/-- The value of a key that may be given once: none, one, or a refusal. -/
def single? (entries : List (String × RawJson)) (key : String) : Option (Option RawJson) :=
  match entries.filter (·.1 = key) with
  | [] => some none
  | [(_, value)] => some (some value)
  | _ => none

/-- The hit of a name and a geometry, either of which may be left out. -/
def ofParts? (name geometry : Option RawJson) : Option SearchHit := do
  let name ← match name with
    | some name => name? name
    | none => some ""
  let geometry ← match geometry with
    | some geometry => shape? geometry
    | none => some none
  return ⟨name, geometry⟩

/-- A hit: a table with a name and a geometry among its entries, or a list of the two. -/
def ofRaw? : RawJson → Option SearchHit
  | .table entries => do
      let entries ← clearKeys? entries
      ofParts? (← single? entries "display_name") (← single? entries "geojson")
  | .list [] => ofParts? none none
  | .list [name] => ofParts? (some name) none
  | .list [name, geometry] => ofParts? (some name) (some geometry)
  | _ => none

/-- The hits of a geocoder's answer. -/
def ofBody? (body : Bytes) : Option (List SearchHit) :=
  match Json.parseRaw? body with
  | some (.list items) => items.mapM ofRaw?
  | _ => none

/-! ## Choosing a hit -/

/-- What a hit is worth. -/
def verdict (hit : SearchHit) : HitVerdict :=
  match hit.geometry with
  | none => .noGeometry
  | some value =>
      match Geometry.ofData? value with
      | none => .invalidGeometry
      | some geometry =>
          match geometry.outerRing? with
          | none => .unsupportedType
          | some (.error cause) => .unusable cause
          | some (.ok ring) => .usable ring

/-- The ring of a usable hit. -/
def ring? (hit : SearchHit) : Option Ring :=
  match hit.verdict with
  | .usable ring => some ring
  | _ => none

/-- The warning about a hit that has a geometry which cannot be used. -/
def warning? (hit : SearchHit) : Option String :=
  match hit.verdict with
  | .invalidGeometry => some (hit.displayName ++ ": failed to read geometry")
  | .unusable cause => some (hit.displayName ++ ": failed to convert polygon: " ++ cause.message)
  | _ => none

/-- The ring of the first usable hit. -/
def firstRing? (hits : List SearchHit) : Option Ring := hits.findSome? ring?

/-- The warnings about the hits passed over. -/
def warnings (hits : List SearchHit) : List String :=
  (hits.takeWhile fun hit => hit.ring?.isNone).filterMap warning?

/-- The ring of the first usable hit in an answer to the search for a place. -/
def firstPolygon (body : Bytes) (place : String) : Except GeocodeError Ring :=
  match ofBody? body with
  | none => .error (.decode (.malformed "no list of search results"))
  | some hits =>
      match firstRing? hits with
      | some ring => .ok ring
      | none => .error (.notFound place)

/-- The warnings that an answer gives rise to. -/
def bodyWarnings (body : Bytes) : List String := ((ofBody? body).map warnings).getD []

end SearchHit

end OverpassQuery

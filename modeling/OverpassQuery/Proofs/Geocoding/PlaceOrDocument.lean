import OverpassQuery.Proofs.GeoJson.Documents
import OverpassQuery.Proofs.Geocoding.FirstUsable

/-!
# A place or a document

The ring of a place is sought among the hits of a geocoder, and the rings of a document among its
geometries. Both look for outer rings in the order given. A polygon without outer ring is passed
over among hits, but a document with one is refused as a whole.

So where a document gives rings, hits with the same geometries give the first of them. Hits give
none exactly when each of their polygons, in a document of its own, makes that document be refused.
Of a single geometry both make the same query, or neither gives a ring
(`SearchHit.place_agrees_with_document`).
-/

set_option autoImplicit false

namespace OverpassQuery

/-! ## Outer rings in order -/

namespace Geometry

variable {geometry : Geometry} {ring : Ring}

/-- The outer ring of a geometry that has one. -/
def ring? (geometry : Geometry) : Option Ring :=
  geometry.outerRing?.bind Except.toOption

theorem ring?_eq_some_iff : geometry.ring? = some ring ↔ geometry.HasOuterRing ring := by
  rw [ring?, ← outerRing?_eq_ok_iff]
  match geometry.outerRing? with
  | none => simp
  | some (.ok taken) => simp [Except.toOption]
  | some (.error cause) => simp [Except.toOption]

theorem ring?_eq_none_iff : geometry.ring? = none ↔ ∀ ring, ¬ geometry.HasOuterRing ring := by
  rw [Option.eq_none_iff_forall_not_mem]
  exact forall_congr' fun ring => not_congr ring?_eq_some_iff

theorem HasOuterRing.isPolygonal (outer : geometry.HasOuterRing ring) : geometry.IsPolygonal := by
  obtain ⟨positions, first, -⟩ := outer
  exact first.isPolygonal

theorem ring?_eq_none_of_not_isPolygonal (other : ¬ geometry.IsPolygonal) : geometry.ring? = none :=
  ring?_eq_none_iff.mpr fun _ outer => other outer.isPolygonal

end Geometry

namespace GeoJson

variable {geometries : List Geometry} {geometry : Geometry} {found : List Ring}

/-- Where all polygons have outer rings, the first of these is the first outer ring. -/
theorem findSome?_ring?_eq_head?
    (outer : List.Forall₂ Geometry.HasOuterRing (polygonsAmong geometries) found) :
    geometries.findSome? Geometry.ring? = found.head? := by
  induction geometries generalizing found with
  | nil =>
      rw [List.forall₂_nil_left_iff.mp outer]
      rfl
  | cons geometry geometries ih =>
      rw [List.findSome?_cons]
      by_cases polygonal : geometry.IsPolygonal
      · rw [polygonsAmong_cons_of_isPolygonal polygonal, List.forall₂_cons_left_iff] at outer
        obtain ⟨ring, rest, taken, -, rfl⟩ := outer
        rw [Geometry.ring?_eq_some_iff.mpr taken]
        rfl
      · rw [polygonsAmong_cons_of_not_isPolygonal polygonal] at outer
        rw [Geometry.ring?_eq_none_of_not_isPolygonal polygonal]
        exact ih outer

/-- A geometry alone gives its outer ring. -/
theorem ringsOf_singleton_eq_ok_iff :
    ringsOf [geometry] = .ok found ↔ ∃ ring, geometry.HasOuterRing ring ∧ found = [ring] := by
  rw [ringsOf_eq_ok_iff]
  constructor
  · rintro ⟨⟨_, member, polygonal⟩, outer⟩
    obtain rfl := List.mem_singleton.mp member
    rw [polygonsAmong_cons_of_isPolygonal polygonal, List.forall₂_cons_left_iff] at outer
    obtain ⟨ring, rest, taken, none, rfl⟩ := outer
    exact ⟨ring, taken, by rw [List.forall₂_nil_left_iff.mp none]⟩
  · rintro ⟨ring, taken, rfl⟩
    refine ⟨⟨geometry, List.mem_singleton_self geometry, taken.isPolygonal⟩, ?_⟩
    rw [polygonsAmong_cons_of_isPolygonal taken.isPolygonal]
    exact .cons taken .nil

/-- A geometry alone is refused when it has no outer ring. -/
theorem exists_ringsOf_singleton_eq_error_iff :
    (∃ cause, ringsOf [geometry] = .error cause) ↔ geometry.ring? = none := by
  rw [Geometry.ring?_eq_none_iff]
  cases read : ringsOf [geometry] with
  | ok found =>
      obtain ⟨ring, taken, -⟩ := ringsOf_singleton_eq_ok_iff.mp read
      exact iff_of_false nofun fun none => none ring taken
  | error cause =>
      refine iff_of_true ⟨cause, rfl⟩ fun ring taken => ?_
      rw [ringsOf_singleton_eq_ok_iff.mpr ⟨ring, taken, rfl⟩] at read
      cases read

end GeoJson

/-! ## Geometries of hits -/

namespace SearchHit

open GeoJson (Contains rings ringsOf)

/-- The geometry of a hit that has a valid one. -/
def validShape? (hit : SearchHit) : Option Geometry :=
  hit.geometry.bind Geometry.ofData?

/-- The hits of an answer have the geometries. Hits without valid geometry do not count. -/
def Shows (body : Bytes) (geometries : List Geometry) : Prop :=
  ∃ hits, Lists body hits ∧ hits.filterMap validShape? = geometries

variable {hit : SearchHit} {hits : List SearchHit} {body : Bytes} {geometries : List Geometry}
  {place : String} {ring : Ring}

/-- The ring of a hit is the outer ring of its geometry. -/
theorem ring?_eq_bind (hit : SearchHit) : hit.ring? = hit.validShape?.bind Geometry.ring? := by
  refine Option.ext fun ring => ?_
  rw [ring?_eq_some_iff, validShape?, Option.bind_assoc]
  simp only [Option.bind_eq_some_iff, Geometry.ring?_eq_some_iff, Usable, exists_and_left]

theorem firstRing?_eq_findSome? (hits : List SearchHit) :
    firstRing? hits = (hits.filterMap validShape?).findSome? Geometry.ring? := by
  rw [firstRing?, ← List.head?_filterMap, ← List.head?_filterMap, List.filterMap_filterMap]
  exact congrArg (fun taken => (hits.filterMap taken).head?) (funext ring?_eq_bind)

theorem Shows.firstPolygon_eq_ok_iff (shown : Shows body geometries) :
    firstPolygon body place = .ok ring ↔ geometries.findSome? Geometry.ring? = some ring := by
  obtain ⟨hits, lists, rfl⟩ := shown
  simp only [SearchHit.firstPolygon_eq_ok_iff, ← ofBody?_eq_some_iff, ofBody?_eq_some_iff.mpr lists,
    Option.some_inj, exists_eq_left', firstRing?_eq_findSome?]

theorem Shows.firstPolygon_eq_notFound_iff (shown : Shows body geometries) :
    firstPolygon body place = .error (.notFound place) ↔
      ∀ geometry ∈ geometries, geometry.ring? = none := by
  obtain ⟨hits, lists, rfl⟩ := shown
  simp only [SearchHit.firstPolygon_eq_notFound_iff, ← ofBody?_eq_some_iff,
    ofBody?_eq_some_iff.mpr lists, Option.some_inj, exists_eq_left', firstRing?_eq_findSome?,
    true_and, List.findSome?_eq_none_iff]

/-- The first ring of a document is found among hits with its geometries. -/
theorem Shows.firstPolygon_of_rings (shown : Shows body geometries) {document : String}
    {more : List Ring} (contains : Contains document geometries)
    (read : rings document = .ok (ring :: more)) : firstPolygon body place = .ok ring := by
  rw [GeoJson.rings_of_contains contains, GeoJson.ringsOf_eq_ok_iff] at read
  rw [shown.firstPolygon_eq_ok_iff, GeoJson.findSome?_ring?_eq_head? read.2]
  rfl

/-- Hits give no ring when each of their polygons is refused alone. -/
theorem Shows.firstPolygon_eq_notFound_iff_alone (shown : Shows body geometries) :
    firstPolygon body place = .error (.notFound place) ↔
      ∀ geometry ∈ geometries, geometry.IsPolygonal →
        ∃ cause, ringsOf [geometry] = .error cause := by
  simp only [shown.firstPolygon_eq_notFound_iff, GeoJson.exists_ringsOf_singleton_eq_error_iff]
  refine forall₂_congr fun geometry member => ⟨fun ringless _ => ringless, fun refused => ?_⟩
  by_cases polygonal : geometry.IsPolygonal
  · exact refused polygonal
  · exact Geometry.ring?_eq_none_of_not_isPolygonal polygonal

section Queries

variable {World : Type} {query : PresetQuery} {geocoder : Geocoder (StateM World)} {world : World}

/-- A place with one geometry is the same area as a document with this geometry, or neither has a
ring. -/
theorem Shows.build_place_eq_or {geometry : Geometry} (shown : Shows body [geometry])
    {document : String} (contains : Contains document [geometry])
    (answers : ((geocoder place).run world).1 = firstPolygon body place) :
    (∃ found, rings document = .ok found ∧
        ((query.build (.place place) geocoder).run world).1
          = ((query.build (.polygon found) geocoder).run world).1) ∨
      (∃ cause, rings document = .error cause) ∧
        ((query.build (.place place) geocoder).run world).1
          = .error (.geocode (.notFound place)) := by
  rw [PresetQuery.build_place, answers]
  cases read : rings document with
  | ok found =>
      obtain ⟨ring, taken, rfl⟩ := GeoJson.ringsOf_singleton_eq_ok_iff.mp
        ((GeoJson.rings_of_contains contains).symm.trans read)
      rw [shown.firstPolygon_of_rings contains read]
      exact .inl ⟨_, rfl, rfl⟩
  | error cause =>
      have missed : firstPolygon body place = .error (.notFound place) := by
        rw [GeoJson.rings_of_contains contains] at read
        rw [shown.firstPolygon_eq_notFound_iff_alone, List.forall_mem_singleton]
        exact fun _ => ⟨cause, read⟩
      rw [missed]
      exact .inr ⟨⟨cause, rfl⟩, rfl⟩

end Queries

/-- **A place and a document with the same geometries agree.** Let the hits for a place have some
geometries. If a document with these gives rings, the first of them is that of the place. The place
is not found exactly if each of its polygons alone is refused, in whatever documents these stand. A
query for a place with one geometry has the outcome of the query for the rings of a document with
this geometry; or there are no such rings, and the place is not found. -/
theorem place_agrees_with_document {body : Bytes} {geometries : List Geometry}
    (shown : Shows body geometries) (place : String) :
    (∀ document ring more, Contains document geometries → rings document = .ok (ring :: more) →
        firstPolygon body place = .ok ring) ∧
      (firstPolygon body place = .error (.notFound place) ↔
        ∀ geometry ∈ geometries, geometry.IsPolygonal →
          ∃ cause, ringsOf [geometry] = .error cause) ∧
      (∀ alone : Geometry → String,
        (∀ geometry ∈ geometries, Contains (alone geometry) [geometry]) →
          (firstPolygon body place = .error (.notFound place) ↔
            ∀ geometry ∈ geometries, geometry.IsPolygonal →
              ∃ cause, rings (alone geometry) = .error cause)) ∧
      ∀ geometry document, geometries = [geometry] → Contains document [geometry] →
        ∀ {World : Type} (query : PresetQuery) (geocoder : Geocoder (StateM World)) (world : World),
          ((geocoder place).run world).1 = firstPolygon body place →
            let outcome := fun area => ((query.build area geocoder).run world).1
            (∃ found, rings document = .ok found ∧
                outcome (.place place) = outcome (.polygon found)) ∨
              (∃ cause, rings document = .error cause) ∧
                outcome (.place place) = .error (.geocode (.notFound place)) := by
  refine ⟨?_, shown.firstPolygon_eq_notFound_iff_alone, ?_, ?_⟩
  · intro document ring more contains read
    exact shown.firstPolygon_of_rings contains read
  · intro alone contains
    rw [shown.firstPolygon_eq_notFound_iff_alone]
    refine forall₂_congr fun geometry member => ?_
    rw [GeoJson.rings_of_contains (contains geometry member)]
  · rintro geometry document rfl contains World query geocoder world answers
    exact shown.build_place_eq_or contains answers

/-- A polygon with one position. -/
def corner : Geometry := .polygon [[[.ofInt 1, .ofInt 2]]]

/-- The document with this polygon alone. -/
def cornerDocument : String := "\x7b\"type\":\"Polygon\",\"coordinates\":[[[1,2]]]\x7d"

theorem shows_cornerBody : Shows cornerBody [corner] :=
  ⟨[cornerHit], lists_cornerBody, by
    simp [validShape?, cornerHit, corner, Geometry.ofData?, Geometry.boundsAreValid, Data.lookup?,
      Geometry.ofCoordinates?, Geometry.listOf?, Geometry.position?, Data.number?]⟩

theorem contains_cornerDocument : Contains cornerDocument [corner] := by
  refine ⟨.table [("type", .text "Polygon"),
    ("coordinates", .list [.list [.list [.integer 1, .integer 2]]])],
    by decide +kernel, .geometry ?_⟩
  simp [corner, Geometry.ofData?, Geometry.boundsAreValid, Data.lookup?, Geometry.ofCoordinates?,
    Geometry.listOf?, Geometry.position?, Data.number?]

/-- A geocoder that answers with this polygon. -/
def cornerGeocoder : Geocoder (StateM Unit) := fun name => pure (firstPolygon cornerBody name)

theorem run_pure_fst {α : Type} (value : α) : ((pure value : StateM Unit α).run ()).1 = value := rfl

/-- The place of the polygon is the area of the document. -/
theorem place_of_corner_is_document :
    Shows cornerBody [corner] ∧ Contains cornerDocument [corner] ∧
      rings cornerDocument = .ok [[⟨.ofInt 1, .ofInt 2⟩]] ∧
      firstPolygon cornerBody "Henley" = .ok [⟨.ofInt 1, .ofInt 2⟩] ∧
      ∀ query : PresetQuery,
        ((query.build (.place "Henley") cornerGeocoder).run ()).1
          = ((query.build (.polygon [[⟨.ofInt 1, .ofInt 2⟩]]) cornerGeocoder).run ()).1 := by
  have read : rings cornerDocument = .ok [[⟨.ofInt 1, .ofInt 2⟩]] := by
    rw [GeoJson.rings_of_contains contains_cornerDocument]
    rfl
  obtain ⟨first, -, -, single⟩ := place_agrees_with_document shows_cornerBody "Henley"
  refine ⟨shows_cornerBody, contains_cornerDocument, read, ?_, fun query => ?_⟩
  · exact first _ _ _ contains_cornerDocument read
  · rcases single corner cornerDocument rfl contains_cornerDocument query cornerGeocoder ()
      (run_pure_fst _) with ⟨found, again, same⟩ | ⟨⟨cause, refused⟩, -⟩
    · cases again.symm.trans read
      exact same
    · cases refused.symm.trans read

end SearchHit

end OverpassQuery

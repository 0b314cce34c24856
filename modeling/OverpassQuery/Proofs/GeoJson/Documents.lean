import OverpassQuery.GeoJson.Document
import OverpassQuery.Proofs.Data.FiniteNumbers
import OverpassQuery.Proofs.GeoJson.OuterRing
import OverpassQuery.Proofs.Preset.Refusals

/-!
# Rings of documents

A document is a geometry, a feature or a collection of features, and has the geometries that are
given in it, in their order (`GeoJson.Holds`). Its rings are those of all its polygons, one for
each, or there are none at all: the first polygon without outer ring decides, and a document
without polygons is refused as well (`GeoJson.Refused`).

What is let through here passes the checks that come later. The numbers of a document are
finite, and an outer ring has positions, so each ring makes a filter. A query for the rings of a
document can only fail for want of options (`GeoJson.rings_all_or_none`).
-/

set_option autoImplicit false

namespace OverpassQuery

instance Geometry.decidableIsPolygonal : DecidablePred Geometry.IsPolygonal
  | .polygon rings => .isTrue (.polygon rings)
  | .multiPolygon polygons => .isTrue (.multiPolygon polygons)
  | .point _ => .isFalse nofun
  | .multiPoint _ => .isFalse nofun
  | .lineString _ => .isFalse nofun
  | .multiLineString _ => .isFalse nofun
  | .collection _ => .isFalse nofun

namespace GeoJson

open OverpassQuery.Geometry (HasOuterRing IsPolygonal RingFault)

/-! ## Rings of a list of geometries -/

/-- The polygons among geometries. -/
def polygonsAmong (geometries : List Geometry) : List Geometry :=
  geometries.filter fun geometry => geometry.IsPolygonal

/-- Why geometries have no rings. -/
inductive Refused (geometries : List Geometry) : DocumentError → Prop where
  /-- The polygons before the one at fault have outer rings. -/
  | ring {before after : List Geometry} {geometry : Geometry} {cause : RingError}
      (split : geometries = before ++ geometry :: after)
      (sound : ∀ earlier ∈ before, earlier.IsPolygonal → ∃ ring, earlier.HasOuterRing ring)
      (fault : geometry.RingFault cause) : Refused geometries (.ring cause)
  | noPolygon (none : ∀ geometry ∈ geometries, ¬ geometry.IsPolygonal) :
      Refused geometries .noPolygon

variable {geometries : List Geometry} {geometry : Geometry} {found : List Ring}

theorem mem_polygonsAmong :
    geometry ∈ polygonsAmong geometries ↔ geometry ∈ geometries ∧ geometry.IsPolygonal := by
  rw [polygonsAmong, List.mem_filter, decide_eq_true_iff]

theorem polygonsAmong_cons_of_isPolygonal (polygonal : geometry.IsPolygonal)
    (rest : List Geometry) :
    polygonsAmong (geometry :: rest) = geometry :: polygonsAmong rest :=
  List.filter_cons_of_pos (decide_eq_true polygonal)

theorem polygonsAmong_cons_of_not_isPolygonal (other : ¬ geometry.IsPolygonal)
    (rest : List Geometry) : polygonsAmong (geometry :: rest) = polygonsAmong rest :=
  List.filter_cons_of_neg (by rwa [decide_eq_true_iff])

theorem polygonsAmong_eq_nil_iff :
    polygonsAmong geometries = [] ↔ ∀ geometry ∈ geometries, ¬ geometry.IsPolygonal := by
  simp [polygonsAmong]

/-- Polygons have their outer rings, in their order. -/
theorem polygonRings_eq_ok_iff :
    polygonRings geometries = .ok found ↔
      List.Forall₂ HasOuterRing (polygonsAmong geometries) found := by
  rw [polygonRings, mapM_eq_ok_iff]
  induction geometries generalizing found with
  | nil => simp [polygonsAmong]
  | cons geometry geometries ih =>
      cases taken : geometry.outerRing? with
      | none =>
          have other := Geometry.outerRing?_eq_none_iff.mp taken
          rw [List.filterMap_cons_none taken, ih, polygonsAmong_cons_of_not_isPolygonal other]
      | some outcome =>
          have polygonal := Geometry.exists_outerRing?_iff.mp ⟨outcome, taken⟩
          rw [List.filterMap_cons_some taken, polygonsAmong_cons_of_isPolygonal polygonal,
            List.forall₂_cons_left_iff, List.forall₂_cons_left_iff]
          refine exists_congr fun ring => exists_congr fun rest => ?_
          rw [ih, ← Geometry.outerRing?_eq_ok_iff, taken, Option.some_inj]
          rfl

/-- The first polygon without outer ring is refused. -/
theorem polygonRings_eq_error_iff {cause : RingError} :
    polygonRings geometries = .error cause ↔
      ∃ before geometry after, geometries = before ++ geometry :: after ∧
        (∀ earlier ∈ before, earlier.IsPolygonal → ∃ ring, earlier.HasOuterRing ring) ∧
          geometry.RingFault cause := by
  rw [polygonRings, mapM_eq_error_iff]
  constructor
  · rintro ⟨outcomes, outcome, others, cut, sound, refused⟩
    obtain ⟨front, rest, rfl, rfl, rest_eq⟩ := List.filterMap_eq_append_iff.mp cut
    obtain ⟨skipped, geometry, after, rfl, noPolygon, taken, -⟩ :=
      List.filterMap_eq_cons_iff.mp rest_eq
    refine ⟨front ++ skipped, geometry, after, (List.append_assoc _ _ _).symm,
      List.forall_mem_append.mpr ⟨fun earlier member polygonal => ?_, fun earlier member => ?_⟩, ?_⟩
    · obtain ⟨outcome, taken⟩ := Geometry.exists_outerRing?_iff.mpr polygonal
      obtain ⟨ring, passed⟩ := sound outcome (List.mem_filterMap.mpr ⟨earlier, member, taken⟩)
      exact ⟨ring, Geometry.outerRing?_eq_ok_iff.mp (taken.trans (congrArg some passed))⟩
    · exact fun polygonal =>
        absurd polygonal (Geometry.outerRing?_eq_none_iff.mp (noPolygon earlier member))
    · exact Geometry.outerRing?_eq_error_iff.mp (taken.trans (congrArg some refused))
  · rintro ⟨before, geometry, after, rfl, sound, fault⟩
    refine ⟨before.filterMap Geometry.outerRing?, .error cause, after.filterMap Geometry.outerRing?,
      ?_, ?_, rfl⟩
    · rw [List.filterMap_append,
        List.filterMap_cons_some (Geometry.outerRing?_eq_error_iff.mpr fault)]
    · intro outcome member
      obtain ⟨earlier, within, taken⟩ := List.mem_filterMap.mp member
      have polygonal := Geometry.exists_outerRing?_iff.mp ⟨outcome, taken⟩
      obtain ⟨ring, outer⟩ := sound earlier within polygonal
      rw [Geometry.outerRing?_eq_ok_iff.mpr outer] at taken
      exact ⟨ring, (Option.some.inj taken).symm⟩

/-- **The rings of geometries are those of all their polygons.** -/
theorem ringsOf_eq_ok_iff :
    ringsOf geometries = .ok found ↔
      (∃ geometry ∈ geometries, geometry.IsPolygonal) ∧
        List.Forall₂ HasOuterRing (polygonsAmong geometries) found := by
  have some_polygon : (∃ geometry ∈ geometries, geometry.IsPolygonal) ↔
      polygonsAmong geometries ≠ [] := by
    rw [ne_eq, polygonsAmong_eq_nil_iff]
    push Not
    rfl
  simp only [ringsOf, bind_eq_ok_iff, mapError_eq_ok_iff, polygonRings_eq_ok_iff, some_polygon]
  constructor
  · rintro ⟨rings, outer, done⟩
    split at done
    · cases done
    · rename_i nonempty
      cases done
      refine ⟨?_, outer⟩
      rintro none
      exact nonempty (List.forall₂_nil_left_iff.mp (none ▸ outer))
  · rintro ⟨nonempty, outer⟩
    refine ⟨found, outer, if_neg ?_⟩
    rintro rfl
    exact nonempty (List.forall₂_nil_right_iff.mp outer)

/-- **Geometries without rings are refused for the first polygon at fault.** -/
theorem ringsOf_eq_error_iff {cause : DocumentError} :
    ringsOf geometries = .error cause ↔ Refused geometries cause := by
  simp only [ringsOf, bind_eq_error_iff, mapError_eq_ok_iff, mapError_eq_error_iff,
    polygonRings_eq_ok_iff, polygonRings_eq_error_iff]
  constructor
  · rintro (⟨inner, ⟨before, geometry, after, split, sound, fault⟩, rfl⟩ | ⟨rings, outer, refused⟩)
    · exact .ring split sound fault
    · split at refused
      · rename_i empty
        cases refused
        rw [empty, List.forall₂_nil_right_iff, polygonsAmong_eq_nil_iff] at outer
        exact .noPolygon outer
      · cases refused
  · intro refused
    cases refused with
    | ring split sound fault => exact .inl ⟨_, ⟨_, _, _, split, sound, fault⟩, rfl⟩
    | noPolygon none =>
        exact .inr ⟨[], polygonsAmong_eq_nil_iff.mpr none ▸ .nil, rfl⟩

/-! ## What a document holds -/

/-- The geometries of a document, in their order. -/
inductive Holds : Data → List Geometry → Prop where
  | geometry {value : Data} {geometry : Geometry} (read : Geometry.ofData? value = some geometry) :
      Holds value [geometry]
  /-- A feature may be without geometry. -/
  | feature {entries : List (String × Data)} {geometry : Option Geometry}
      (read : geometryOfFeature? (.table entries) = some geometry) :
      Holds (.table entries) geometry.toList
  | collection {entries : List (String × Data)} {features : List Data}
      {geometries : List (Option Geometry)}
      (typed : Data.lookup? entries "type" = some (.text "FeatureCollection"))
      (bounds : Geometry.boundsAreValid entries = true)
      (given : Data.lookup? entries "features" = some (.list features))
      (read : List.Forall₂ (fun feature geometry => geometryOfFeature? feature = some geometry)
        features geometries) :
      Holds (.table entries) (geometries.filterMap id)

/-- A text is a document with geometries. -/
def Contains (document : String) (geometries : List Geometry) : Prop :=
  ∃ value, Json.parse? (Utf8.encode document) = some value ∧ Holds value geometries

/-- A feature is known by its type, and its geometry is one of its entries. -/
theorem entries_of_feature {value : Data} {geometry : Option Geometry}
    (read : geometryOfFeature? value = some geometry) :
    ∃ entries given, value = .table entries ∧
      Data.lookup? entries "type" = some (.text "Feature") ∧
      Data.lookup? entries "geometry" = some given ∧
      ∀ shape ∈ geometry, Geometry.ofData? given = some shape := by
  unfold geometryOfFeature? at read
  split at read
  · rename_i entries
    split at read
    · rename_i given typed lookup
      refine ⟨entries, given, rfl, typed, lookup, ?_⟩
      split at read
      · split at read
        · cases read
          intro shape absent
          cases absent
        · obtain ⟨shape, shaped, rfl⟩ := Option.map_eq_some_iff.mp read
          intro _ present
          cases present
          exact shaped
      · cases read
    · cases read
  · cases read

/-- A geometry is a collection, or has coordinates for its type. -/
theorem entries_of_geometry {value : Data} {geometry : Geometry}
    (read : Geometry.ofData? value = some geometry) :
    ∃ entries type, value = .table entries ∧ Data.lookup? entries "type" = some (.text type) ∧
      (type = "GeometryCollection" ∧ (∃ parts, geometry = .collection parts) ∨
        ∃ coordinates, Data.lookup? entries "coordinates" = some coordinates ∧
          Geometry.ofCoordinates? type coordinates = some geometry) := by
  unfold Geometry.ofData? at read
  split at read
  · rename_i entries
    split at read
    · cases read
    · split at read
      · rename_i typed
        split at read
        · obtain ⟨parts, -, shaped⟩ := Option.bind_eq_some_iff.mp read
          exact ⟨entries, _, rfl, typed, .inl ⟨rfl, parts, (Option.some.inj shaped).symm⟩⟩
        · cases read
      · rename_i type _ typed
        obtain ⟨coordinates, given, shaped⟩ := Option.bind_eq_some_iff.mp read
        exact ⟨entries, type, rfl, typed, .inr ⟨coordinates, given, shaped⟩⟩
      · cases read
  · cases read

/-- A geometry is no feature and no collection of features. -/
theorem not_feature_of_geometry {entries : List (String × Data)} {geometry : Geometry}
    (read : Geometry.ofData? (.table entries) = some geometry) :
    Data.lookup? entries "type" ≠ some (.text "Feature") ∧
      Data.lookup? entries "type" ≠ some (.text "FeatureCollection") := by
  obtain ⟨_, type, ⟨⟩, typed, shape⟩ := entries_of_geometry read
  have other : ∀ name : String, name ≠ "GeometryCollection" →
      (∀ coordinates, Geometry.ofCoordinates? name coordinates = none) →
        Data.lookup? entries "type" ≠ some (.text name) := by
    intro name noCollection shapeless named
    obtain rfl : type = name := Data.text.inj (Option.some.inj (typed.symm.trans named))
    rcases shape with ⟨collection, -⟩ | ⟨coordinates, -, shaped⟩
    · exact noCollection collection
    · exact nomatch (shapeless coordinates).symm.trans shaped
  exact ⟨other _ (by decide) fun _ => rfl, other _ (by decide) fun _ => rfl⟩

/-- **What is read from a document is what it holds.** -/
theorem geometries?_eq_some_iff {value : Data} :
    geometries? value = some geometries ↔ Holds value geometries := by
  constructor
  · intro read
    unfold geometries? at read
    split at read
    · split at read
      · obtain ⟨geometry, shaped, rfl⟩ := Option.map_eq_some_iff.mp read
        exact .feature shaped
      · rename_i entries typed
        split at read
        · rename_i features bounds given
          obtain ⟨geometries, each, rfl⟩ := Option.map_eq_some_iff.mp read
          exact .collection typed bounds given (mapM_eq_some_iff.mp each)
        · cases read
      · obtain ⟨geometry, shaped, rfl⟩ := Option.map_eq_some_iff.mp read
        exact .geometry shaped
    · cases read
  · intro holds
    cases holds with
    | geometry shaped =>
        obtain ⟨entries, type, rfl, -⟩ := entries_of_geometry shaped
        obtain ⟨noFeature, noCollection⟩ := not_feature_of_geometry shaped
        rw [geometries?]
        split
        · contradiction
        · contradiction
        · rw [shaped]
          rfl
    | feature shaped =>
        obtain ⟨entries', given, ⟨⟩, typed, -⟩ := entries_of_feature shaped
        rw [geometries?, typed, shaped]
        rfl
    | collection typed bounds given each =>
        rw [geometries?, typed, bounds, given]
        show (List.mapM geometryOfFeature? _).map _ = _
        rw [mapM_eq_some_iff.mpr each]
        rfl

theorem rings_of_contains {document : String} (contains : Contains document geometries) :
    rings document = ringsOf geometries := by
  obtain ⟨value, parsed, holds⟩ := contains
  rw [rings, parsed, Option.bind_some, geometries?_eq_some_iff.mpr holds]

/-! ## Numbers of a document -/

/-- The numbers of the ring that counts are finite. -/
def FirstRingFinite (geometry : Geometry) : Prop :=
  ∀ positions, geometry.FirstRing positions →
    ∀ position ∈ positions, ∀ number ∈ position, number.isFinite = true

section Finite

variable {value : Data}

/-- What is read of each item holds of all items that are read. -/
theorem forall_mem_of_listOf? {α : Type} {read? : Data → Option α} {holds : α → Prop}
    (each : ∀ {value : Data} {item : α}, value.AllFinite → read? value = some item → holds item)
    {items : List α} (finite : value.AllFinite) (read : Geometry.listOf? read? value = some items) :
    ∀ item ∈ items, holds item := by
  unfold Geometry.listOf? at read
  split at read
  · rename_i parts
    intro item member
    obtain ⟨part, within, shaped⟩ := exists_item_of_forall₂ (mapM_eq_some_iff.mp read) item member
    exact each (finite.of_mem part within) shaped
  · cases read

theorem isFinite_of_position? {position : Position} (finite : value.AllFinite)
    (read : Geometry.position? value = some position) :
    ∀ number ∈ position, number.isFinite = true := by
  obtain ⟨numbers, listed, long⟩ := Option.bind_eq_some_iff.mp read
  split at long
  · cases long
  · cases long
    exact forall_mem_of_listOf? Data.AllFinite.isFinite_of_number? finite listed

theorem isFinite_of_line {positions : List Position} (finite : value.AllFinite)
    (read : Geometry.listOf? Geometry.position? value = some positions) :
    ∀ position ∈ positions, ∀ number ∈ position, number.isFinite = true :=
  forall_mem_of_listOf? isFinite_of_position? finite read

theorem isFinite_of_polygon {rings : List (List Position)} (finite : value.AllFinite)
    (read : Geometry.listOf? (Geometry.listOf? Geometry.position?) value = some rings) :
    ∀ ring ∈ rings, ∀ position ∈ ring, ∀ number ∈ position, number.isFinite = true :=
  forall_mem_of_listOf? isFinite_of_line finite read

theorem firstRingFinite_of_ofCoordinates? {type : String} {geometry : Geometry}
    (finite : value.AllFinite) (read : Geometry.ofCoordinates? type value = some geometry) :
    FirstRingFinite geometry := by
  unfold Geometry.ofCoordinates? at read
  split at read
  case h_5 =>
    obtain ⟨rings, listed, rfl⟩ := Option.map_eq_some_iff.mp read
    rintro positions ⟨holes⟩
    exact isFinite_of_polygon finite listed positions List.mem_cons_self
  case h_6 =>
    obtain ⟨polygons, listed, rfl⟩ := Option.map_eq_some_iff.mp read
    rintro positions ⟨holes, others⟩
    exact forall_mem_of_listOf? isFinite_of_polygon finite listed _ List.mem_cons_self positions
      List.mem_cons_self
  case h_7 => cases read
  all_goals
    obtain ⟨parts, -, rfl⟩ := Option.map_eq_some_iff.mp read
    rintro positions ⟨⟩

theorem firstRingFinite_of_ofData? {geometry : Geometry} (finite : value.AllFinite)
    (read : Geometry.ofData? value = some geometry) : FirstRingFinite geometry := by
  obtain ⟨entries, type, rfl, -, ⟨-, parts, rfl⟩ | ⟨coordinates, given, shaped⟩⟩ :=
    entries_of_geometry read
  · rintro positions ⟨⟩
  · exact firstRingFinite_of_ofCoordinates? (finite.of_lookup? given) shaped

/-- The geometries of a document have finite numbers. -/
theorem Holds.firstRingFinite (holds : Holds value geometries) (finite : value.AllFinite) :
    ∀ geometry ∈ geometries, FirstRingFinite geometry := by
  have of_feature : ∀ {value : Data} {geometry : Option Geometry}, value.AllFinite →
      geometryOfFeature? value = some geometry → ∀ shape ∈ geometry, FirstRingFinite shape := by
    intro value geometry finite read shape given
    obtain ⟨entries, part, rfl, -, found, shaped⟩ := entries_of_feature read
    exact firstRingFinite_of_ofData? (finite.of_lookup? found) (shaped shape given)
  cases holds with
  | geometry read => exact List.forall_mem_singleton.mpr (firstRingFinite_of_ofData? finite read)
  | feature read =>
      intro shape given
      exact of_feature finite read shape (Option.mem_toList.mp given)
  | collection typed bounds given read =>
      intro shape member
      obtain ⟨geometry, listed, present⟩ := List.mem_filterMap.mp member
      obtain ⟨feature, within, shaped⟩ := exists_item_of_forall₂ read geometry listed
      exact of_feature ((finite.of_lookup? given).of_mem feature within) shaped shape present

end Finite

/-- An outer ring of finite numbers is complete. -/
theorem complete_of_hasOuterRing {geometry : Geometry} {ring : Ring}
    (finite : FirstRingFinite geometry) (outer : geometry.HasOuterRing ring) : ring.Complete := by
  obtain ⟨positions, first, nonempty, lie⟩ := outer
  constructor
  · rintro rfl
    exact nonempty (List.forall₂_nil_right_iff.mp lie)
  · intro point member
    obtain ⟨position, within, more, rfl⟩ := exists_item_of_forall₂ lie point member
    have numbers := finite positions first _ within
    exact ⟨numbers _ List.mem_cons_self, numbers _ (List.mem_cons_of_mem _ List.mem_cons_self)⟩

/-- **The rings of a document are complete.** -/
theorem complete_of_rings {document : String} (contains : Contains document geometries)
    (read : rings document = .ok found) : ∀ ring ∈ found, ring.Complete := by
  rw [rings_of_contains contains, ringsOf_eq_ok_iff] at read
  obtain ⟨value, parsed, holds⟩ := contains
  have finite := holds.firstRingFinite (Json.allFinite_of_parse? parsed)
  intro ring member
  obtain ⟨geometry, within, outer⟩ := exists_item_of_forall₂ read.2 ring member
  exact complete_of_hasOuterRing (finite geometry (mem_polygonsAmong.mp within).1) outer

/-! ## The rings of a document -/

theorem rings_eq_malformed_iff {document : String} :
    rings document = .error .malformed ↔ ∀ geometries, ¬ Contains document geometries := by
  constructor
  · intro refused geometries contains
    rw [rings_of_contains contains, ringsOf_eq_error_iff] at refused
    cases refused
  · intro nothing
    rw [rings]
    cases read : (Json.parse? (Utf8.encode document)).bind geometries? with
    | none => rfl
    | some geometries =>
        obtain ⟨value, parsed, held⟩ := Option.bind_eq_some_iff.mp read
        exact absurd ⟨value, parsed, geometries?_eq_some_iff.mp held⟩ (nothing geometries)

/-- **A document gives the rings of all its polygons, or none.** It gives rings exactly if it has
polygons and each of these has an outer ring, and then one ring for each. Otherwise the first
polygon without outer ring is reported, or that there is no polygon. All rings pass the check of a
polygon filter. A query for them fails only for want of options, and else has a union that is not
empty. -/
theorem rings_all_or_none (document : String) :
    (rings document = .error .malformed ↔ ∀ geometries, ¬ Contains document geometries) ∧
      ∀ geometries, Contains document geometries →
        ((∃ found, rings document = .ok found) ↔
          (∃ geometry ∈ geometries, geometry.IsPolygonal) ∧
            ∀ geometry ∈ geometries, geometry.IsPolygonal → ∃ ring, geometry.HasOuterRing ring) ∧
        (∀ cause, rings document = .error cause ↔ Refused geometries cause) ∧
        ∀ found, rings document = .ok found →
          List.Forall₂ HasOuterRing (polygonsAmong geometries) found ∧
          (∀ ring ∈ found, ElementFilter.polygon ring = .ok (.written (.polygon ring))) ∧
          ∀ query : PresetQuery,
            (∀ cause, query.byPolygon found = .error cause ↔
              query.LacksOptions ∧ cause = .missingCsvOptions) ∧
            ∀ sequence, query.byPolygon found = .ok sequence → ∃ union : UnionStatement,
              sequence.statements[1]? = some (.union union) ∧ union.members ≠ [] := by
  refine ⟨rings_eq_malformed_iff, fun geometries contains => ?_⟩
  have read := rings_of_contains contains
  refine ⟨?_, ?_, ?_⟩
  · rw [read]
    simp only [ringsOf_eq_ok_iff, exists_and_left, exists_forall₂_iff, mem_polygonsAmong, and_imp]
  · intro cause
    rw [read, ringsOf_eq_error_iff]
  · intro found taken
    have complete := complete_of_rings contains taken
    rw [read, ringsOf_eq_ok_iff] at taken
    obtain ⟨⟨geometry, member, polygonal⟩, outer⟩ := taken
    have nonempty : found ≠ [] := by
      rintro rfl
      have none := polygonsAmong_eq_nil_iff.mp (List.forall₂_nil_right_iff.mp outer)
      exact none geometry member polygonal
    refine ⟨outer, fun ring within => ?_, fun query => ⟨fun cause => ?_, fun sequence built => ?_⟩⟩
    · exact ElementFilter.make_eq_ok_iff.mpr
        ⟨FilterCondition.check_eq_ok_iff.mpr (complete ring within), rfl⟩
    · exact PresetQuery.byPolygon_eq_error_iff_of_complete complete
    · obtain rfl := PresetQuery.eq_assembled_of_byPolygon built
      refine ⟨_, query.statements_assembled _ _, List.ne_nil_of_length_pos ?_⟩
      show 0 < (query.members (found.map .polygon)).length
      rw [query.length_members, List.length_map]
      exact Nat.mul_pos (by decide) (List.length_pos_of_ne_nil nonempty)

/-- A feature with two polygons. The position of the first has a height, and the second has no
ring. -/
def island : String :=
  "\x7b\"type\":\"Feature\",\"geometry\":\x7b\"type\":\"MultiPolygon\","
    ++ "\"coordinates\":[[[[1,2,3]]],[]]\x7d\x7d"

theorem contains_island :
    Contains island [.multiPolygon [[[[.ofInt 1, .ofInt 2, .ofInt 3]]], []]] := by
  refine ⟨.table [("type", .text "Feature"), ("geometry", .table [("type", .text "MultiPolygon"),
    ("coordinates",
      .list [.list [.list [.list [.integer 1, .integer 2, .integer 3]]], .list []])])],
    by decide +kernel, geometries?_eq_some_iff.mp ?_⟩
  simp [geometries?, Data.lookup?, geometryOfFeature?, Geometry.ofData?, Geometry.boundsAreValid,
    idIsValid, propertiesAreValid, Geometry.ofCoordinates?, Geometry.listOf?, Geometry.position?,
    Data.number?]

theorem rings_of_island :
    Contains island [.multiPolygon [[[[.ofInt 1, .ofInt 2, .ofInt 3]]], []]] ∧
      rings island = .ok [[⟨.ofInt 1, .ofInt 2⟩]] ∧
      ElementFilter.polygon [⟨.ofInt 1, .ofInt 2⟩]
        = .ok (.written (.polygon [⟨.ofInt 1, .ofInt 2⟩])) ∧
      ∀ (query : PresetQuery) (cause : BuildError),
        query.byPolygon [[⟨.ofInt 1, .ofInt 2⟩]] = .error cause ↔
          query.LacksOptions ∧ cause = .missingCsvOptions := by
  have taken : rings island = .ok [[⟨.ofInt 1, .ofInt 2⟩]] := by
    rw [rings_of_contains contains_island]
    rfl
  obtain ⟨-, -, passing⟩ := (rings_all_or_none island).2 _ contains_island
  obtain ⟨-, filtered, built⟩ := passing _ taken
  exact ⟨contains_island, taken, filtered _ List.mem_cons_self, fun query => (built query).1⟩

end GeoJson

end OverpassQuery

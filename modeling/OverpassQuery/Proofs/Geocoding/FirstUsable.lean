import OverpassQuery.Geocoding.SearchHit
import OverpassQuery.Proofs.GeoJson.OuterRing

/-!
# The first usable hit

A hit is usable when its geometry is given, can be read and has an outer ring
(`SearchHit.Usable`). Any other hit is passed over for one of the reasons of
`SearchHit.Unusable`. The search for a place ends in the ring of the first usable hit, or in the
refusal of the place if no hit is usable, or in the refusal of the answer if it is no list of hits;
there is no other outcome (`SearchHit.firstPolygon_outcome`).

Hits that are passed over leave no trace in the outcome, and neither do those after the first usable
one. So two answers have the same outcome if their hits differ in nothing else
(`SearchHit.SameUpToUnused`).
-/

set_option autoImplicit false

namespace OverpassQuery

namespace SearchHit

/-! ## Hits that can be used -/

/-- The geometry of the hit is given and valid, and has the outer ring. -/
def Usable (hit : SearchHit) (ring : Ring) : Prop :=
  ∃ value geometry, hit.geometry = some value ∧ Geometry.ofData? value = some geometry ∧
    geometry.HasOuterRing ring

/-- Why a hit is passed over. -/
inductive Unusable (hit : SearchHit) : Prop where
  | noGeometry (absent : hit.geometry = none)
  | malformed (value : Data) (given : hit.geometry = some value)
      (invalid : Geometry.ofData? value = none)
  | flawed (value : Data) (geometry : Geometry) (given : hit.geometry = some value)
      (valid : Geometry.ofData? value = some geometry) (flaw : geometry.Flawed)

variable {hit : SearchHit} {ring : Ring}

theorem ring?_eq_outerRing? {value : Data} {geometry : Geometry} (given : hit.geometry = some value)
    (valid : Geometry.ofData? value = some geometry) :
    hit.ring? = some ring ↔ geometry.outerRing? = some (.ok ring) := by
  simp only [ring?, verdict, given, valid]
  cases geometry.outerRing? with
  | none => simp
  | some taken => cases taken <;> simp

/-- **The ring of a hit is the one it can be used for.** -/
theorem ring?_eq_some_iff : hit.ring? = some ring ↔ hit.Usable ring := by
  constructor
  · intro found
    cases given : hit.geometry with
    | none => simp [ring?, verdict, given] at found
    | some value =>
        cases valid : Geometry.ofData? value with
        | none => simp [ring?, verdict, given, valid] at found
        | some geometry =>
            rw [ring?_eq_outerRing? given valid, Geometry.outerRing?_eq_ok_iff] at found
            exact ⟨value, geometry, given, valid, found⟩
  · rintro ⟨value, geometry, given, valid, outer⟩
    rw [ring?_eq_outerRing? given valid]
    exact Geometry.outerRing?_eq_ok_iff.mpr outer

/-- **Every hit is either usable or passed over.** -/
theorem unusable_iff : hit.Unusable ↔ ∀ ring, ¬ hit.Usable ring := by
  constructor
  · rintro unusable ring ⟨value, geometry, given, valid, outer⟩
    cases unusable with
    | noGeometry absent =>
        rw [absent] at given
        cases given
    | malformed value' given' invalid =>
        obtain rfl := Option.some.inj (given.symm.trans given')
        rw [invalid] at valid
        cases valid
    | flawed value' geometry' given' valid' flaw =>
        obtain rfl := Option.some.inj (given.symm.trans given')
        obtain rfl := Option.some.inj (valid.symm.trans valid')
        exact Geometry.flawed_iff.mp flaw ring outer
  · intro unused
    cases given : hit.geometry with
    | none => exact .noGeometry given
    | some value =>
        cases valid : Geometry.ofData? value with
        | none => exact .malformed value given valid
        | some geometry =>
            refine .flawed value geometry given valid (Geometry.flawed_iff.mpr ?_)
            exact fun ring outer => unused ring ⟨value, geometry, given, valid, outer⟩

theorem ring?_eq_none_iff : hit.ring? = none ↔ hit.Unusable := by
  rw [unusable_iff, Option.eq_none_iff_forall_not_mem]
  exact forall_congr' fun ring => not_congr ring?_eq_some_iff

/-! ## Hits of an answer -/

/-- An answer is a list whose items are read as the hits. -/
def Lists (body : Bytes) (hits : List SearchHit) : Prop :=
  ∃ items, Json.parseRaw? body = some (.list items) ∧
    List.Forall₂ (fun item hit => ofRaw? item = some hit) items hits

theorem ofBody?_eq_some_iff {body : Bytes} {hits : List SearchHit} :
    ofBody? body = some hits ↔ Lists body hits := by
  unfold ofBody? Lists
  constructor
  · intro read
    split at read
    · rename_i items parsed
      exact ⟨items, parsed, mapM_eq_some_iff.mp read⟩
    · cases read
  · rintro ⟨items, parsed, read⟩
    rw [parsed]
    exact mapM_eq_some_iff.mpr read

theorem firstRing?_eq_some_iff {hits : List SearchHit} :
    firstRing? hits = some ring ↔
      ∃ before hit after, hits = before ++ hit :: after ∧ (∀ earlier ∈ before, Unusable earlier) ∧
        hit.Usable ring := by
  simp only [firstRing?, List.findSome?_eq_some_iff, ring?_eq_some_iff, ring?_eq_none_iff, and_comm]

theorem firstRing?_eq_none_iff {hits : List SearchHit} :
    firstRing? hits = none ↔ ∀ hit ∈ hits, Unusable hit := by
  simp only [firstRing?, List.findSome?_eq_none_iff, ring?_eq_none_iff]

/-! ## Hits that do not matter -/

/-- Two lists of hits that differ in unusable hits, put in or left out anywhere, and in what comes
after a usable hit. -/
inductive SameUpToUnused : List SearchHit → List SearchHit → Prop where
  | nil : SameUpToUnused [] []
  | both (hit : SearchHit) {hits hits' : List SearchHit} (rest : SameUpToUnused hits hits') :
      SameUpToUnused (hit :: hits) (hit :: hits')
  | inserted (hit : SearchHit) {hits hits' : List SearchHit} (unusable : hit.Unusable)
      (rest : SameUpToUnused hits hits') : SameUpToUnused hits (hit :: hits')
  | deleted (hit : SearchHit) {hits hits' : List SearchHit} (unusable : hit.Unusable)
      (rest : SameUpToUnused hits hits') : SameUpToUnused (hit :: hits) hits'
  | decided (hit : SearchHit) (ring : Ring) (usable : hit.Usable ring)
      (after after' : List SearchHit) : SameUpToUnused (hit :: after) (hit :: after')

theorem firstRing?_cons_of_unusable (unusable : hit.Unusable) (hits : List SearchHit) :
    firstRing? (hit :: hits) = firstRing? hits :=
  List.findSome?_cons_of_isNone (by rw [ring?_eq_none_iff.mpr unusable]; rfl)

theorem firstRing?_cons_of_usable (usable : hit.Usable ring) (hits : List SearchHit) :
    firstRing? (hit :: hits) = some ring :=
  firstRing?_eq_some_iff.mpr ⟨[], hit, hits, rfl, nofun, usable⟩

theorem SameUpToUnused.firstRing?_eq {hits hits' : List SearchHit}
    (same : SameUpToUnused hits hits') : firstRing? hits' = firstRing? hits := by
  induction same with
  | nil => rfl
  | both hit rest ih =>
      unfold firstRing? at ih ⊢
      rw [List.findSome?_cons, List.findSome?_cons, ih]
  | inserted hit unusable rest ih => rw [firstRing?_cons_of_unusable unusable, ih]
  | deleted hit unusable rest ih => rw [firstRing?_cons_of_unusable unusable, ih]
  | decided hit ring usable after after' =>
      rw [firstRing?_cons_of_usable usable, firstRing?_cons_of_usable usable]

/-! ## The outcome of a search -/

variable {body : Bytes} {place : String}

/-- Of the hits of an answer only the ring of the first usable one matters. -/
theorem firstPolygon_eq_of_firstRing?_eq {body' : Bytes} {hits hits' : List SearchHit}
    (lists : Lists body hits) (lists' : Lists body' hits')
    (same : firstRing? hits' = firstRing? hits) :
    firstPolygon body' place = firstPolygon body place := by
  simp only [firstPolygon, ofBody?_eq_some_iff.mpr lists, ofBody?_eq_some_iff.mpr lists', same]

theorem firstPolygon_eq_ok_iff :
    firstPolygon body place = .ok ring ↔
      ∃ hits, Lists body hits ∧ firstRing? hits = some ring := by
  simp only [← ofBody?_eq_some_iff]
  unfold firstPolygon
  cases ofBody? body with
  | none => simp
  | some hits => cases found : firstRing? hits <;> simp [found]

theorem firstPolygon_eq_notFound_iff {name : String} :
    firstPolygon body place = .error (.notFound name) ↔
      name = place ∧ ∃ hits, Lists body hits ∧ firstRing? hits = none := by
  simp only [← ofBody?_eq_some_iff]
  unfold firstPolygon
  cases ofBody? body with
  | none => simp
  | some hits => cases found : firstRing? hits <;> simp [found, eq_comm]

theorem exists_firstPolygon_eq_decode_iff :
    (∃ failure, firstPolygon body place = .error (.decode failure)) ↔
      ∀ hits, ¬ Lists body hits := by
  simp only [← ofBody?_eq_some_iff]
  unfold firstPolygon
  cases ofBody? body with
  | none => simp
  | some hits => cases found : firstRing? hits <;> simp [found]

/-- **A search ends in the first usable hit.** The ring is that of the first usable hit of the
answer; the place is not found exactly when the answer is a list of hits without a usable one, and
the answer is refused exactly when it is no list of hits. Answers whose hits differ in unused hits
only have the same outcome. -/
theorem firstPolygon_outcome (body : Bytes) (place : String) :
    (∀ ring, firstPolygon body place = .ok ring ↔
        ∃ before hit after, Lists body (before ++ hit :: after) ∧
          (∀ earlier ∈ before, Unusable earlier) ∧ hit.Usable ring) ∧
      (∀ name, firstPolygon body place = .error (.notFound name) ↔
        name = place ∧ ∃ hits, Lists body hits ∧ ∀ hit ∈ hits, Unusable hit) ∧
      ((∃ failure, firstPolygon body place = .error (.decode failure)) ↔
        ∀ hits, ¬ Lists body hits) ∧
      ∀ (body' : Bytes) (hits hits' : List SearchHit), Lists body hits → Lists body' hits' →
        SameUpToUnused hits hits' → firstPolygon body' place = firstPolygon body place := by
  refine ⟨fun ring => ?_, fun name => ?_, exists_firstPolygon_eq_decode_iff, ?_⟩
  · simp only [firstPolygon_eq_ok_iff, firstRing?_eq_some_iff]
    constructor
    · rintro ⟨hits, lists, before, hit, after, rfl, unused, usable⟩
      exact ⟨before, hit, after, lists, unused, usable⟩
    · rintro ⟨before, hit, after, lists, unused, usable⟩
      exact ⟨_, lists, before, hit, after, rfl, unused, usable⟩
  · simp only [firstPolygon_eq_notFound_iff, firstRing?_eq_none_iff]
  · intro body' hits hits' lists lists' same
    exact firstPolygon_eq_of_firstRing?_eq lists lists' same.firstRing?_eq

/-- A hit whose polygon has one position. -/
def cornerHit : SearchHit where
  displayName := ""
  geometry := some (.table [("type", .text "Polygon"),
    ("coordinates", .list [.list [.list [.integer 1, .integer 2]]])])

/-- The answer with this hit alone. -/
def cornerBody : Bytes :=
  Utf8.encode "[\x7b\"geojson\":\x7b\"type\":\"Polygon\",\"coordinates\":[[[1,2]]]\x7d\x7d]"

/-- The answer with a hit without geometry in front of it. -/
def preludedBody : Bytes :=
  Utf8.encode
    "[\x7b\x7d,\x7b\"geojson\":\x7b\"type\":\"Polygon\",\"coordinates\":[[[1,2]]]\x7d\x7d]"

theorem lists_cornerBody : Lists cornerBody [cornerHit] :=
  ofBody?_eq_some_iff.mp (by decide +kernel)

theorem lists_preludedBody : Lists preludedBody [⟨"", none⟩, cornerHit] :=
  ofBody?_eq_some_iff.mp (by decide +kernel)

theorem hasOuterRing_corner (longitude latitude : Binary64) :
    (Geometry.polygon [[[longitude, latitude]]]).HasOuterRing [⟨longitude, latitude⟩] :=
  ⟨_, .polygon _ _, List.cons_ne_nil _ _, .cons ⟨[], rfl⟩ .nil⟩

theorem usable_cornerHit : cornerHit.Usable [⟨.ofInt 1, .ofInt 2⟩] := by
  refine ⟨_, .polygon [[[.ofInt 1, .ofInt 2]]], rfl, ?_, hasOuterRing_corner _ _⟩
  unfold Geometry.ofData?
  rfl

/-- A hit without geometry in front of a polygon makes no difference. -/
theorem firstPolygon_of_hit_without_geometry :
    Lists cornerBody [cornerHit] ∧ Lists preludedBody [⟨"", none⟩, cornerHit] ∧
      SameUpToUnused [cornerHit] [⟨"", none⟩, cornerHit] ∧
      firstPolygon cornerBody "Henley" = .ok [⟨.ofInt 1, .ofInt 2⟩] ∧
      firstPolygon preludedBody "Henley" = firstPolygon cornerBody "Henley" := by
  have same : SameUpToUnused [cornerHit] [⟨"", none⟩, cornerHit] :=
    .inserted _ (.noGeometry rfl) (.both cornerHit .nil)
  obtain ⟨found, -, -, invisible⟩ := firstPolygon_outcome cornerBody "Henley"
  refine ⟨lists_cornerBody, lists_preludedBody, same, (found _).mpr ?_,
    invisible _ _ _ lists_cornerBody lists_preludedBody same⟩
  exact ⟨[], cornerHit, [], lists_cornerBody, nofun, usable_cornerHit⟩

end SearchHit

end OverpassQuery

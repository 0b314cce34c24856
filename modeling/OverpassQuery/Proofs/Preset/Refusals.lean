import OverpassQuery.Proofs.Filter.Faults
import OverpassQuery.Proofs.Preset.Shape

/-!
# Refusals of street network queries

A query for a street network may be wrong in several ways at once: its area may be at fault, its
format may lack the options it needs, and a place may not be found. Which of these is reported
is fixed for each kind of area (`PresetQuery.Refused`). For a box and a circle the area comes
before the format. For rings the format comes first and then the rings in their order, up to
the first that is at fault. A place is looked up before anything else is checked, and is then
treated as a polygon of one ring.

The query is refused for exactly these causes (`PresetQuery.build_refused_iff`). The other checks
that it passes through never refuse it: the members of the union are selections
and memberships, whatever their predicates, so no block is nested; the format has a known
name; no filter asks for ids; and a box that is a filter is also a setting.
-/

set_option autoImplicit false

namespace OverpassQuery

namespace PresetQuery

/-! ## The order of refusals -/

/-- A table is asked for, and no options say what its columns are. -/
def LacksOptions (query : PresetQuery) : Prop :=
  query.format = .csv ∧ (query.formatOptions = none ∨ query.formatOptions = some "")

/-- The cause for which a query is refused for an area, where it is known what the
geocoder finds. -/
inductive Refused (query : PresetQuery) (found : String → Except GeocodeError Ring) :
    QueryArea → PresetError → Prop where
  /-- A box is checked before the format. -/
  | box {box : BoundingBox} {cause : BuildError}
      (fault : (FilterCondition.boundingBox box).Fault cause) :
      Refused query found (.boundingBox box) (.build cause)
  | boxFormat {box : BoundingBox} (complete : (FilterCondition.boundingBox box).Complete)
      (lacking : query.LacksOptions) :
      Refused query found (.boundingBox box) (.build .missingCsvOptions)
  /-- A circle is checked before the format. -/
  | circle {radius : Binary64} {center : Point} {cause : BuildError}
      (fault : (FilterCondition.around radius [center] none).Fault cause) :
      Refused query found (.radius radius center) (.build cause)
  | circleFormat {radius : Binary64} {center : Point}
      (complete : (FilterCondition.around radius [center] none).Complete)
      (lacking : query.LacksOptions) :
      Refused query found (.radius radius center) (.build .missingCsvOptions)
  /-- The format is checked before any ring. -/
  | ringsFormat {rings : List Ring} (lacking : query.LacksOptions) :
      Refused query found (.polygon rings) (.build .missingCsvOptions)
  /-- Of several rings at fault the first is reported. -/
  | rings {before after : List Ring} {ring : Ring} {cause : BuildError}
      (provided : ¬ query.LacksOptions)
      (complete : ∀ earlier ∈ before, (FilterCondition.polygon earlier).Complete)
      (fault : (FilterCondition.polygon ring).Fault cause) :
      Refused query found (.polygon (before ++ ring :: after)) (.build cause)
  /-- A place that is not found is reported as the geocoder does. -/
  | unknownPlace {name : String} {cause : GeocodeError} (missed : found name = .error cause) :
      Refused query found (.place name) (.geocode cause)
  /-- A place that is found is a polygon of one ring. -/
  | place {name : String} {ring : Ring} {cause : PresetError} (located : found name = .ok ring)
      (refused : Refused query found (.polygon [ring]) cause) :
      Refused query found (.place name) cause

/-! ## The check of the format -/

theorem getD_eq_empty_iff {options : Option String} :
    options.getD "" = "" ↔ options = none ∨ options = some "" := by
  cases options with
  | none => simp
  | some text => simp

/-- The only fault of a format is that it lacks options: its name is known. -/
theorem checkFormat_eq_error_iff {query : PresetQuery} {cause : BuildError} :
    query.checkFormat = .error cause ↔ query.LacksOptions ∧ cause = .missingCsvOptions := by
  have named : OutputFormat.ofName query.format.name = .ok query.format :=
    OutputFormat.ofName_eq_ok_iff.mpr rfl
  rw [checkFormat, Setting.check, if_pos rfl, named, LacksOptions, ← getD_eq_empty_iff]
  show (if query.format = .csv ∧ query.formatOptions.getD "" = ""
    then Except.error BuildError.missingCsvOptions else .ok ()) = .error cause ↔ _
  by_cases lacking : query.format = .csv ∧ query.formatOptions.getD "" = ""
  · simpa [lacking] using eq_comm
  · simp [lacking]

theorem checkFormat_eq_ok_iff {query : PresetQuery} :
    query.checkFormat = .ok () ↔ ¬ query.LacksOptions := by
  rw [check_eq_ok_iff_no_cause]
  simp only [ne_eq, checkFormat_eq_error_iff]
  constructor
  · intro passes lacking
    exact passes .missingCsvOptions ⟨lacking, rfl⟩
  · rintro provided cause ⟨lacking, -⟩
    exact provided lacking

/-! ## The three ways to build a query -/

/-- A condition that is checked before the format is at fault before it. -/
theorem checked_before_format (condition : FilterCondition) {query : PresetQuery}
    {sequence : Sequence} {cause : BuildError} :
    (do condition.check; query.checkFormat; return sequence) = Except.error cause ↔
      condition.Fault cause ∨
        condition.Complete ∧ query.LacksOptions ∧ cause = .missingCsvOptions := by
  rw [check_bind_eq_error_iff, check_bind_eq_error_iff, FilterCondition.check_eq_error_iff,
    FilterCondition.check_eq_ok_iff, checkFormat_eq_error_iff]
  have written : (pure sequence : Except BuildError Sequence) ≠ .error cause := nofun
  simp [written]

theorem byBoundingBox_eq_error_iff {query : PresetQuery} {box : BoundingBox} {cause : BuildError} :
    query.byBoundingBox box = .error cause ↔
      (FilterCondition.boundingBox box).Fault cause ∨
        (FilterCondition.boundingBox box).Complete ∧ query.LacksOptions ∧
          cause = .missingCsvOptions := by
  rw [byBoundingBox_eq]
  exact checked_before_format (.boundingBox box)

theorem byRadius_eq_error_iff {query : PresetQuery} {radius : Binary64} {center : Point}
    {cause : BuildError} :
    query.byRadius radius center = .error cause ↔
      (FilterCondition.around radius [center] none).Fault cause ∨
        (FilterCondition.around radius [center] none).Complete ∧ query.LacksOptions ∧
          cause = .missingCsvOptions := by
  rw [byRadius_eq]
  exact checked_before_format (.around radius [center] none)

theorem byPolygon_eq_error_iff {query : PresetQuery} {rings : List Ring} {cause : BuildError} :
    query.byPolygon rings = .error cause ↔
      query.LacksOptions ∧ cause = .missingCsvOptions ∨
        ¬ query.LacksOptions ∧ ∃ before ring after, rings = before ++ ring :: after ∧
          (∀ earlier ∈ before, (FilterCondition.polygon earlier).Complete) ∧
            (FilterCondition.polygon ring).Fault cause := by
  have written : (pure (query.assembled [] (rings.map .polygon)) : Except BuildError Sequence)
      ≠ .error cause := nofun
  rw [byPolygon_eq, check_bind_eq_error_iff, check_bind_eq_error_iff, checkFormat_eq_error_iff,
    checkFormat_eq_ok_iff, forM_eq_error_iff]
  simp only [← FilterCondition.check_eq_ok_iff, ← FilterCondition.check_eq_error_iff,
    FilterCondition.check, written, and_false, or_false]

/-- Complete rings are refused only together with a format that lacks options. -/
theorem byPolygon_eq_error_iff_of_complete {query : PresetQuery} {rings : List Ring}
    (complete : ∀ ring ∈ rings, ring.Complete) {cause : BuildError} :
    query.byPolygon rings = .error cause ↔ query.LacksOptions ∧ cause = .missingCsvOptions := by
  rw [byPolygon_eq_error_iff]
  refine or_iff_left ?_
  rintro ⟨-, before, ring, after, rfl, -, fault⟩
  have sound : (FilterCondition.polygon ring).Complete :=
    complete ring (List.mem_append_right _ List.mem_cons_self)
  exact FilterCondition.complete_iff_no_fault.mp sound _ fault

/-! ## All areas -/

theorem refused_polygon_iff {query : PresetQuery} {rings : List Ring}
    (found : String → Except GeocodeError Ring) {cause : PresetError} :
    (query.byPolygon rings).mapError PresetError.build = .error cause ↔
      query.Refused found (.polygon rings) cause := by
  rw [mapError_eq_error_iff]
  simp only [byPolygon_eq_error_iff]
  constructor
  · rintro ⟨inner, ⟨lacking, rfl⟩ | ⟨provided, before, ring, after, rfl, complete, fault⟩, rfl⟩
    · exact .ringsFormat lacking
    · exact .rings provided complete fault
  · intro refused
    cases refused with
    | ringsFormat lacking => exact ⟨_, .inl ⟨lacking, rfl⟩, rfl⟩
    | rings provided complete fault =>
        exact ⟨_, .inr ⟨provided, _, _, _, rfl, complete, fault⟩, rfl⟩

/-- A query is refused for the cause that comes first. -/
theorem build_eq_error_iff {World : Type} {query : PresetQuery} {area : QueryArea}
    {geocoder : Geocoder (StateM World)} {world : World} {cause : PresetError} :
    ((query.build area geocoder).run world).1 = .error cause ↔
      query.Refused (fun name => ((geocoder name).run world).1) area cause := by
  cases area with
  | boundingBox box =>
      show (query.byBoundingBox box).mapError PresetError.build = .error cause ↔ _
      rw [mapError_eq_error_iff]
      simp only [byBoundingBox_eq_error_iff]
      constructor
      · rintro ⟨inner, fault | ⟨complete, lacking, rfl⟩, rfl⟩
        · exact .box fault
        · exact .boxFormat complete lacking
      · intro refused
        cases refused with
        | box fault => exact ⟨_, .inl fault, rfl⟩
        | boxFormat complete lacking => exact ⟨_, .inr ⟨complete, lacking, rfl⟩, rfl⟩
  | radius metres center =>
      show (query.byRadius metres center).mapError PresetError.build = .error cause ↔ _
      rw [mapError_eq_error_iff]
      simp only [byRadius_eq_error_iff]
      constructor
      · rintro ⟨inner, fault | ⟨complete, lacking, rfl⟩, rfl⟩
        · exact .circle fault
        · exact .circleFormat complete lacking
      · intro refused
        cases refused with
        | circle fault => exact ⟨_, .inl fault, rfl⟩
        | circleFormat complete lacking => exact ⟨_, .inr ⟨complete, lacking, rfl⟩, rfl⟩
  | polygon rings => exact refused_polygon_iff _
  | place name =>
      rw [build_place]
      constructor
      · intro failed
        cases located : ((geocoder name).run world).1 with
        | error missed =>
            rw [located] at failed
            cases failed
            exact .unknownPlace located
        | ok ring =>
            rw [located] at failed
            exact .place located ((refused_polygon_iff _).mp failed)
      · intro refused
        cases refused with
        | unknownPlace missed => rw [missed]
        | place located refused =>
            rw [located]
            exact (refused_polygon_iff _).mpr refused

/-- The causes for which a query can be refused while it is built. -/
def refusals : List BuildError :=
  [.missingCsvOptions, .nonFinite .boundingBox, .nonFinite .around, .emptyRing .polygon,
    .nonFinite .polygon]

/-- Every cause of refusal is one of these. -/
theorem Refused.mem_refusals {query : PresetQuery} {found : String → Except GeocodeError Ring}
    {area : QueryArea} {cause : PresetError} (refused : query.Refused found area cause) :
    ∀ inner, cause = .build inner → inner ∈ refusals := by
  induction refused with
  | box fault =>
      rintro inner ⟨⟩
      cases fault
      decide
  | circle fault =>
      rintro inner ⟨⟩
      cases fault
      decide
  | rings provided complete fault =>
      rintro inner ⟨⟩
      cases fault with
      | polygonEmpty => decide
      | polygon unbounded => decide
  | boxFormat complete lacking =>
      rintro inner ⟨⟩
      decide
  | circleFormat complete lacking =>
      rintro inner ⟨⟩
      decide
  | ringsFormat lacking =>
      rintro inner ⟨⟩
      decide
  | unknownPlace missed => rintro inner ⟨⟩
  | place located refused ih => exact ih

/-- A box that is taken as a filter is taken as a setting. -/
theorem setting_of_filter {box : BoundingBox} {filter : ElementFilter}
    (made : ElementFilter.boundingBox box = .ok filter) :
    ∃ setting, Setting.boundingBox box = .ok setting := by
  obtain ⟨checked, -⟩ := ElementFilter.make_eq_ok_iff.mp made
  exact ⟨_, Setting.boundingBox_eq_ok_iff.mpr ⟨checked, rfl⟩⟩

/-- **A query is refused when it should be, and for the cause that comes first.** The outcome
is an error exactly if that is the first cause of refusal, and otherwise a query. A place that
is found has the outcome of its ring. Nothing else is ever reported from building a
query, and the box that was taken as a filter is never refused as a setting. -/
theorem build_refused_iff {World : Type} (query : PresetQuery) (area : QueryArea)
    (geocoder : Geocoder (StateM World)) (world : World) :
    let found := fun name => ((geocoder name).run world).1
    let outcome := fun area => ((query.build area geocoder).run world).1
    (∀ cause, outcome area = .error cause ↔ query.Refused found area cause) ∧
      ((∃ sequence, outcome area = .ok sequence) ↔ ∀ cause, ¬ query.Refused found area cause) ∧
      (∀ name ring, found name = .ok ring → outcome (.place name) = outcome (.polygon [ring])) ∧
      (∀ cause, outcome area = .error (.build cause) → cause ∈ refusals) ∧
      ∀ box filter, ElementFilter.boundingBox box = .ok filter →
        ∃ setting, Setting.boundingBox box = .ok setting := by
  intro found outcome
  have refused : ∀ cause, outcome area = .error cause ↔ query.Refused found area cause :=
    fun _ => build_eq_error_iff
  refine ⟨refused, ?_, ?_, ?_, fun _ _ => setting_of_filter⟩
  · simp only [← refused]
    cases outcome area with
    | error cause => simp
    | ok sequence => simp
  · intro name ring located
    have answer : ((geocoder name).run world).1 = .ok ring := located
    show ((query.build (.place name) geocoder).run world).1 = _
    rw [build_place, answer]
    rfl
  · intro cause failed
    exact ((refused _).mp failed).mem_refusals cause rfl

/-- With an edge that is not finite and without options, a table for a box is refused for the
box. -/
example : (⟨[], [], false, .csv, none⟩ : PresetQuery).byBoundingBox
    ⟨.zero, .notANumber, .zero, .zero⟩ = .error (.nonFinite .boundingBox) := rfl

end PresetQuery

end OverpassQuery

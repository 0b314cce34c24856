import OverpassQuery.GeoJson.Geometry
import OverpassQuery.Proofs.State.Outcomes

/-!
# Outer rings

The first ring of a polygon counts, and of several polygons the first ring of the first
(`Geometry.FirstRing`). A geometry has an outer ring when this ring has positions, each with two
numbers or more; the outer ring has a point for each of them, in their order
(`Geometry.HasOuterRing`). It is what the library takes from the geometry
(`Geometry.outerRing?_eq_ok_iff`).

A geometry without outer ring has one of four flaws (`Geometry.Flawed`), and a geometry with one has
none of them (`Geometry.flawed_iff`). A polygon without outer ring is refused for one cause
(`Geometry.RingFault`, `Geometry.outerRing?_eq_error_iff`).
-/

set_option autoImplicit false

namespace OverpassQuery

namespace Geometry

/-! ## The ring of a geometry -/

/-- One polygon, or several. -/
inductive IsPolygonal : Geometry → Prop where
  | polygon (rings : List (List Position)) : IsPolygonal (.polygon rings)
  | multiPolygon (polygons : List (List (List Position))) : IsPolygonal (.multiPolygon polygons)

/-- The first ring of a polygon, or of the first of several polygons. -/
inductive FirstRing : Geometry → List Position → Prop where
  | polygon (ring : List Position) (holes : List (List Position)) :
      FirstRing (.polygon (ring :: holes)) ring
  | multiPolygon (ring : List Position) (holes : List (List Position))
      (others : List (List (List Position))) :
      FirstRing (.multiPolygon ((ring :: holes) :: others)) ring

/-- A position lies at a point when it begins with the point's longitude and latitude. -/
def LiesAt (position : Position) (point : Point) : Prop :=
  ∃ more, position = point.longitude :: point.latitude :: more

/-- The first ring is not empty, and its positions lie at the points of the outer ring. -/
def HasOuterRing (geometry : Geometry) (ring : Ring) : Prop :=
  ∃ positions, geometry.FirstRing positions ∧ positions ≠ [] ∧
    List.Forall₂ LiesAt positions ring

/-- What a geometry can have instead of an outer ring. -/
inductive Flawed (geometry : Geometry) : Prop where
  /-- It is a geometry of another type. -/
  | otherType (other : ¬ geometry.IsPolygonal)
  /-- There is no polygon, or the first has no ring. -/
  | noRing (polygonal : geometry.IsPolygonal) (none : ∀ positions, ¬ geometry.FirstRing positions)
  | emptyRing (first : geometry.FirstRing [])
  | shortPosition (positions : List Position) (first : geometry.FirstRing positions)
      (position : Position) (within : position ∈ positions) (short : position.length < 2)

variable {geometry : Geometry} {positions : List Position} {ring : Ring}

theorem FirstRing.isPolygonal (first : geometry.FirstRing positions) : geometry.IsPolygonal := by
  cases first with
  | polygon _ holes => exact .polygon _
  | multiPolygon _ holes others => exact .multiPolygon _

theorem FirstRing.eq {positions' : List Position} (first : geometry.FirstRing positions)
    (second : geometry.FirstRing positions') : positions = positions' := by
  cases first <;> cases second <;> rfl

/-! ## Taking the ring -/

theorem pointOf_eq_ok_iff {position : Position} {point : Point} :
    pointOf position = .ok point ↔ LiesAt position point := by
  constructor
  · intro taken
    unfold pointOf at taken
    split at taken
    · cases taken
      exact ⟨_, rfl⟩
    · cases taken
  · rintro ⟨more, rfl⟩
    rfl

theorem ringOf_eq_ok_iff :
    ringOf positions = .ok ring ↔ positions ≠ [] ∧ List.Forall₂ LiesAt positions ring := by
  simp only [ringOf, bind_eq_ok_iff, mapM_eq_ok_iff, pointOf_eq_ok_iff]
  constructor
  · rintro ⟨points, lie, done⟩
    split at done
    · cases done
    · rename_i nonempty
      cases done
      refine ⟨?_, lie⟩
      rintro rfl
      exact nonempty (List.forall₂_nil_left_iff.mp lie)
  · rintro ⟨nonempty, lie⟩
    refine ⟨ring, lie, if_neg ?_⟩
    rintro rfl
    exact nonempty (List.forall₂_nil_right_iff.mp lie)

theorem outerRing?_of_first (first : geometry.FirstRing positions) :
    geometry.outerRing? = some (ringOf positions) := by
  cases first <;> rfl

/-- What is taken from a geometry comes from its first ring. -/
theorem exists_first_of_outerRing? (taken : geometry.outerRing? = some (.ok ring)) :
    ∃ positions, geometry.FirstRing positions := by
  unfold outerRing? at taken
  split at taken
  · rename_i rings
    cases rings with
    | nil => cases taken
    | cons first holes => exact ⟨first, .polygon first holes⟩
  · cases taken
  · rename_i rings others
    cases rings with
    | nil => cases taken
    | cons first holes => exact ⟨first, .multiPolygon first holes others⟩
  · cases taken

/-- **The outer ring is taken exactly where there is one.** -/
theorem outerRing?_eq_ok_iff :
    geometry.outerRing? = some (.ok ring) ↔ geometry.HasOuterRing ring := by
  constructor
  · intro taken
    obtain ⟨positions, first⟩ := exists_first_of_outerRing? taken
    rw [outerRing?_of_first first, Option.some_inj] at taken
    exact ⟨positions, first, ringOf_eq_ok_iff.mp taken⟩
  · rintro ⟨positions, first, usable⟩
    rw [outerRing?_of_first first, ringOf_eq_ok_iff.mpr usable]

/-! ## Flaws -/

theorem LiesAt.two_le_length {position : Position} {point : Point} (lies : LiesAt position point) :
    2 ≤ position.length := by
  obtain ⟨more, rfl⟩ := lies
  exact Nat.le_add_left 2 more.length

theorem exists_liesAt_iff {position : Position} :
    (∃ point, LiesAt position point) ↔ 2 ≤ position.length := by
  constructor
  · rintro ⟨point, lies⟩
    exact lies.two_le_length
  · intro long
    match position, long with
    | longitude :: latitude :: more, _ => exact ⟨⟨longitude, latitude⟩, more, rfl⟩

/-- Positions with two numbers or more lie at points. -/
theorem exists_points_iff :
    (∃ ring : Ring, List.Forall₂ LiesAt positions ring) ↔
      ∀ position ∈ positions, 2 ≤ position.length := by
  simp only [exists_forall₂_iff, exists_liesAt_iff]

/-- **A geometry is flawed exactly when it has no outer ring.** -/
theorem flawed_iff : geometry.Flawed ↔ ∀ ring, ¬ geometry.HasOuterRing ring := by
  constructor
  · rintro flawed ring ⟨positions, first, nonempty, lie⟩
    cases flawed with
    | otherType other => exact other first.isPolygonal
    | noRing polygonal none => exact none positions first
    | emptyRing empty => exact nonempty (first.eq empty)
    | shortPosition positions' first' position within short =>
        obtain rfl := first.eq first'
        exact absurd short (Nat.not_lt.mpr (exists_points_iff.mp ⟨ring, lie⟩ position within))
  · intro noRing
    by_contra sound
    -- Without the first three flaws there is a ring of positions, and without the last all of these
    -- lie at points.
    have polygonal : geometry.IsPolygonal := by
      by_contra other
      exact sound (.otherType other)
    obtain ⟨positions, first⟩ : ∃ positions, geometry.FirstRing positions := by
      by_contra none
      exact sound (.noRing polygonal (not_exists.mp none))
    have nonempty : positions ≠ [] := by
      rintro rfl
      exact sound (.emptyRing first)
    obtain ⟨ring, lie⟩ := exists_points_iff.mpr fun position within => Nat.le_of_not_lt fun short =>
      sound (.shortPosition positions first position within short)
    exact noRing ring ⟨positions, first, nonempty, lie⟩

/-! ## Causes of refusal -/

/-- The cause for which a polygon has no outer ring. Of several positions that are too short the
first is reported. -/
inductive RingFault (geometry : Geometry) : RingError → Prop where
  | noRings (polygonal : geometry.IsPolygonal)
      (none : ∀ positions, ¬ geometry.FirstRing positions) : RingFault geometry .noRings
  | emptyRing (first : geometry.FirstRing []) : RingFault geometry .emptyRing
  | shortPosition {before after : List Position} {position : Position}
      (first : geometry.FirstRing (before ++ position :: after))
      (long : ∀ earlier ∈ before, 2 ≤ earlier.length) (short : position.length < 2) :
      RingFault geometry (.shortPosition position.length)

theorem outerRing?_eq_none_iff : geometry.outerRing? = none ↔ ¬ geometry.IsPolygonal := by
  constructor
  · rintro other (rings | polygons)
    · cases other
    · cases polygons with
      | nil => cases other
      | cons rings others => cases other
  · intro other
    unfold outerRing?
    split
    · exact absurd (.polygon _) other
    · exact absurd (.multiPolygon _) other
    · exact absurd (.multiPolygon _) other
    · rfl

theorem pointOf_eq_error_iff {position : Position} {cause : RingError} :
    pointOf position = .error cause ↔
      position.length < 2 ∧ cause = .shortPosition position.length := by
  match position with
  | [] => simp [pointOf, eq_comm]
  | [_] => simp [pointOf, eq_comm]
  | longitude :: latitude :: more =>
      refine iff_of_false nofun fun refused => ?_
      exact absurd refused.1 (Nat.not_lt.mpr (Nat.le_add_left 2 more.length))

theorem ringOf_eq_error_iff {cause : RingError} :
    ringOf positions = .error cause ↔
      positions = [] ∧ cause = .emptyRing ∨
        ∃ before position after, positions = before ++ position :: after ∧
          (∀ earlier ∈ before, 2 ≤ earlier.length) ∧ position.length < 2 ∧
            cause = .shortPosition position.length := by
  rw [ringOf, bind_eq_error_iff, or_comm]
  simp only [mapM_eq_error_iff, pointOf_eq_ok_iff, exists_liesAt_iff, pointOf_eq_error_iff]
  refine or_congr_left ?_
  constructor
  · rintro ⟨points, taken, refused⟩
    split at refused
    · rename_i empty
      cases refused
      rw [empty, mapM_eq_ok_iff, List.forall₂_nil_right_iff] at taken
      exact ⟨taken, rfl⟩
    · cases refused
  · rintro ⟨rfl, rfl⟩
    exact ⟨[], rfl, rfl⟩

theorem exists_outerRing?_iff :
    (∃ outcome, geometry.outerRing? = some outcome) ↔ geometry.IsPolygonal := by
  rw [← Option.ne_none_iff_exists', ne_eq, outerRing?_eq_none_iff, not_not]

theorem outerRing?_of_no_first (polygonal : geometry.IsPolygonal)
    (none : ∀ positions, ¬ geometry.FirstRing positions) :
    geometry.outerRing? = some (.error .noRings) := by
  cases polygonal with
  | polygon rings =>
      cases rings with
      | nil => rfl
      | cons ring holes => exact absurd (.polygon ring holes) (none ring)
  | multiPolygon polygons =>
      match polygons with
      | [] => rfl
      | [] :: others => rfl
      | (ring :: holes) :: others => exact absurd (.multiPolygon ring holes others) (none ring)

/-- **A polygon is refused for its fault.** -/
theorem outerRing?_eq_error_iff {cause : RingError} :
    geometry.outerRing? = some (.error cause) ↔ geometry.RingFault cause := by
  constructor
  · intro refused
    have polygonal : geometry.IsPolygonal := exists_outerRing?_iff.mp ⟨_, refused⟩
    by_cases found : ∃ positions, geometry.FirstRing positions
    · obtain ⟨positions, first⟩ := found
      rw [outerRing?_of_first first, Option.some_inj, ringOf_eq_error_iff] at refused
      rcases refused with ⟨rfl, rfl⟩ | ⟨before, position, after, rfl, long, short, rfl⟩
      · exact .emptyRing first
      · exact .shortPosition first long short
    · rw [outerRing?_of_no_first polygonal (not_exists.mp found)] at refused
      cases refused
      exact .noRings polygonal (not_exists.mp found)
  · intro fault
    cases fault with
    | noRings polygonal none => exact outerRing?_of_no_first polygonal none
    | emptyRing first =>
        rw [outerRing?_of_first first]
        rfl
    | shortPosition first long short =>
        rw [outerRing?_of_first first, Option.some_inj, ringOf_eq_error_iff]
        exact .inr ⟨_, _, _, rfl, long, short, rfl⟩

end Geometry

end OverpassQuery

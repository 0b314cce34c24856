import OverpassQuery.Proofs.Statement.Admissible

/-!
# Faults of filter conditions

The arguments of a filter can be at fault in few ways: an edge, a coordinate or a radius is not
finite, a ring has no positions, or a list of ids is empty (`FilterCondition.Fault`). Where
several numbers are not finite the fault is the same, and a ring without positions has no
coordinates, so a condition has at most one fault.

The checks find it wherever it is. A condition is refused with a cause if and only if that
is its fault (`FilterCondition.check_eq_error_iff`), and a condition without faults is complete.
-/

set_option autoImplicit false

namespace OverpassQuery

/-- The edges of a box. -/
def BoundingBox.edges (box : BoundingBox) : List Binary64 :=
  [box.south, box.west, box.north, box.east]

/-- The coordinates of a ring, each longitude before its latitude. -/
def Ring.coordinates (ring : Ring) : List Binary64 :=
  ring.flatMap fun point => [point.longitude, point.latitude]

/-- One of several numbers is not finite. -/
def SomeNotFinite (numbers : List Binary64) : Prop := ∃ number ∈ numbers, number.isFinite = false

/-- What is wrong with the arguments of a condition. -/
inductive FilterCondition.Fault : FilterCondition → BuildError → Prop where
  | boundingBox {box : BoundingBox} (unbounded : SomeNotFinite box.edges) :
      Fault (.boundingBox box) (.nonFinite .boundingBox)
  | id : Fault (.id []) (.emptyIdList .id)
  | area : Fault (.area []) (.emptyIdList .area)
  | polygonEmpty : Fault (.polygon []) (.emptyRing .polygon)
  | polygon {ring : Ring} (unbounded : SomeNotFinite ring.coordinates) :
      Fault (.polygon ring) (.nonFinite .polygon)
  | aroundEmpty {radius : Binary64} {inputSet : Option String} :
      Fault (.around radius [] inputSet) (.emptyRing .around)
  | around {radius : Binary64} {ring : Ring} {inputSet : Option String} (nonempty : ring ≠ [])
      (unbounded : SomeNotFinite (radius :: ring.coordinates)) :
      Fault (.around radius ring inputSet) (.nonFinite .around)

/-! ## Numbers that are not finite -/

theorem someNotFinite_iff {numbers : List Binary64} :
    SomeNotFinite numbers ↔ numbers.all Binary64.isFinite = false := by
  simp [SomeNotFinite, List.all_eq_false]

theorem someNotFinite_cons {number : Binary64} {numbers : List Binary64} :
    SomeNotFinite (number :: numbers) ↔ number.isFinite = false ∨ SomeNotFinite numbers := by
  simp [SomeNotFinite]

theorem BoundingBox.isFinite_eq_all (box : BoundingBox) :
    box.isFinite = box.edges.all Binary64.isFinite := by
  simp [isFinite, edges, Bool.and_assoc]

theorem Ring.isFinite_eq_all (ring : Ring) :
    ring.isFinite = ring.coordinates.all Binary64.isFinite := by
  simp [isFinite, coordinates, List.all_flatMap]

/-! ## Checks -/

theorem FilterCondition.checkIds_eq_error_iff {kind : FilterKind} {ids : List Int}
    {cause : BuildError} :
    checkIds kind ids = .error cause ↔ ids = [] ∧ cause = .emptyIdList kind := by
  unfold checkIds
  by_cases empty : ids = []
  · simpa [empty] using eq_comm
  · simp [empty]

/-- A ring without positions is refused before its coordinates are looked at. -/
theorem Ring.check_eq_error_iff {kind : FilterKind} {ring : Ring} {cause : BuildError} :
    ring.check kind = .error cause ↔
      ring = [] ∧ cause = .emptyRing kind ∨
        ring ≠ [] ∧ SomeNotFinite ring.coordinates ∧ cause = .nonFinite kind := by
  rw [someNotFinite_iff, ← isFinite_eq_all, check]
  by_cases empty : ring = []
  · simpa [empty] using eq_comm
  · by_cases finite : ring.isFinite = true
    · simp [empty, finite]
    · simpa [empty, finite] using eq_comm

theorem Ring.check_of_finite {kind : FilterKind} {ring : Ring} (nonempty : ring ≠ [])
    (bounded : ¬ SomeNotFinite ring.coordinates) : ring.check kind = .ok () := by
  rw [someNotFinite_iff, ← isFinite_eq_all, Bool.not_eq_false] at bounded
  simp [check, nonempty, bounded]

/-- What has a coordinate that is not finite has a position. -/
theorem Ring.ne_nil_of_someNotFinite {ring : Ring} (unbounded : SomeNotFinite ring.coordinates) :
    ring ≠ [] := by
  rintro rfl
  obtain ⟨number, occurs, _⟩ := unbounded
  cases occurs

/-- **A condition is refused for its fault.** -/
theorem FilterCondition.check_eq_error_iff {condition : FilterCondition} {cause : BuildError} :
    condition.check = .error cause ↔ condition.Fault cause := by
  cases condition with
  | boundingBox box =>
      rw [check, BoundingBox.check, BoundingBox.isFinite_eq_all]
      constructor
      · intro refused
        split at refused
        · cases refused
        · rename_i unbounded
          cases refused
          exact .boundingBox (someNotFinite_iff.mpr (eq_false_of_ne_true unbounded))
      · rintro ⟨unbounded⟩
        rw [someNotFinite_iff.mp unbounded]
        rfl
  | recurse direction =>
      constructor
      · rintro ⟨⟩
      · rintro ⟨⟩
  | id ids =>
      rw [check, checkIds_eq_error_iff]
      constructor
      · rintro ⟨rfl, rfl⟩
        exact .id
      · rintro ⟨⟩
        exact ⟨rfl, rfl⟩
  | area ids =>
      rw [check, checkIds_eq_error_iff]
      constructor
      · rintro ⟨rfl, rfl⟩
        exact .area
      · rintro ⟨⟩
        exact ⟨rfl, rfl⟩
  | polygon ring =>
      rw [check, Ring.check_eq_error_iff]
      constructor
      · rintro (⟨rfl, rfl⟩ | ⟨-, unbounded, rfl⟩)
        · exact .polygonEmpty
        · exact .polygon unbounded
      · rintro (_ | _)
        · exact .inl ⟨rfl, rfl⟩
        · rename_i unbounded
          exact .inr ⟨Ring.ne_nil_of_someNotFinite unbounded, unbounded, rfl⟩
  | around radius ring inputSet =>
      rw [check, check_bind_eq_error_iff, Ring.check_eq_error_iff]
      constructor
      · rintro ((⟨rfl, rfl⟩ | ⟨nonempty, unbounded, rfl⟩) | ⟨checked, refused⟩)
        · exact .aroundEmpty
        · exact .around nonempty (someNotFinite_cons.mpr (.inr unbounded))
        · split at refused
          · cases refused
          · rename_i unbounded
            cases refused
            have complete := Ring.check_eq_ok_iff.mp checked
            exact .around complete.1
              (someNotFinite_cons.mpr (.inl (eq_false_of_ne_true unbounded)))
      · rintro (_ | _)
        · exact .inl (.inl ⟨rfl, rfl⟩)
        · rename_i nonempty unbounded
          by_cases inRing : SomeNotFinite ring.coordinates
          · exact .inl (.inr ⟨nonempty, inRing, rfl⟩)
          · have radius := (someNotFinite_cons.mp unbounded).resolve_right inRing
            refine .inr ⟨Ring.check_of_finite nonempty inRing, ?_⟩
            simp [radius]

/-- A condition is complete when it has no fault. -/
theorem FilterCondition.complete_iff_no_fault {condition : FilterCondition} :
    condition.Complete ↔ ∀ cause, ¬ condition.Fault cause := by
  rw [← check_eq_ok_iff, check_eq_ok_iff_no_cause]
  simp only [ne_eq, check_eq_error_iff]

end OverpassQuery

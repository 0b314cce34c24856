import OverpassQuery.Proofs.Filter.Faults

/-!
# Arguments of filters

Each maker of filters takes arguments of its own: edges of a box, ids, a ring, a ring with a radius.
It makes its filter from exactly the valid ones, and reports the fault of any others
(`ElementFilter.Decides`). A ring without positions is reported before numbers that are not finite,
and a number that is not finite is found wherever it stands.

The maker of a kind has the outcome of the maker of any condition, also where it does not check
at all (`ElementFilter.shortcut_eq_make`). A box that is a setting is checked as one that is a
filter (`Setting.boundingBox_eq_map`).
-/

set_option autoImplicit false

namespace OverpassQuery

/-! ## Valid arguments -/

theorem BoundingBox.forall_edges_iff {box : BoundingBox} :
    (∀ edge ∈ box.edges, edge.isFinite = true) ↔ (FilterCondition.boundingBox box).Complete := by
  simp [edges, FilterCondition.Complete]

theorem Ring.complete_iff_coordinates {ring : Ring} :
    ring.Complete ↔ ring ≠ [] ∧ ∀ number ∈ ring.coordinates, number.isFinite = true := by
  refine and_congr_right fun _ => ?_
  simp only [coordinates, List.forall_mem_flatMap, List.forall_mem_cons, List.not_mem_nil,
    false_implies, implies_true, and_true]

namespace FilterCondition

variable {cause : BuildError}

/-! ## Faults of a kind -/

theorem fault_boundingBox_iff {box : BoundingBox} :
    (boundingBox box).Fault cause ↔
      SomeNotFinite box.edges ∧ cause = .nonFinite .boundingBox := by
  constructor
  · rintro ⟨unbounded⟩
    exact ⟨unbounded, rfl⟩
  · rintro ⟨unbounded, rfl⟩
    exact .boundingBox unbounded

theorem fault_id_iff {ids : List Int} :
    (id ids).Fault cause ↔ ids = [] ∧ cause = .emptyIdList .id := by
  rw [← check_eq_error_iff]
  exact checkIds_eq_error_iff

theorem fault_area_iff {ids : List Int} :
    (area ids).Fault cause ↔ ids = [] ∧ cause = .emptyIdList .area := by
  rw [← check_eq_error_iff]
  exact checkIds_eq_error_iff

theorem fault_polygon_iff {ring : Ring} :
    (polygon ring).Fault cause ↔
      ring = [] ∧ cause = .emptyRing .polygon ∨
        ring ≠ [] ∧ SomeNotFinite ring.coordinates ∧ cause = .nonFinite .polygon := by
  rw [← check_eq_error_iff]
  exact Ring.check_eq_error_iff

theorem fault_around_iff {radius : Binary64} {ring : Ring} {inputSet : Option String} :
    (around radius ring inputSet).Fault cause ↔
      ring = [] ∧ cause = .emptyRing .around ∨
        ring ≠ [] ∧ SomeNotFinite (radius :: ring.coordinates) ∧ cause = .nonFinite .around := by
  constructor
  · rintro (_ | _)
    · exact .inl ⟨rfl, rfl⟩
    · rename_i nonempty unbounded
      exact .inr ⟨nonempty, unbounded, rfl⟩
  · rintro (⟨rfl, rfl⟩ | ⟨nonempty, unbounded, rfl⟩)
    · exact .aroundEmpty
    · exact .around nonempty unbounded

end FilterCondition

/-! ## Makers of filters -/

/-- The setting for a box is made from the clause of the filter for it. -/
theorem Setting.boundingBox_eq_map (box : BoundingBox) :
    Setting.boundingBox box
      = (ElementFilter.boundingBox box).map fun filter => ⟨.boundingBox, filter.clause, ""⟩ := by
  unfold Setting.boundingBox ElementFilter.boundingBox ElementFilter.make
  rw [FilterCondition.check]
  cases box.check with
  | error cause => rfl
  | ok checked => rfl

namespace ElementFilter

/-- The outcome is the filter of the condition where the arguments are valid, and their fault where
they are not. -/
structure Decides (outcome : Except BuildError ElementFilter) (condition : FilterCondition)
    (valid : Prop) (fault : BuildError → Prop) : Prop where
  made : ∀ filter, outcome = .ok filter ↔ valid ∧ filter = written condition
  refused : ∀ cause, outcome = .error cause ↔ fault cause

/-- The outcome of the maker that belongs to the kind of a condition. -/
def shortcut : FilterCondition → Except BuildError ElementFilter
  | .boundingBox box => boundingBox box
  | .recurse direction => .ok (recurse direction)
  | .id ids => ElementFilter.ids ids
  | .around radius ring inputSet => around radius ring inputSet
  | .polygon ring => polygon ring
  | .area ids => area ids

theorem shortcut_eq_make (condition : FilterCondition) : shortcut condition = make condition := by
  cases condition <;> rfl

theorem make_eq_error_iff {condition : FilterCondition} {cause : BuildError} :
    make condition = .error cause ↔ condition.Fault cause := by
  have written : (pure (.written condition) : Except BuildError ElementFilter) ≠ .error cause :=
    nofun
  rw [make, check_bind_eq_error_iff, FilterCondition.check_eq_error_iff]
  exact or_iff_left fun refused => written refused.2

/-- **Complete conditions are made, and others refused for their fault.** -/
theorem decides_make {condition : FilterCondition} {valid : Prop} {fault : BuildError → Prop}
    (complete : condition.Complete ↔ valid)
    (faulty : ∀ cause, condition.Fault cause ↔ fault cause) :
    Decides (make condition) condition valid fault where
  made filter := by rw [make_eq_ok_iff, FilterCondition.check_eq_ok_iff, complete]
  refused cause := make_eq_error_iff.trans (faulty cause)

/-- **Filters are made from exactly the valid arguments.** A box needs four finite edges, as a
filter and as a setting, and ids must be given. A ring must have positions, and then finite
coordinates, and around it a finite radius. Each maker has the outcome that its condition has in
general. -/
theorem made_of_valid_arguments :
    (∀ box : BoundingBox,
      Decides (boundingBox box) (.boundingBox box)
        (∀ edge ∈ [box.south, box.west, box.north, box.east], edge.isFinite = true)
        (fun cause => SomeNotFinite [box.south, box.west, box.north, box.east] ∧
          cause = .nonFinite .boundingBox) ∧
      Setting.boundingBox box
        = (boundingBox box).map fun filter => ⟨.boundingBox, filter.clause, ""⟩) ∧
    (∀ ids : List Int,
      Decides (ElementFilter.ids ids) (.id ids) (ids ≠ [])
        (fun cause => ids = [] ∧ cause = .emptyIdList .id) ∧
      Decides (area ids) (.area ids) (ids ≠ [])
        (fun cause => ids = [] ∧ cause = .emptyIdList .area)) ∧
    (∀ ring : Ring,
      Decides (polygon ring) (.polygon ring)
        (ring ≠ [] ∧ ∀ number ∈ ring.coordinates, number.isFinite = true)
        (fun cause => ring = [] ∧ cause = .emptyRing .polygon ∨
          ring ≠ [] ∧ SomeNotFinite ring.coordinates ∧ cause = .nonFinite .polygon) ∧
      ∀ radius inputSet,
        Decides (around radius ring inputSet) (.around radius ring inputSet)
          (ring ≠ [] ∧ ∀ number ∈ radius :: ring.coordinates, number.isFinite = true)
          (fun cause => ring = [] ∧ cause = .emptyRing .around ∨
            ring ≠ [] ∧ SomeNotFinite (radius :: ring.coordinates) ∧ cause = .nonFinite .around)) ∧
    ∀ condition, shortcut condition = make condition := by
  refine ⟨fun box => ⟨?_, Setting.boundingBox_eq_map box⟩, fun ids => ⟨?_, ?_⟩,
    fun ring => ⟨?_, fun radius inputSet => ?_⟩, shortcut_eq_make⟩
  · exact decides_make BoundingBox.forall_edges_iff.symm
      fun _ => FilterCondition.fault_boundingBox_iff
  · exact decides_make .rfl fun _ => FilterCondition.fault_id_iff
  · exact decides_make .rfl fun _ => FilterCondition.fault_area_iff
  · exact decides_make Ring.complete_iff_coordinates fun _ => FilterCondition.fault_polygon_iff
  · refine decides_make ?_ fun _ => FilterCondition.fault_around_iff
    rw [FilterCondition.Complete, Ring.complete_iff_coordinates, List.forall_mem_cons, and_assoc,
      and_comm (b := radius.isFinite = true)]

end ElementFilter

end OverpassQuery

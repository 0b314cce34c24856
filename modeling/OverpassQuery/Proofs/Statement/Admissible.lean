import OverpassQuery.Proofs.Statement.Reachable

/-!
# What a reachable statement may contain

The makers inspect only what they are given directly, and sequences accept
everything, so each of the following is a claim on whole trees.

No block lies below another, through any number of sequences. A block keeps the
result name it was made with, where an empty name stands for the default set
(`UnionStatement.GrownFrom.result_eq`). The condition of every filter is complete
and finite (`FilterCondition.check_eq_ok_iff`), and an output setting names a known
format, csv with options (`Setting.check_eq_ok_iff`).

`Statement.Admissible` collects these for one node. Every node of a reachable
statement is admissible (`Statement.Reachable.nodes_admissible`).
-/

set_option autoImplicit false

namespace OverpassQuery

/-! ## Checks, said without the checker -/

/-- All coordinates of a ring are finite, and there is at least one position. -/
def Ring.Complete (ring : Ring) : Prop :=
  ring ≠ [] ∧ ∀ point ∈ ring, point.longitude.isFinite ∧ point.latitude.isFinite

theorem Ring.check_eq_ok_iff {kind : FilterKind} {ring : Ring} :
    ring.check kind = .ok () ↔ ring.Complete := by
  have finite_iff : ring.isFinite = true ↔
      ∀ point ∈ ring, point.longitude.isFinite ∧ point.latitude.isFinite := by
    simp [Ring.isFinite]
  rw [Complete, ← finite_iff, check]
  by_cases empty : ring = []
  · simp [empty]
  · by_cases finite : ring.isFinite = true
    · simp [empty, finite]
    · simp [empty, finite]

namespace FilterCondition

/-- What a filter needs of its arguments. -/
def Complete : FilterCondition → Prop
  | .boundingBox box =>
      box.south.isFinite ∧ box.west.isFinite ∧ box.north.isFinite ∧ box.east.isFinite
  | .recurse _ => True
  | .id ids => ids ≠ []
  | .around radius ring _ => ring.Complete ∧ radius.isFinite
  | .polygon ring => ring.Complete
  | .area ids => ids ≠ []

theorem checkIds_eq_ok_iff {kind : FilterKind} {ids : List Int} :
    checkIds kind ids = .ok () ↔ ids ≠ [] := by
  unfold checkIds
  by_cases empty : ids = []
  · simp [empty]
  · simp [empty]

/-- **A condition passes the check when it is complete.** -/
theorem check_eq_ok_iff {condition : FilterCondition} :
    condition.check = .ok () ↔ condition.Complete := by
  cases condition with
  | boundingBox box => simp [check, BoundingBox.check, BoundingBox.isFinite, Complete, and_assoc]
  | recurse direction => simp [check, Complete]
  | id ids => exact checkIds_eq_ok_iff
  | around radius ring inputSet =>
      rw [check, check_bind_eq_ok_iff, Ring.check_eq_ok_iff, Complete]
      cases radius.isFinite with
      | true => simp
      | false => simp
  | polygon ring => exact Ring.check_eq_ok_iff
  | area ids => exact checkIds_eq_ok_iff

end FilterCondition

/-- A filter states a complete condition, and its clause is the text of it. -/
theorem ElementFilter.Reachable.complete {filter : ElementFilter}
    (reachable : filter.Reachable) :
    filter.condition.Complete ∧ filter.clause = filter.condition.clause := by
  obtain ⟨checked, written⟩ := reachable.eq_written
  exact ⟨FilterCondition.check_eq_ok_iff.mp checked, congrArg ElementFilter.clause written⟩

namespace Setting

/-- What an output setting needs: a known format, and options for csv. -/
def Admissible (setting : Setting) : Prop :=
  setting.key = .out →
    (setting.value = "xml" ∨ setting.value = "json" ∨ setting.value = "csv") ∧
      (setting.value = "csv" → setting.options ≠ "")

end Setting

theorem OutputFormat.ofName_eq_ok_iff {value : String} {format : OutputFormat} :
    OutputFormat.ofName value = .ok format ↔ value = format.name := by
  constructor
  · intro found
    unfold ofName at found
    split at found
    · rename_i result search
      cases found
      have named := List.find?_some search
      exact (of_decide_eq_true named).symm
    · cases found
  · rintro rfl
    cases format with
    | xml => rfl
    | json => rfl
    | csv => rfl

/-- **A setting passes the check when it is admissible.** -/
theorem Setting.check_eq_ok_iff {setting : Setting} :
    check setting.key setting.value setting.options = .ok () ↔ setting.Admissible := by
  unfold check Admissible
  by_cases output : setting.key = .out
  · simp only [output, if_true, true_implies]
    rw [bind_eq_ok_iff]
    constructor
    · rintro ⟨format, named, complete⟩
      rw [OutputFormat.ofName_eq_ok_iff] at named
      rw [named]
      cases format with
      | xml => simp [OutputFormat.name]
      | json => simp [OutputFormat.name]
      | csv =>
          refine ⟨.inr (.inr rfl), fun _ missing => ?_⟩
          simp [missing] at complete
    · rintro ⟨xml | json | csv, optioned⟩
      · exact ⟨.xml, OutputFormat.ofName_eq_ok_iff.mpr xml, by simp⟩
      · exact ⟨.json, OutputFormat.ofName_eq_ok_iff.mpr json, by simp⟩
      · exact ⟨.csv, OutputFormat.ofName_eq_ok_iff.mpr csv, by simp [optioned csv]⟩
  · simp [output]

/-! ## Result names -/

/-- The unions made under a name, after any members were offered to them. -/
inductive UnionStatement.GrownFrom (name : String) : UnionStatement → Prop where
  | make {members : List Statement} {block : UnionStatement}
      (made : UnionStatement.make name members = .ok block) : GrownFrom name block
  | extended {block : UnionStatement} (grown : GrownFrom name block)
      (members : List Statement) : GrownFrom name (block.extended members).2

/-- A union keeps the result name it was made with. -/
theorem UnionStatement.GrownFrom.result_eq {name : String} {block : UnionStatement}
    (grown : GrownFrom name block) : block.result = Statement.resultName name := by
  induction grown with
  | make made =>
      obtain ⟨_, rfl⟩ := UnionStatement.make_eq_ok_iff.mp made
      rfl
  | @extended block grown members kept =>
      cases found : Statement.firstBlockOf? members with
      | none =>
          rw [UnionStatement.extended_of_flat block found]
          exact kept
      | some inner =>
          rw [UnionStatement.extended_of_block block found]
          exact kept

theorem DifferenceStatement.result_of_make {name : String} {first second : Statement}
    {block : DifferenceStatement} (made : DifferenceStatement.make name first second = .ok block) :
    block.result = Statement.resultName name := by
  obtain ⟨_, rfl⟩ := DifferenceStatement.make_eq_ok_iff.mp made
  rfl

namespace Statement

/-! ## Nesting -/

/-- Whether a statement is a union or a difference. -/
def isBlock : Statement → Bool
  | .union _ => true
  | .difference _ => true
  | _ => false

theorem firstBlockOf?_eq_none_iff {statements : List Statement} :
    firstBlockOf? statements = none ↔ ∀ statement ∈ statements, firstBlock? statement = none := by
  induction statements with
  | nil => simp [firstBlockOf?]
  | cons statement rest ih =>
      rw [firstBlockOf?, List.forall_mem_cons, ← ih]
      cases firstBlock? statement with
      | none => simp
      | some block => simp

/-- No node of a statement without blocks is a block. -/
theorem isBlock_eq_false_of_mem_nodes {statement : Statement}
    (flat : firstBlock? statement = none) : ∀ node ∈ statement.nodes, node.isBlock = false := by
  have inherited : ∀ node : Statement, firstBlock? node = none →
      ∀ child ∈ node.children, firstBlock? child = none := by
    intro node flat
    cases node with
    | sequence block => exact firstBlockOf?_eq_none_iff.mp flat
    | _ => simp_all [firstBlock?, children]
  intro node occurs
  have nodeFlat := forall_nodes inherited statement flat node occurs
  cases node with
  | union block => simp [firstBlock?] at nodeFlat
  | difference block => simp [firstBlock?] at nodeFlat
  | _ => rfl

/-- **No block lies below a block.** -/
theorem WellFormed.no_block_below {statement : Statement} (formed : statement.WellFormed)
    (block : statement.isBlock = true) :
    ∀ child ∈ statement.children, ∀ inner ∈ child.nodes, inner.isBlock = false := by
  intro child held
  refine isBlock_eq_false_of_mem_nodes ?_
  cases formed with
  | union _ flat _ => exact firstBlockOf?_eq_none_iff.mp flat child held
  | difference _ flat _ _ => exact firstBlockOf?_eq_none_iff.mp flat child held
  | _ => simp [isBlock] at block

/-! ## Admissible nodes -/

/-- What holds of every node, at any depth. -/
structure Admissible (node : Statement) : Prop where
  /-- Nothing below a block is a block. -/
  flat : node.isBlock = true →
    ∀ child ∈ node.children, ∀ inner ∈ child.nodes, inner.isBlock = false
  /-- A union was made under some name, and whatever it was offered since, its result has
  the name it was made under. -/
  unionNamed : ∀ block, node = .union block →
    block.result ≠ "" ∧ (∃ name, UnionStatement.GrownFrom name block) ∧
      ∀ name, UnionStatement.GrownFrom name block →
        block.result = if name = "" then "_" else name
  /-- A difference has the name it was made under. -/
  differenceNamed : ∀ block, node = .difference block →
    block.result ≠ "" ∧
      (∃ name, DifferenceStatement.make name block.first block.second = .ok block) ∧
      ∀ name, DifferenceStatement.make name block.first block.second = .ok block →
        block.result = if name = "" then "_" else name
  /-- The condition of a filter is complete, and the filter's clause is its text. -/
  filterComplete : ∀ selection, node = .element selection →
    ∀ filter ∈ selection.filter,
      filter.condition.Complete ∧ filter.clause = filter.condition.clause
  settingsAdmissible : ∀ block, node = .settings block →
    ∀ setting ∈ block.settings, setting.Admissible

theorem WellFormed.admissible {node : Statement} (formed : node.WellFormed) :
    node.Admissible where
  flat block := formed.no_block_below block
  unionNamed := by
    rintro block rfl
    cases formed with
    | @union result _ named flat _ =>
        exact ⟨named, ⟨result, .make (UnionStatement.make_of_flat named flat)⟩,
          fun _ grown => grown.result_eq⟩
  differenceNamed := by
    rintro block rfl
    cases formed with
    | @difference result _ _ named flat _ _ =>
        exact ⟨named, ⟨result, DifferenceStatement.make_of_flat named flat⟩,
          fun _ made => DifferenceStatement.result_of_make made⟩
  filterComplete := by
    rintro selection rfl filter attached
    cases formed with
    | element _ _ filtered => exact (filtered filter attached).complete
  settingsAdmissible := by
    rintro block rfl setting held
    cases formed with
    | settings made => exact Setting.check_eq_ok_iff.mp (made setting held).check

/-- **Every node of a reachable statement is admissible.** -/
theorem Reachable.nodes_admissible {statement : Statement} (reachable : statement.Reachable) :
    ∀ node ∈ statement.nodes, node.Admissible :=
  fun node occurs => (reachable.wellFormed.of_mem_nodes node occurs).admissible

/-- A query whose nodes are of every kind that the makers check: an output in csv, a
selection by id, and a union with a history. -/
def mixedQuery : Sequence :=
  (Sequence.ofList [.settings (.make [⟨.out, "csv", "(::id)"⟩]),
    .element (.make .node [] (some (.written (.id [7]))))]).append [.union grownUnion]

theorem mixedQuery_reachable : (Statement.sequence mixedQuery).Reachable := by
  have printed : Setting.Reachable ⟨.out, "csv", "(::id)"⟩ :=
    .make (show Setting.make .out "csv" (some "(::id)") = .ok _ from rfl)
  have selected : ElementFilter.Reachable (.written (.id [7])) :=
    .make (show ElementFilter.ids [7] = .ok _ from rfl)
  refine .sequenceAppended (.sequence ?_) (List.forall_mem_singleton.mpr grownUnion_reachable)
  refine List.forall_mem_cons.mpr ⟨?_, List.forall_mem_singleton.mpr ?_⟩
  · exact .settings (List.forall_mem_singleton.mpr printed)
  · refine .element _ _ ?_
    rintro attached ⟨⟩
    exact selected

theorem mixedQuery_admissible :
    (Statement.sequence mixedQuery).Reachable ∧
      ∀ node ∈ (Statement.sequence mixedQuery).nodes, node.Admissible :=
  ⟨mixedQuery_reachable, Reachable.nodes_admissible mixedQuery_reachable⟩

end Statement

end OverpassQuery

import OverpassQuery.Preset.Query
import OverpassQuery.Proofs.State.Outcomes
import OverpassQuery.Statement.Render

/-!
# Statements that can be reached

A statement is reachable when it comes from the library's own makers: leaves,
blocks and sequences of reachable statements, unions and sequences after any
further members have been offered to them, and the queries for street networks
(`Statement.Reachable`). A union that has refused further members is reachable
too, as it is after the refusal.

A statement is well formed when it is written from its parts and its parts pass
the checks of its maker (`Statement.WellFormed`). This says nothing of how the
statement came about: appending and the preset queries are not mentioned. The
two agree (`Statement.reachable_iff_wellFormed`), so whatever holds of the
well-formed statements, by induction on their parts, holds after every history.

The nodes of a statement are the statement itself and all that lies below it
(`Statement.nodes`). The nodes of a well-formed statement are well formed.
-/

set_option autoImplicit false

namespace OverpassQuery

namespace ElementFilter

/-- The filters that the library makes. The makers of single kinds are `make` at a
condition of that kind, memberships apart. -/
inductive Reachable : ElementFilter → Prop where
  | make {condition : FilterCondition} {filter : ElementFilter}
      (made : ElementFilter.make condition = .ok filter) : Reachable filter
  | recurse (direction : MemberRecursion) : Reachable (.recurse direction)

theorem make_eq_ok_iff {condition : FilterCondition} {filter : ElementFilter} :
    make condition = .ok filter ↔ condition.check = .ok () ∧ filter = written condition :=
  checked_eq_ok_iff

/-- A reachable filter is written from its condition, which passes the check. -/
theorem Reachable.eq_written {filter : ElementFilter} (reachable : filter.Reachable) :
    filter.condition.check = .ok () ∧ filter = written filter.condition := by
  cases reachable with
  | make made =>
      obtain ⟨checked, rfl⟩ := make_eq_ok_iff.mp made
      exact ⟨checked, rfl⟩
  | recurse direction => exact ⟨rfl, rfl⟩

end ElementFilter

namespace Setting

/-- The settings that the library makes. The maker of output formats is `make` at the
output key. -/
inductive Reachable : Setting → Prop where
  | make {key : SettingKey} {value : String} {options : Option String} {setting : Setting}
      (made : Setting.make key value options = .ok setting) : Reachable setting
  | timeout (seconds : Nat) : Reachable (.timeout seconds)
  | maxsize (bytes : Nat) : Reachable (.maxsize bytes)
  | boundingBox {box : BoundingBox} {setting : Setting}
      (made : Setting.boundingBox box = .ok setting) : Reachable setting
  | date {time : Timestamp} {setting : Setting} (made : date? time = some setting) :
      Reachable setting
  | diff {start : Timestamp} {stop : Option Timestamp} {setting : Setting}
      (made : diff? start stop = some setting) : Reachable setting

theorem make_eq_ok_iff {key : SettingKey} {value : String} {options : Option String}
    {setting : Setting} :
    make key value options = .ok setting ↔
      check key value (options.getD "") = .ok () ∧ setting = ⟨key, value, options.getD ""⟩ :=
  checked_eq_ok_iff

theorem boundingBox_eq_ok_iff {box : BoundingBox} {setting : Setting} :
    boundingBox box = .ok setting ↔
      box.check = .ok () ∧ setting = ⟨.boundingBox, box.clause, ""⟩ :=
  checked_eq_ok_iff

theorem key_of_diff? {start : Timestamp} {stop : Option Timestamp} {setting : Setting}
    (made : diff? start stop = some setting) : setting.key = .diff := by
  cases stop with
  | none =>
      obtain ⟨first, _, equal⟩ := Option.bind_eq_some_iff.mp made
      exact (Option.some.inj equal) ▸ rfl
  | some stop =>
      obtain ⟨first, _, rest⟩ := Option.bind_eq_some_iff.mp made
      obtain ⟨second, _, equal⟩ := Option.bind_eq_some_iff.mp rest
      exact (Option.some.inj equal) ▸ rfl

/-- Only the output key is checked, and its makers check it. -/
theorem Reachable.check {setting : Setting} (reachable : setting.Reachable) :
    Setting.check setting.key setting.value setting.options = .ok () := by
  cases reachable with
  | make made =>
      obtain ⟨checked, rfl⟩ := make_eq_ok_iff.mp made
      exact checked
  | timeout seconds => rfl
  | maxsize bytes => rfl
  | boundingBox made =>
      obtain ⟨_, rfl⟩ := boundingBox_eq_ok_iff.mp made
      rfl
  | date made =>
      obtain ⟨value, _, rfl⟩ := Option.map_eq_some_iff.mp made
      rfl
  | diff made => simp only [Setting.check, key_of_diff? made, reduceCtorEq, if_false]

end Setting

namespace Statement

/-! ## Making blocks -/

theorem checkMembers_eq_ok_iff (outer : Block) {members : List Statement} :
    checkMembers outer members = .ok () ↔ firstBlockOf? members = none := by
  unfold checkMembers
  cases firstBlockOf? members with
  | none => simp
  | some inner => simp

theorem firstBlockOf?_append (first second : List Statement) :
    firstBlockOf? (first ++ second) = (firstBlockOf? first).or (firstBlockOf? second) := by
  induction first with
  | nil => simp [firstBlockOf?]
  | cons statement rest ih =>
      simp only [List.cons_append, firstBlockOf?, ih]
      cases firstBlock? statement with
      | none => rfl
      | some block => rfl

theorem resultName_ne_empty (name : String) : resultName name ≠ "" := by
  unfold resultName
  split
  · decide
  · assumption

theorem resultName_of_ne_empty {name : String} (given : name ≠ "") : resultName name = name :=
  if_neg given

end Statement

namespace UnionStatement

theorem make_eq_ok_iff {result : String} {members : List Statement} {block : UnionStatement} :
    make result members = .ok block ↔
      Statement.firstBlockOf? members = none ∧
        block = written (Statement.resultName result) members := by
  rw [← Statement.checkMembers_eq_ok_iff .union]
  exact checked_eq_ok_iff

theorem make_of_flat {result : String} {members : List Statement} (named : result ≠ "")
    (flat : Statement.firstBlockOf? members = none) :
    make result members = .ok (written result members) := by
  rw [make_eq_ok_iff, Statement.resultName_of_ne_empty named]
  exact ⟨flat, rfl⟩

/-- Accepted members are written into the union. -/
theorem extended_of_flat (union : UnionStatement) {members : List Statement}
    (flat : Statement.firstBlockOf? members = none) :
    union.extended members = (.ok (), written union.result (union.members ++ members)) := by
  rw [← Statement.checkMembers_eq_ok_iff .union] at flat
  simp only [extended, extend, flat]
  rfl

/-- A refusal leaves the union as it was. -/
theorem extended_of_block (union : UnionStatement) {members : List Statement} {inner : Block}
    (found : Statement.firstBlockOf? members = some inner) :
    union.extended members = (.error (.invalidNesting .union inner), union) := by
  have refused : Statement.checkMembers .union members
      = .error (.invalidNesting .union inner) := by
    simp only [Statement.checkMembers, found]
  simp only [extended, extend, refused]
  rfl

theorem append_eq_ok_iff {union grown : UnionStatement} {members : List Statement} :
    union.append members = .ok grown ↔
      Statement.firstBlockOf? members = none ∧
        grown = written union.result (union.members ++ members) := by
  cases found : Statement.firstBlockOf? members with
  | none =>
      simp only [append, extended_of_flat union found, Except.map, Except.ok.injEq, true_and]
      exact eq_comm
  | some inner =>
      simp [append, extended_of_block union found, Except.map]

end UnionStatement

namespace DifferenceStatement

theorem make_eq_ok_iff {result : String} {first second : Statement}
    {block : DifferenceStatement} :
    make result first second = .ok block ↔
      Statement.firstBlockOf? [first, second] = none ∧
        block = written (Statement.resultName result) first second := by
  rw [← Statement.checkMembers_eq_ok_iff .difference]
  exact checked_eq_ok_iff

theorem make_of_flat {result : String} {first second : Statement} (named : result ≠ "")
    (flat : Statement.firstBlockOf? [first, second] = none) :
    make result first second = .ok (written result first second) := by
  rw [make_eq_ok_iff, Statement.resultName_of_ne_empty named]
  exact ⟨flat, rfl⟩

end DifferenceStatement

namespace Statement

/-! ## Reachable and well-formed statements -/

/-- The statements that the library makes. Members and statements that are offered later
are reachable themselves, so copies of what was made before may occur at any depth. -/
inductive Reachable : Statement → Prop where
  | element (elementType : ElementType) (predicates : List TagPredicate)
      {filter : Option ElementFilter} (filtered : ∀ attached ∈ filter, attached.Reachable) :
      Reachable (.element (.make elementType predicates filter))
  | setReference (name : String) : Reachable (.setReference (.make name))
  | out (verbosity : Verbosity) : Reachable (.out (.make verbosity))
  | recurse (direction : RecurseDirection) : Reachable (.recurse (.make direction))
  | settings {settings : List Setting} (made : ∀ setting ∈ settings, setting.Reachable) :
      Reachable (.settings (.make settings))
  | union {result : String} {members : List Statement} {block : UnionStatement}
      (reachable : ∀ member ∈ members, Reachable member)
      (made : UnionStatement.make result members = .ok block) : Reachable (.union block)
  /-- A union after it was offered members, which it may have refused. -/
  | unionExtended {block : UnionStatement} {members : List Statement}
      (before : Reachable (.union block)) (reachable : ∀ member ∈ members, Reachable member) :
      Reachable (.union (block.extended members).2)
  | difference {result : String} {first second : Statement} {block : DifferenceStatement}
      (firstReachable : Reachable first) (secondReachable : Reachable second)
      (made : DifferenceStatement.make result first second = .ok block) :
      Reachable (.difference block)
  | sequence {statements : List Statement}
      (reachable : ∀ statement ∈ statements, Reachable statement) :
      Reachable (.sequence (Sequence.ofList statements))
  | emptySequence : Reachable (.sequence Sequence.empty)
  | sequenceAppended {sequence : Sequence} {statements : List Statement}
      (before : Reachable (.sequence sequence))
      (reachable : ∀ statement ∈ statements, Reachable statement) :
      Reachable (.sequence (sequence.append statements))
  /-- The query for a street network in an area, whatever the geocoder answers. -/
  | preset {query : PresetQuery} {area : QueryArea} {geocoder : Geocoder Id}
      {sequence : Sequence} (built : (query.build area geocoder).run = .ok sequence) :
      Reachable (.sequence sequence)

/-- The statements that are written from parts that pass the checks. -/
inductive WellFormed : Statement → Prop where
  | element (elementType : ElementType) (predicates : List TagPredicate)
      {filter : Option ElementFilter} (filtered : ∀ attached ∈ filter, attached.Reachable) :
      WellFormed (.element (.make elementType predicates filter))
  | setReference (name : String) : WellFormed (.setReference (.make name))
  | out (verbosity : Verbosity) : WellFormed (.out (.make verbosity))
  | recurse (direction : RecurseDirection) : WellFormed (.recurse (.make direction))
  | settings {settings : List Setting} (made : ∀ setting ∈ settings, setting.Reachable) :
      WellFormed (.settings (.make settings))
  | union {result : String} {members : List Statement} (named : result ≠ "")
      (flat : firstBlockOf? members = none) (formed : ∀ member ∈ members, WellFormed member) :
      WellFormed (.union (UnionStatement.written result members))
  | difference {result : String} {first second : Statement} (named : result ≠ "")
      (flat : firstBlockOf? [first, second] = none) (firstFormed : WellFormed first)
      (secondFormed : WellFormed second) :
      WellFormed (.difference (DifferenceStatement.written result first second))
  | sequence {statements : List Statement}
      (formed : ∀ statement ∈ statements, WellFormed statement) :
      WellFormed (.sequence (Sequence.ofList statements))

/-! ## Every maker keeps statements well formed -/

theorem WellFormed.union_make {result : String} {members : List Statement}
    {block : UnionStatement} (formed : ∀ member ∈ members, WellFormed member)
    (made : UnionStatement.make result members = .ok block) : WellFormed (.union block) := by
  obtain ⟨flat, rfl⟩ := UnionStatement.make_eq_ok_iff.mp made
  exact .union (resultName_ne_empty result) flat formed

/-- Offering well-formed members to a well-formed union leaves it well formed, whether it
takes them or not. -/
theorem WellFormed.union_extended {block : UnionStatement} {members : List Statement}
    (before : WellFormed (.union block)) (formed : ∀ member ∈ members, WellFormed member) :
    WellFormed (.union (block.extended members).2) := by
  cases found : firstBlockOf? members with
  | some inner =>
      rw [UnionStatement.extended_of_block block found]
      exact before
  | none =>
      rw [UnionStatement.extended_of_flat block found]
      cases before with
      | @union result before named flat held =>
          have stillFlat : firstBlockOf? (before ++ members) = none := by
            rw [firstBlockOf?_append, flat, found, Option.or_none]
          exact .union named stillFlat (List.forall_mem_append.mpr ⟨held, formed⟩)

theorem WellFormed.union_append {block grown : UnionStatement} {members : List Statement}
    (before : WellFormed (.union block)) (formed : ∀ member ∈ members, WellFormed member)
    (taken : block.append members = .ok grown) : WellFormed (.union grown) := by
  obtain ⟨flat, rfl⟩ := UnionStatement.append_eq_ok_iff.mp taken
  have extended := before.union_extended formed
  rwa [UnionStatement.extended_of_flat block flat] at extended

theorem WellFormed.difference_make {result : String} {first second : Statement}
    {block : DifferenceStatement} (firstFormed : WellFormed first)
    (secondFormed : WellFormed second)
    (made : DifferenceStatement.make result first second = .ok block) :
    WellFormed (.difference block) := by
  obtain ⟨flat, rfl⟩ := DifferenceStatement.make_eq_ok_iff.mp made
  exact .difference (resultName_ne_empty result) flat firstFormed secondFormed

theorem WellFormed.sequence_append {sequence : Sequence} {statements : List Statement}
    (before : WellFormed (.sequence sequence))
    (formed : ∀ statement ∈ statements, WellFormed statement) :
    WellFormed (.sequence (sequence.append statements)) := by
  cases before with
  | sequence held => exact .sequence (List.forall_mem_append.mpr ⟨held, formed⟩)

end Statement

/-! ## The queries for street networks -/

namespace PresetQuery

open Statement

theorem selection_wellFormed (query : PresetQuery) {filter : ElementFilter}
    (reachable : filter.Reachable) : ∀ member ∈ query.selection filter, WellFormed member := by
  have filtered : ∀ attached ∈ some filter, attached.Reachable := by
    rintro attached ⟨⟩
    exact reachable
  simp only [selection, List.mem_cons, List.not_mem_nil, or_false]
  rintro member (rfl | rfl | rfl | rfl)
  · exact .element _ _ filtered
  · exact .recurse _
  · exact .element _ _ filtered
  · exact .recurse _

theorem finish_wellFormed (query : PresetQuery) {settings : List Setting}
    {union : UnionStatement} (made : ∀ setting ∈ settings, setting.Reachable)
    (formed : WellFormed (.union union)) :
    WellFormed (.sequence (query.finish settings union)) := by
  have printed : WellFormed (.sequence (Sequence.ofList
      [.settings (.make settings), .union union, .out (.make (.detail .body false))])) := by
    refine .sequence ?_
    simp only [List.mem_cons, List.not_mem_nil, or_false]
    rintro statement (rfl | rfl | rfl)
    · exact .settings made
    · exact formed
    · exact .out _
  unfold finish
  split
  · refine printed.sequence_append ?_
    simp only [List.mem_cons, List.not_mem_nil, or_false]
    rintro statement rfl
    exact .out _
  · exact printed

theorem byBoundingBox_wellFormed (query : PresetQuery) {box : BoundingBox}
    {sequence : Sequence} (built : query.byBoundingBox box = .ok sequence) :
    WellFormed (.sequence sequence) := by
  obtain ⟨filter, filterMade, built⟩ := bind_eq_ok_iff.mp built
  obtain ⟨output, outputMade, built⟩ := bind_eq_ok_iff.mp built
  obtain ⟨setting, settingMade, built⟩ := bind_eq_ok_iff.mp built
  obtain ⟨union, unionMade, built⟩ := bind_eq_ok_iff.mp built
  cases built
  refine query.finish_wellFormed ?_
    (.union_make (query.selection_wellFormed (.make filterMade)) unionMade)
  simp only [List.mem_cons, List.not_mem_nil, or_false]
  rintro made (rfl | rfl)
  · exact .make outputMade
  · exact .boundingBox settingMade

theorem byRadius_wellFormed (query : PresetQuery) {radius : Binary64} {center : Point}
    {sequence : Sequence} (built : query.byRadius radius center = .ok sequence) :
    WellFormed (.sequence sequence) := by
  obtain ⟨filter, filterMade, built⟩ := bind_eq_ok_iff.mp built
  obtain ⟨output, outputMade, built⟩ := bind_eq_ok_iff.mp built
  obtain ⟨union, unionMade, built⟩ := bind_eq_ok_iff.mp built
  cases built
  refine query.finish_wellFormed ?_
    (.union_make (query.selection_wellFormed (.make filterMade)) unionMade)
  simp only [List.mem_cons, List.not_mem_nil, or_false]
  rintro made rfl
  exact .make outputMade

theorem appendRing_wellFormed (query : PresetQuery) {union grown : UnionStatement} {ring : Ring}
    (before : WellFormed (.union union)) (taken : query.appendRing union ring = .ok grown) :
    WellFormed (.union grown) := by
  obtain ⟨filter, filterMade, taken⟩ := bind_eq_ok_iff.mp taken
  exact before.union_append (query.selection_wellFormed (.make filterMade)) taken

theorem appendRings_wellFormed (query : PresetQuery) (rings : List Ring) :
    ∀ {union grown : UnionStatement}, WellFormed (.union union) →
      rings.foldlM query.appendRing union = .ok grown → WellFormed (.union grown) := by
  induction rings with
  | nil =>
      intro union grown before taken
      cases taken
      exact before
  | cons ring rest ih =>
      intro union grown before taken
      rw [List.foldlM_cons] at taken
      obtain ⟨middle, first, taken⟩ := bind_eq_ok_iff.mp taken
      exact ih (query.appendRing_wellFormed before first) taken

theorem byPolygon_wellFormed (query : PresetQuery) {rings : List Ring} {sequence : Sequence}
    (built : query.byPolygon rings = .ok sequence) : WellFormed (.sequence sequence) := by
  obtain ⟨output, outputMade, built⟩ := bind_eq_ok_iff.mp built
  obtain ⟨empty, emptyMade, built⟩ := bind_eq_ok_iff.mp built
  obtain ⟨union, appended, built⟩ := bind_eq_ok_iff.mp built
  cases built
  refine query.finish_wellFormed ?_ (query.appendRings_wellFormed rings
    (.union_make (by simp) emptyMade) appended)
  simp only [List.mem_cons, List.not_mem_nil, or_false]
  rintro made rfl
  exact .make outputMade

theorem build_wellFormed (query : PresetQuery) {area : QueryArea} {geocoder : Geocoder Id}
    {sequence : Sequence} (built : (query.build area geocoder).run = .ok sequence) :
    WellFormed (.sequence sequence) := by
  cases area with
  | boundingBox box => exact query.byBoundingBox_wellFormed (mapError_eq_ok_iff.mp built)
  | radius radius center => exact query.byRadius_wellFormed (mapError_eq_ok_iff.mp built)
  | polygon rings => exact query.byPolygon_wellFormed (mapError_eq_ok_iff.mp built)
  | place name =>
      simp only [build, Id.run, bind, pure] at built
      split at built
      · cases built
      · exact query.byPolygon_wellFormed (mapError_eq_ok_iff.mp built)

end PresetQuery

namespace Statement

/-- **Every history ends in a well-formed statement.** -/
theorem Reachable.wellFormed {statement : Statement} (reachable : statement.Reachable) :
    statement.WellFormed := by
  induction reachable with
  | element elementType predicates filtered => exact .element elementType predicates filtered
  | setReference name => exact .setReference name
  | out verbosity => exact .out verbosity
  | recurse direction => exact .recurse direction
  | settings made => exact .settings made
  | union _ made formed => exact .union_make formed made
  | unionExtended _ _ before formed => exact before.union_extended formed
  | difference _ _ made firstFormed secondFormed =>
      exact .difference_make firstFormed secondFormed made
  | sequence _ formed => exact .sequence formed
  | emptySequence => exact .sequence (fun _ occurs => nomatch occurs)
  | sequenceAppended _ _ before formed => exact before.sequence_append formed
  | preset built => exact PresetQuery.build_wellFormed _ built

/-- A well-formed statement can be made at once, without appending. -/
theorem WellFormed.reachable {statement : Statement} (formed : statement.WellFormed) :
    statement.Reachable := by
  induction formed with
  | element elementType predicates filtered => exact .element elementType predicates filtered
  | setReference name => exact .setReference name
  | out verbosity => exact .out verbosity
  | recurse direction => exact .recurse direction
  | settings made => exact .settings made
  | union named flat _ reachable => exact .union reachable (UnionStatement.make_of_flat named flat)
  | difference named flat _ _ firstReachable secondReachable =>
      exact .difference firstReachable secondReachable
        (DifferenceStatement.make_of_flat named flat)
  | sequence _ reachable => exact .sequence reachable

/-- **The reachable statements are the well-formed ones.** -/
theorem reachable_iff_wellFormed {statement : Statement} :
    statement.Reachable ↔ statement.WellFormed :=
  ⟨Reachable.wellFormed, WellFormed.reachable⟩

/-- A history: a union of one instruction refuses to hold a union and takes another
instruction. -/
def grownUnion : UnionStatement :=
  let roads := UnionStatement.written "roads" [.recurse (.make .down)]
  ((roads.extended [.union roads]).2.extended [.out (.make .count)]).2

example : grownUnion.text = "(<;out count;)->.roads;" := by decide +kernel

theorem grownUnion_reachable : (Statement.union grownUnion).Reachable := by
  have roads : (Statement.union
      (UnionStatement.written "roads" [.recurse (.make .down)])).Reachable :=
    (WellFormed.union (by decide) rfl
      (List.forall_mem_singleton.mpr (.recurse .down))).reachable
  have refused := roads.unionExtended (List.forall_mem_singleton.mpr roads)
  exact refused.unionExtended (List.forall_mem_singleton.mpr (.out .count))

/-! ## Nodes -/

/-- The statements that a statement holds directly. -/
def children : Statement → List Statement
  | .union block => block.members
  | .difference block => [block.first, block.second]
  | .sequence block => block.statements
  | _ => []

mutual

/-- A statement and all that lies below it. -/
def nodes : Statement → List Statement
  | .union ⟨result, members, text⟩ => .union ⟨result, members, text⟩ :: nodesOfAll members
  | .difference ⟨result, first, second, text⟩ =>
      .difference ⟨result, first, second, text⟩ :: (nodes first ++ nodes second)
  | .sequence ⟨statements, text⟩ => .sequence ⟨statements, text⟩ :: nodesOfAll statements
  | statement => [statement]

/-- The statements of a list and all that lies below them. -/
def nodesOfAll : List Statement → List Statement
  | [] => []
  | statement :: rest => nodes statement ++ nodesOfAll rest

end

theorem nodesOfAll_eq (statements : List Statement) :
    nodesOfAll statements = statements.flatMap nodes := by
  induction statements with
  | nil => rfl
  | cons statement rest ih => rw [nodesOfAll, ih, List.flatMap_cons]

/-- The nodes of a statement are itself and the nodes of what it holds. -/
theorem nodes_eq (statement : Statement) :
    statement.nodes = statement :: statement.children.flatMap nodes := by
  cases statement with
  | union block => simp only [nodes, children, nodesOfAll_eq]
  | difference block => simp [nodes, children]
  | sequence block => simp only [nodes, children, nodesOfAll_eq]
  | _ => simp [nodes, children]

theorem mem_nodes_iff {node statement : Statement} :
    node ∈ statement.nodes ↔
      node = statement ∨ ∃ child ∈ statement.children, node ∈ child.nodes := by
  rw [nodes_eq, List.mem_cons, List.mem_flatMap]

mutual

/-- Induction on trees: a property that passes from the statements held to the holder
holds of every statement. -/
theorem of_children {property : Statement → Prop}
    (holder : ∀ statement, (∀ child ∈ statement.children, property child) → property statement) :
    ∀ statement, property statement
  | .union ⟨_, members, _⟩ => holder _ (of_children_all holder members)
  | .difference ⟨_, first, second, _⟩ =>
      holder _ (List.forall_mem_cons.mpr ⟨of_children holder first,
        List.forall_mem_singleton.mpr (of_children holder second)⟩)
  | .sequence ⟨statements, _⟩ => holder _ (of_children_all holder statements)
  | .element _ | .setReference _ | .out _ | .recurse _ | .settings _ =>
      holder _ fun _ occurs => nomatch occurs

theorem of_children_all {property : Statement → Prop}
    (holder : ∀ statement, (∀ child ∈ statement.children, property child) → property statement) :
    ∀ statements : List Statement, ∀ statement ∈ statements, property statement
  | [] => fun _ occurs => nomatch occurs
  | first :: rest =>
      List.forall_mem_cons.mpr ⟨of_children holder first, of_children_all holder rest⟩

end

/-- A property that passes from a statement to those it holds passes to all its nodes. -/
theorem forall_nodes {property : Statement → Prop}
    (inherited : ∀ statement, property statement → ∀ child ∈ statement.children, property child)
    (statement : Statement) : property statement → ∀ node ∈ statement.nodes, property node := by
  induction statement using of_children with
  | holder statement ih =>
      intro holds node occurs
      rcases mem_nodes_iff.mp occurs with rfl | ⟨child, held, occurs⟩
      · exact holds
      · exact ih child held (inherited statement holds child held) node occurs

theorem WellFormed.of_mem_children {statement : Statement} (formed : statement.WellFormed) :
    ∀ child ∈ statement.children, child.WellFormed := by
  cases formed with
  | union _ _ held => exact held
  | difference _ _ first second =>
      simp only [children, DifferenceStatement.written, List.mem_cons, List.not_mem_nil, or_false]
      rintro child (rfl | rfl)
      · exact first
      · exact second
  | sequence held => exact held
  | _ => exact fun _ occurs => nomatch occurs

/-- **The nodes of a well-formed statement are well formed.** -/
theorem WellFormed.of_mem_nodes {statement : Statement} (formed : statement.WellFormed) :
    ∀ node ∈ statement.nodes, node.WellFormed :=
  forall_nodes (fun _ => WellFormed.of_mem_children) statement formed

end Statement

end OverpassQuery

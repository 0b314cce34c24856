import OverpassQuery.Proofs.Filter.ReadBack
import OverpassQuery.Statement.Equality

/-!
# Equality of statements that are made by the library

Two statements are compared field by field, the numbers in their filters numerically
(`Statement.sameAs`). That is no identity of numbers: a value that is no number equals nothing,
and the two zeros are equal.

Reachable statements are equal only if they are the same, all the same. What is no number never
gets into a filter, so a filter equals itself (`FilterCondition.sameAs_self`). The clause that is
stored beside a condition tells the zeros apart, since a complete condition is read back from its
clause. Any name may stand in the clause of an `around`; there the names are compared first, and
what follows them has to agree (`FilterCondition.eq_of_clause_eq_of_inputSet?_eq`).

From filters this is carried to trees by induction (`Statement.WellFormed.sameAs_iff_eq`).

Equal statements have the same text, whether they are reachable or not, and so have holders of
them that do not differ otherwise (`Statement.Exchanged.text_eq`).
-/

set_option autoImplicit false

namespace OverpassQuery

/-! ## Numbers, rings and boxes -/

theorem Binary64.numericallyEqual_self {number : Binary64} (finite : number.isFinite = true) :
    number.numericallyEqual number = true := by
  cases number with
  | finite negative rank => simp [numericallyEqual]
  | infinite negative => simp [isFinite] at finite
  | notANumber => simp [isFinite] at finite

theorem Ring.sameAs_self {ring : Ring}
    (finite : ∀ point ∈ ring, point.longitude.isFinite ∧ point.latitude.isFinite) :
    ring.sameAs ring = true := by
  induction ring with
  | nil => rfl
  | cons point ring ih =>
      rw [List.forall_mem_cons] at finite
      obtain ⟨⟨longitude, latitude⟩, others⟩ := finite
      simp [sameAs, Point.sameAs, Binary64.numericallyEqual_self longitude,
        Binary64.numericallyEqual_self latitude, ih others]

/-! ## Filters -/

namespace FilterCondition

/-- A complete condition equals itself. -/
theorem sameAs_self {condition : FilterCondition} (complete : condition.Complete) :
    condition.sameAs condition = true := by
  cases condition with
  | boundingBox box =>
      obtain ⟨south, west, north, east⟩ := complete
      simp [sameAs, BoundingBox.sameAs, Binary64.numericallyEqual_self, south, west, north, east]
  | recurse direction => simp [sameAs]
  | id ids => simp [sameAs]
  | around radius ring inputSet =>
      obtain ⟨positions, finite⟩ := complete
      simp [sameAs, Binary64.numericallyEqual_self finite, Ring.sameAs_self positions.2]
  | polygon ring => exact Ring.sameAs_self complete.2
  | area ids => simp [sameAs]

/-- Equal conditions name the same set. -/
theorem inputSet?_eq_of_sameAs {condition other : FilterCondition}
    (same : condition.sameAs other = true) : condition.inputSet? = other.inputSet? := by
  unfold sameAs at same
  split at same
  case h_4 => simp_all [inputSet?]
  case h_7 => cases same
  all_goals rfl

/-- Complete conditions with the same clause that name the same set are the same, whatever the
name. -/
theorem eq_of_clause_eq_of_inputSet?_eq {condition other : FilterCondition}
    (complete : condition.Complete) (otherComplete : other.Complete)
    (sameSet : condition.inputSet? = other.inputSet?) (same : condition.clause = other.clause) :
    condition = other := by
  cases named : other.inputSet? with
  | none =>
      rw [named] at sameSet
      exact eq_of_clause_eq otherComplete (by simp [named]) complete (by simp [sameSet]) same
  | some name =>
      rw [named] at sameSet
      cases other with
      | around otherRadius otherRing otherSet =>
          cases condition with
          | around radius ring inputSet =>
              simp only [inputSet?] at named sameSet
              subst named sameSet
              have arguments : aroundArguments radius ring
                  = aroundArguments otherRadius otherRing := by
                rw [clause_around_some, clause_around_some] at same
                exact String.append_right_inj _ |>.mp same
              -- Without the name, the clause is read back.
              have unnamed : around radius ring none = around otherRadius otherRing none := by
                refine eq_of_clause_eq otherComplete nofun complete nofun ?_
                rw [clause_around_none, clause_around_none, arguments]
              cases unnamed
              rfl
          | _ => simp [inputSet?] at sameSet
      | _ => simp [inputSet?] at named

end FilterCondition

namespace ElementFilter

/-- Reachable filters are equal only if they are the same. -/
theorem Reachable.sameAs_iff_eq {filter other : ElementFilter} (reachable : filter.Reachable)
    (otherReachable : other.Reachable) : filter.sameAs other = true ↔ filter = other := by
  obtain ⟨complete, clause⟩ := reachable.complete
  obtain ⟨otherComplete, otherClause⟩ := otherReachable.complete
  constructor
  · intro same
    simp only [ElementFilter.sameAs, Bool.and_eq_true, beq_iff_eq] at same
    obtain ⟨sameCondition, sameClause⟩ := same
    rw [clause, otherClause] at sameClause
    rw [reachable.eq_written.2, otherReachable.eq_written.2,
      FilterCondition.eq_of_clause_eq_of_inputSet?_eq complete otherComplete
        (FilterCondition.inputSet?_eq_of_sameAs sameCondition) sameClause]
  · rintro rfl
    simp [ElementFilter.sameAs, FilterCondition.sameAs_self complete]

theorem sameOption_iff_eq {filter other : Option ElementFilter}
    (reachable : ∀ attached ∈ filter, attached.Reachable)
    (otherReachable : ∀ attached ∈ other, attached.Reachable) :
    sameOption filter other = true ↔ filter = other := by
  cases filter with
  | none =>
      cases other with
      | none => simp [sameOption]
      | some otherAttached => simp [sameOption]
  | some attached =>
      cases other with
      | none => simp [sameOption]
      | some otherAttached =>
          simp [sameOption,
            (reachable attached rfl).sameAs_iff_eq (otherReachable otherAttached rfl)]

end ElementFilter

namespace Statement

/-! ## Trees -/

/-- Lists are equal only if they are the same, when this holds of each of their statements. -/
theorem sameAll_iff_eq {statements : List Statement}
    (each : ∀ statement ∈ statements, ∀ {other : Statement}, other.WellFormed →
      (statement.sameAs other = true ↔ statement = other)) :
    ∀ {others : List Statement}, (∀ other ∈ others, other.WellFormed) →
      (sameAll statements others = true ↔ statements = others) := by
  induction statements with
  | nil =>
      intro others formed
      cases others with
      | nil => simp [sameAll]
      | cons other others => simp [sameAll]
  | cons statement rest ih =>
      intro others formed
      rw [List.forall_mem_cons] at each
      cases others with
      | nil => simp [sameAll]
      | cons other others =>
          rw [List.forall_mem_cons] at formed
          simp [sameAll, each.1 formed.1, ih each.2 formed.2]

/-- **Well-formed statements are equal only if they are the same.** -/
theorem WellFormed.sameAs_iff_eq {statement : Statement} (formed : statement.WellFormed) :
    ∀ {other : Statement}, other.WellFormed →
      (statement.sameAs other = true ↔ statement = other) := by
  induction formed with
  | element elementType predicates filtered =>
      intro other otherFormed
      cases otherFormed with
      | element _ _ otherFiltered =>
          simp [sameAs, ElementStatement.sameAs, ElementStatement.make,
            ElementFilter.sameOption_iff_eq filtered otherFiltered, and_assoc]
      | _ => simp [sameAs]
  | setReference name =>
      intro other otherFormed
      cases otherFormed with
      | _ => simp [sameAs]
  | out verbosity =>
      intro other otherFormed
      cases otherFormed with
      | _ => simp [sameAs]
  | recurse direction =>
      intro other otherFormed
      cases otherFormed with
      | _ => simp [sameAs]
  | settings made =>
      intro other otherFormed
      cases otherFormed with
      | _ => simp [sameAs]
  | union named flat held same =>
      intro other otherFormed
      cases otherFormed with
      | union _ _ otherHeld =>
          simp [sameAs, UnionStatement.written, sameAll_iff_eq same otherHeld, and_assoc]
      | _ => simp [sameAs, UnionStatement.written]
  | difference named flat _ _ first second =>
      intro other otherFormed
      cases otherFormed with
      | difference _ _ otherFirst otherSecond =>
          simp [sameAs, DifferenceStatement.written, first otherFirst, second otherSecond,
            and_assoc]
      | _ => simp [sameAs, DifferenceStatement.written]
  | sequence held same =>
      intro other otherFormed
      cases otherFormed with
      | sequence otherHeld => simp [sameAs, Sequence.ofList, sameAll_iff_eq same otherHeld]
      | _ => simp [sameAs, Sequence.ofList]

/-! ## Texts of equal statements -/

/-- Equal statements have the same text, reachable or not. -/
theorem text_eq_of_sameAs {statement other : Statement} (same : statement.sameAs other = true) :
    statement.text = other.text := by
  unfold sameAs at same
  split at same
  case h_9 => cases same
  all_goals simp_all [text, ElementStatement.sameAs]

/-- Two holders of statements that differ in one of them, which both hold at the same place. -/
inductive Exchanged (member other : Statement) : Statement → Statement → Prop where
  | union (result : String) (before after : List Statement) :
      Exchanged member other
        (.union (UnionStatement.written result (before ++ member :: after)))
        (.union (UnionStatement.written result (before ++ other :: after)))
  | firstOperand (result : String) (second : Statement) :
      Exchanged member other
        (.difference (DifferenceStatement.written result member second))
        (.difference (DifferenceStatement.written result other second))
  | secondOperand (result : String) (first : Statement) :
      Exchanged member other
        (.difference (DifferenceStatement.written result first member))
        (.difference (DifferenceStatement.written result first other))
  | sequence (before after : List Statement) :
      Exchanged member other (.sequence (Sequence.ofList (before ++ member :: after)))
        (.sequence (Sequence.ofList (before ++ other :: after)))

/-- An equal statement in the place of another leaves the text of the holder as it is. -/
theorem Exchanged.text_eq {member other holder changed : Statement}
    (exchanged : Exchanged member other holder changed) (same : member.sameAs other = true) :
    holder.text = changed.text := by
  have sameText := text_eq_of_sameAs same
  have members : ∀ before after,
      texts (before ++ member :: after) = texts (before ++ other :: after) := by
    intro before after
    rw [texts_append, texts_append, texts_cons, texts_cons, sameText]
  cases exchanged with
  | union result before after =>
      simp [text, UnionStatement.written, UnionStatement.opening, members]
  | firstOperand result second =>
      show (DifferenceStatement.written result member second).text
        = (DifferenceStatement.written result other second).text
      simp only [DifferenceStatement.written, sameText]
  | secondOperand result first =>
      show (DifferenceStatement.written result first member).text
        = (DifferenceStatement.written result first other).text
      simp only [DifferenceStatement.written, sameText]
  | sequence before after => simp [text, Sequence.ofList, members]

theorem Exchanged.eq {member holder changed : Statement}
    (exchanged : Exchanged member member holder changed) : holder = changed := by
  cases exchanged with
  | _ => rfl

/-! ## Equality is identity -/

/-- **Reachable statements are equal only if they are the same.** Equality of reachable
statements is identity of the trees in all their fields, the signs of zeros included. So it is
reflexive, symmetric and transitive. Equal statements have the same text. In the place of a
statement that is held by another, an equal one leaves the text of the holder as it is, and a
reachable holder equals what it has become. -/
theorem Reachable.sameAs_is_identity {first second third : Statement}
    (firstReachable : first.Reachable) (secondReachable : second.Reachable)
    (thirdReachable : third.Reachable) :
    (first.sameAs second = true ↔ first = second) ∧
      first.sameAs first = true ∧
      (first.sameAs second = true → second.sameAs first = true) ∧
      (first.sameAs second = true → second.sameAs third = true → first.sameAs third = true) ∧
      (first.sameAs second = true → first.text = second.text ∧
        ∀ holder changed, Exchanged first second holder changed →
          holder.text = changed.text ∧
            (holder.Reachable → holder.sameAs changed = true)) := by
  have identity : ∀ {statement other : Statement}, statement.Reachable → other.Reachable →
      (statement.sameAs other = true ↔ statement = other) :=
    fun reachable otherReachable => reachable.wellFormed.sameAs_iff_eq otherReachable.wellFormed
  have firstSecond := identity firstReachable secondReachable
  refine ⟨firstSecond, (identity firstReachable firstReachable).mpr rfl, ?_, ?_, ?_⟩
  · intro same
    exact (identity secondReachable firstReachable).mpr (firstSecond.mp same).symm
  · intro same again
    have equal := (identity secondReachable thirdReachable).mp again
    exact (identity firstReachable thirdReachable).mpr ((firstSecond.mp same).trans equal)
  · intro same
    refine ⟨text_eq_of_sameAs same, fun holder changed exchanged => ?_⟩
    refine ⟨exchanged.text_eq same, fun reachable => ?_⟩
    obtain rfl := firstSecond.mp same
    obtain rfl := exchanged.eq
    exact (identity reachable reachable).mpr rfl

/-- A selection of the nodes within some radius of a position on the equator. -/
def nodesWithin (radius : Binary64) : Statement :=
  .element (.make .node [] (some (.written (.around radius [⟨.zero, .zero⟩] (some "a:b")))))

theorem nodesWithin_reachable {radius : Binary64} (finite : radius.isFinite = true) :
    (nodesWithin radius).Reachable := by
  refine .element _ _ ?_
  rintro attached ⟨⟩
  have complete : (FilterCondition.around radius [⟨.zero, .zero⟩] (some "a:b")).Complete :=
    ⟨⟨List.cons_ne_nil _ _, List.forall_mem_singleton.mpr ⟨rfl, rfl⟩⟩, finite⟩
  exact .make (ElementFilter.make_eq_ok_iff.mpr
    ⟨FilterCondition.check_eq_ok_iff.mpr complete, rfl⟩)

/-- The radii zero and minus zero are numerically equal, and so are the conditions, but not the
statements. -/
theorem nodesWithin_signed_zeros_unequal :
    (nodesWithin .zero).Reachable ∧
      (nodesWithin (.finite true ⟨0, by decide⟩)).Reachable ∧
      FilterCondition.sameAs (.around .zero [⟨.zero, .zero⟩] (some "a:b"))
        (.around (.finite true ⟨0, by decide⟩) [⟨.zero, .zero⟩] (some "a:b")) = true ∧
      (nodesWithin .zero).sameAs (nodesWithin (.finite true ⟨0, by decide⟩)) = false ∧
      (nodesWithin .zero).sameAs (nodesWithin .zero) = true := by
  have positive : (nodesWithin .zero).Reachable := nodesWithin_reachable rfl
  have negative : (nodesWithin (.finite true ⟨0, by decide⟩)).Reachable :=
    nodesWithin_reachable rfl
  obtain ⟨identity, reflexive, -⟩ := Reachable.sameAs_is_identity positive negative positive
  refine ⟨positive, negative, by decide, ?_, reflexive⟩
  rw [← Bool.not_eq_true, identity]
  intro same
  simp [nodesWithin, ElementStatement.make, ElementFilter.written, Binary64.zero] at same

end Statement

end OverpassQuery

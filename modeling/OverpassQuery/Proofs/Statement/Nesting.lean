import OverpassQuery.Proofs.Statement.Reachable

/-!
# Which members a block takes

A union or a difference may not hold a block, and a sequence does not hide one: what counts
is the list of statements that the members amount to once sequences are read through
(`Statement.splicedAll`). The members are taken exactly when no block is in that list, and
otherwise the first block in it is named (`Statement.Judged`).

The check looks into each member in turn and stops at the first block that it meets. That
this is the first block of the spliced list is an induction over a statement beside the
lists below it (`Statement.firstBlock?_eq_findSome?`).

Nothing depends on how members are grouped into sequences, then: neither the verdict, nor
the block that is named, nor the text of a union (`Statement.members_judged_by_first_block`).
-/

set_option autoImplicit false

namespace OverpassQuery

namespace Statement

/-! ## The first block -/

/-- The kind of block that a statement is, if it is one. -/
def block? : Statement → Option Block
  | .union _ => some .union
  | .difference _ => some .difference
  | _ => none

mutual

/-- The check of a member stops at the first block of what the member amounts to. -/
theorem firstBlock?_eq_findSome? : ∀ statement : Statement,
    firstBlock? statement = (spliced statement).findSome? block?
  | .sequence ⟨statements, _⟩ => by
      rw [firstBlock?, spliced]
      exact firstBlockOf?_eq_findSome? statements
  | .union _ | .difference _ => by simp [firstBlock?, spliced, block?]
  | .element _ | .setReference _ | .out _ | .recurse _ | .settings _ => by
      simp [firstBlock?, spliced, block?]

theorem firstBlockOf?_eq_findSome? : ∀ statements : List Statement,
    firstBlockOf? statements = (splicedAll statements).findSome? block?
  | [] => rfl
  | statement :: rest => by
      rw [firstBlockOf?, splicedAll, List.findSome?_append, ← firstBlock?_eq_findSome? statement,
        ← firstBlockOf?_eq_findSome? rest]
      cases firstBlock? statement with
      | none => rfl
      | some block => rfl

end

/-- A judgement of members: no block among what they amount to is accepted, and the first
block among it is refused by name. -/
structure Judged {α : Type} (outer : Block) (members : List Statement)
    (attempt : Except BuildError α) : Prop where
  accepts : (∃ made, attempt = .ok made) ↔ ∀ statement ∈ splicedAll members,
    statement.block? = none
  refuses : ∀ {before after : List Statement} {offender : Statement} {inner : Block},
    splicedAll members = before ++ offender :: after →
    (∀ statement ∈ before, statement.block? = none) → offender.block? = some inner →
    attempt = .error (.invalidNesting outer inner)

/-- What is done after the check of the members judges them. -/
theorem judged_of_check {α : Type} {outer : Block} {members : List Statement}
    {attempt : Except BuildError α} (made : α)
    (checks : attempt = (checkMembers outer members).map fun _ => made) :
    Judged outer members attempt := by
  rw [checkMembers, firstBlockOf?_eq_findSome?] at checks
  constructor
  · rw [← List.findSome?_eq_none_iff, checks]
    cases (splicedAll members).findSome? block? with
    | none => exact iff_of_true ⟨made, rfl⟩ rfl
    | some inner =>
      refine iff_of_false ?_ (fun free => Option.some_ne_none inner free)
      rintro ⟨value, accepted⟩
      cases accepted
  · intro before after offender inner spliced free found
    have first : (splicedAll members).findSome? block? = some inner := by
      rw [spliced, List.findSome?_append, List.findSome?_eq_none_iff.mpr free, Option.none_or,
        List.findSome?_cons_of_isSome (by rw [found]; rfl), found]
    rw [checks, first]
    rfl

theorem judged_make_union (result : String) (members : List Statement) :
    Judged .union members (UnionStatement.make result members) := by
  refine judged_of_check (UnionStatement.written (resultName result) members) ?_
  rw [UnionStatement.make]
  cases checkMembers .union members with
  | error cause => rfl
  | ok checked => rfl

theorem judged_extended (union : UnionStatement) (members : List Statement) :
    Judged .union members (union.extended members).1 := by
  refine judged_of_check () ?_
  rw [UnionStatement.extended, UnionStatement.extend]
  cases checkMembers .union members with
  | error cause => rfl
  | ok checked => rfl

theorem judged_make_difference (result : String) (first second : Statement) :
    Judged .difference [first, second] (DifferenceStatement.make result first second) := by
  refine judged_of_check (DifferenceStatement.written (resultName result) first second) ?_
  rw [DifferenceStatement.make]
  cases checkMembers .difference [first, second] with
  | error cause => rfl
  | ok checked => rfl

/-! ## Groups of members -/

/-- Lists of members that differ in how their statements are grouped into sequences: any of
them that stand together may be wrapped in a sequence, and any sequence be unwrapped. -/
inductive Regrouped : List Statement → List Statement → Prop where
  | wrapped (before inner after : List Statement) :
      Regrouped (before ++ inner ++ after)
        (before ++ [.sequence (Sequence.ofList inner)] ++ after)
  | refl (members : List Statement) : Regrouped members members
  | symm {first second : List Statement} (regrouped : Regrouped first second) :
      Regrouped second first
  | trans {first second third : List Statement} (regrouped : Regrouped first second)
      (again : Regrouped second third) : Regrouped first third

theorem splicedAll_append (first second : List Statement) :
    splicedAll (first ++ second) = splicedAll first ++ splicedAll second := by
  induction first with
  | nil => rfl
  | cons statement rest ih => rw [List.cons_append, splicedAll, ih, splicedAll, List.append_assoc]

theorem splicedAll_sequence (statements : List Statement) :
    splicedAll [.sequence (Sequence.ofList statements)] = splicedAll statements := by
  rw [splicedAll, splicedAll, List.append_nil, Sequence.ofList, spliced]

/-- Groups do not count for what members amount to. -/
theorem Regrouped.splicedAll_eq {members others : List Statement}
    (regrouped : Regrouped members others) : splicedAll others = splicedAll members := by
  induction regrouped with
  | wrapped before inner after => simp only [splicedAll_append, splicedAll_sequence]
  | refl members => rfl
  | symm _ ih => exact ih.symm
  | trans _ _ ih again => exact again.trans ih

/-- Groups of well-formed members are well formed. -/
theorem Regrouped.wellFormed_iff {members others : List Statement}
    (regrouped : Regrouped members others) :
    (∀ member ∈ members, WellFormed member) ↔ ∀ member ∈ others, WellFormed member := by
  induction regrouped with
  | wrapped before inner after =>
      have group : WellFormed (.sequence (Sequence.ofList inner)) ↔
          ∀ statement ∈ inner, WellFormed statement :=
        ⟨WellFormed.of_mem_children, .sequence⟩
      simp only [List.forall_mem_append, List.forall_mem_singleton, group]
  | refl members => exact Iff.rfl
  | symm _ ih => exact ih.symm
  | trans _ _ ih again => exact ih.trans again

/-! ## Text of groups -/

theorem texts_singleton (statement : Statement) : texts [statement] = statement.text := by
  rw [texts_cons, texts_nil, String.append_empty]

/-- Statements that have the text of what they amount to do so as a list. -/
theorem texts_splicedAll {statements : List Statement}
    (each : ∀ statement ∈ statements, texts (spliced statement) = statement.text) :
    texts (splicedAll statements) = texts statements := by
  induction statements with
  | nil => rfl
  | cons statement rest ih =>
      rw [List.forall_mem_cons] at each
      rw [splicedAll, texts_append, texts_cons, each.1, ih each.2]

/-- A well-formed statement has the text of what it amounts to. -/
theorem WellFormed.texts_spliced {statement : Statement} (formed : statement.WellFormed) :
    texts (spliced statement) = statement.text := by
  induction formed with
  | sequence _ each =>
      rw [Sequence.ofList, spliced]
      exact texts_splicedAll each
  | union _ _ _ _ => exact texts_singleton _
  | difference _ _ _ _ _ _ => exact texts_singleton _
  | _ => exact texts_singleton _

/-- Groups do not count for the text of well-formed members. -/
theorem Regrouped.texts_eq {members others : List Statement}
    (regrouped : Regrouped members others) (formed : ∀ member ∈ members, WellFormed member) :
    texts others = texts members := by
  have otherFormed := regrouped.wellFormed_iff.mp formed
  rw [← texts_splicedAll fun member held => (formed member held).texts_spliced,
    ← texts_splicedAll fun member held => (otherFormed member held).texts_spliced,
    regrouped.splicedAll_eq]

/-- Groups do not count for the check. -/
theorem Regrouped.checkMembers_eq {members others : List Statement}
    (regrouped : Regrouped members others) (outer : Block) :
    checkMembers outer others = checkMembers outer members := by
  rw [checkMembers, checkMembers, firstBlockOf?_eq_findSome?, firstBlockOf?_eq_findSome?,
    regrouped.splicedAll_eq]

/-- A union made of regrouped members is the same apart from the groups. -/
theorem Regrouped.text_make_union {members others : List Statement}
    (regrouped : Regrouped members others) (formed : ∀ member ∈ members, WellFormed member)
    (result : String) :
    (UnionStatement.make result others).map UnionOf.text
      = (UnionStatement.make result members).map UnionOf.text := by
  rw [UnionStatement.make, UnionStatement.make, regrouped.checkMembers_eq]
  cases checkMembers .union members with
  | error cause => rfl
  | ok checked =>
      have text : (UnionStatement.written (resultName result) others).text
          = (UnionStatement.written (resultName result) members).text := by
        simp only [UnionStatement.written, UnionStatement.opening, regrouped.texts_eq formed]
      exact congrArg Except.ok text

/-- A union takes or refuses regrouped members alike. -/
theorem Regrouped.extended_eq {members others : List Statement}
    (regrouped : Regrouped members others) (formed : ∀ member ∈ members, WellFormed member)
    (union : UnionStatement) :
    (union.extended others).1 = (union.extended members).1 ∧
      (union.extended others).2.text = (union.extended members).2.text := by
  rw [UnionStatement.extended, UnionStatement.extended, UnionStatement.extend,
    UnionStatement.extend, regrouped.checkMembers_eq]
  cases checkMembers .union members with
  | error cause => exact ⟨rfl, rfl⟩
  | ok checked =>
      have text : (UnionStatement.written union.result (union.members ++ others)).text
          = (UnionStatement.written union.result (union.members ++ members)).text := by
        simp only [UnionStatement.written, UnionStatement.opening, texts_append,
          regrouped.texts_eq formed]
      exact ⟨rfl, text⟩

/-- A difference takes or refuses regrouped operands alike. -/
theorem Regrouped.outcome_make_difference {first second otherFirst otherSecond : Statement}
    (regrouped : Regrouped [first, second] [otherFirst, otherSecond]) (result : String) :
    (DifferenceStatement.make result otherFirst otherSecond).map (fun _ => ())
      = (DifferenceStatement.make result first second).map fun _ => () := by
  rw [DifferenceStatement.make, DifferenceStatement.make, regrouped.checkMembers_eq]
  cases checkMembers .difference [first, second] with
  | error cause => rfl
  | ok checked => rfl

/-! ## The verdict on members -/

/-- **Members are judged by the first block among what they amount to.** A union is made of
members, and a union takes further members, exactly when no block is left once the sequences
among them are read through; a difference is made of its operands by the same rule. Otherwise
the first block that is left is named, and the block that would have held it. So members may
be wrapped in sequences and unwrapped in any way: the verdict and the block that is named
stay the same, and so does the text of a union. -/
theorem members_judged_by_first_block {members : List Statement}
    (reachable : ∀ member ∈ members, member.Reachable) :
    (∀ result, Judged .union members (UnionStatement.make result members)) ∧
      (∀ union : UnionStatement, Judged .union members (union.extended members).1) ∧
      (∀ result first second, members = [first, second] →
        Judged .difference members (DifferenceStatement.make result first second)) ∧
      ∀ others, Regrouped members others →
        (∀ result, (UnionStatement.make result others).map UnionOf.text
          = (UnionStatement.make result members).map UnionOf.text) ∧
        (∀ union : UnionStatement, (union.extended others).1 = (union.extended members).1 ∧
          (union.extended others).2.text = (union.extended members).2.text) ∧
        ∀ result first second otherFirst otherSecond, members = [first, second] →
          others = [otherFirst, otherSecond] →
          (DifferenceStatement.make result otherFirst otherSecond).map (fun _ => ())
            = (DifferenceStatement.make result first second).map fun _ => () := by
  have formed : ∀ member ∈ members, WellFormed member :=
    fun member held => (reachable member held).wellFormed
  refine ⟨fun result => judged_make_union result members,
    fun union => judged_extended union members, ?_, fun others regrouped => ⟨?_, ?_, ?_⟩⟩
  · rintro result first second rfl
    exact judged_make_difference result first second
  · exact regrouped.text_make_union formed
  · exact regrouped.extended_eq formed
  · rintro result first second otherFirst otherSecond rfl rfl
    exact regrouped.outcome_make_difference result

/-- An instruction, and two sequences deep a union beside another instruction. -/
def hiddenUnion : List Statement :=
  [.out (.make .count), .sequence (Sequence.ofList
    [.sequence (Sequence.ofList [.recurse (.make .up), .union grownUnion])])]

theorem hiddenUnion_reachable : ∀ member ∈ hiddenUnion, member.Reachable := by
  refine List.forall_mem_cons.mpr ⟨.out .count, List.forall_mem_singleton.mpr ?_⟩
  refine .sequence (List.forall_mem_singleton.mpr (.sequence ?_))
  exact List.forall_mem_cons.mpr
    ⟨.recurse .up, List.forall_mem_singleton.mpr grownUnion_reachable⟩

/-- The hidden union is named, by a difference of the two members and also by a union of them
once the outer sequence is unwrapped. -/
theorem hiddenUnion_judged :
    (∀ member ∈ hiddenUnion, member.Reachable) ∧
      DifferenceStatement.make "" (.out (.make .count)) (.sequence (Sequence.ofList
        [.sequence (Sequence.ofList [.recurse (.make .up), .union grownUnion])]))
        = .error (.invalidNesting .difference .union) ∧
      (UnionStatement.make "" [.out (.make .count), .sequence (Sequence.ofList
        [.recurse (.make .up), .union grownUnion])]).map UnionOf.text
        = .error (.invalidNesting .union .union) := by
  obtain ⟨unions, -, differences, groups⟩ := members_judged_by_first_block hiddenUnion_reachable
  have free : ∀ statement ∈ [Statement.out (.make .count), .recurse (.make .up)],
      statement.block? = none := List.forall_mem_cons.mpr ⟨rfl, List.forall_mem_singleton.mpr rfl⟩
  have spliced : splicedAll hiddenUnion
      = [.out (.make .count), .recurse (.make .up)] ++ [.union grownUnion] := rfl
  have unwrapped : Regrouped hiddenUnion [.out (.make .count), .sequence (Sequence.ofList
      [.recurse (.make .up), .union grownUnion])] :=
    (Regrouped.wrapped [.out (.make .count)] [.sequence (Sequence.ofList
      [.recurse (.make .up), .union grownUnion])] []).symm
  have refused : UnionStatement.make "" hiddenUnion = .error (.invalidNesting .union .union) :=
    (unions "").refuses spliced free rfl
  refine ⟨hiddenUnion_reachable, (differences "" _ _ rfl).refuses spliced free rfl, ?_⟩
  rw [(groups _ unwrapped).1 "", refused]
  rfl

end Statement

end OverpassQuery

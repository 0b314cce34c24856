import OverpassQuery.Proofs.Statement.Phrases

/-!
# Parentheses in the text of statements

The depth of a text is the number of parentheses opened in it less the number of those closed
(`Parentheses.depth`). A text is nested within a limit when its depth is zero at the end, and
between zero and the limit at every earlier place (`Parentheses.Nested`). Such texts may be put
one after the other, and a pair of parentheses around one takes the limit one higher.

The library writes parentheses around the clause of a filter and around the members of a block.
The clause of a membership closes one more than it opens, so the depth of a statement tells how
many of the selections in it follow memberships (`Statement.WellFormed.depth_text`).

Without memberships a statement that amounts to no block is nested within one. A block holds no
other block, at any depth, so every statement is nested within two
(`Statement.WellFormed.nested_text`).

All of this is about statements whose own texts are free of parentheses
(`Statement.Unparenthesized`).
-/

set_option autoImplicit false

namespace OverpassQuery

/-! ## Depth -/

namespace Parentheses

/-- How many more parentheses are opened than closed. -/
def depth (chars : List Char) : Int := (chars.count '(' : Int) - chars.count ')'

/-- There are no parentheses. -/
def Free (chars : List Char) : Prop := '(' ∉ chars ∧ ')' ∉ chars

instance (chars : List Char) : Decidable (Free chars) := inferInstanceAs (Decidable (_ ∧ _))

/-- Parentheses around a text. -/
def enclosed (chars : List Char) : List Char := '(' :: (chars ++ [')'])

/-- Every parenthesis is closed, and never are more open than the limit says. -/
structure Nested (limit : Nat) (chars : List Char) : Prop where
  closed : depth chars = 0
  bounded : ∀ front, front <+: chars → 0 ≤ depth front ∧ depth front ≤ limit

@[simp] theorem depth_nil : depth [] = 0 := rfl

@[simp] theorem depth_append (first second : List Char) :
    depth (first ++ second) = depth first + depth second := by
  simp only [depth, List.count_append]
  omega

@[simp] theorem depth_opening (chars : List Char) : depth ('(' :: chars) = depth chars + 1 := by
  simp only [depth, List.count_cons]
  simp
  omega

@[simp] theorem depth_closing : depth [')'] = -1 := by
  simp [depth]

theorem depth_enclosed (chars : List Char) : depth (enclosed chars) = depth chars := by
  rw [enclosed, depth_opening, depth_append, depth_closing]
  omega

@[simp] theorem free_append {first second : List Char} :
    Free (first ++ second) ↔ Free first ∧ Free second := by
  simp only [Free, List.mem_append, not_or]
  exact and_and_and_comm

theorem Free.flatMap {α : Type} {items : List α} {write : α → List Char}
    (each : ∀ item ∈ items, Free (write item)) : Free (items.flatMap write) := by
  induction items with
  | nil => simp [Free]
  | cons item rest ih =>
      rw [List.forall_mem_cons] at each
      rw [List.flatMap_cons, free_append]
      exact ⟨each.1, ih each.2⟩

theorem depth_of_free {chars : List Char} (free : Free chars) : depth chars = 0 := by
  rw [depth, List.count_eq_zero.mpr free.1, List.count_eq_zero.mpr free.2]
  rfl

theorem Nested.of_free {chars : List Char} (limit : Nat) (free : Free chars) :
    Nested limit chars where
  closed := depth_of_free free
  bounded := by
    intro front before
    have frontFree : Free front :=
      ⟨fun occurs => free.1 (before.subset occurs), fun occurs => free.2 (before.subset occurs)⟩
    rw [depth_of_free frontFree]
    omega

theorem Nested.mono {limit higher : Nat} {chars : List Char} (nested : Nested limit chars)
    (raised : limit ≤ higher) : Nested higher chars where
  closed := nested.closed
  bounded := by
    intro front before
    have bounds := nested.bounded front before
    omega

/-- Nested texts may be put one after the other. -/
theorem Nested.append {limit : Nat} {first second : List Char} (nested : Nested limit first)
    (others : Nested limit second) : Nested limit (first ++ second) where
  closed := by rw [depth_append, nested.closed, others.closed, Int.add_zero]
  bounded := by
    rintro front ⟨later, split⟩
    -- The prefix ends in the first text or in the second.
    rcases List.append_eq_append_iff.mp split with ⟨rest, within, -⟩ | ⟨rest, rfl, within⟩
    · exact nested.bounded front ⟨rest, within.symm⟩
    · rw [depth_append, nested.closed, Int.zero_add]
      exact others.bounded rest ⟨later, within.symm⟩

/-- Parentheses around a nested text need one more. -/
theorem Nested.enclosed {limit : Nat} {chars : List Char} (nested : Nested limit chars) :
    Nested (limit + 1) (enclosed chars) where
  closed := by rw [depth_enclosed, nested.closed]
  bounded := by
    intro front before
    rw [Parentheses.enclosed] at before
    rcases List.prefix_cons_iff.mp before with rfl | ⟨rest, rfl, within⟩
    · rw [depth_nil]
      omega
    · rw [depth_opening]
      rcases List.prefix_concat_iff.mp within with rfl | inside
      · rw [depth_append, depth_closing, nested.closed]
        omega
      · have bounds := nested.bounded rest inside
        omega

end Parentheses

open Parentheses

/-! ## Parts of statements -/

theorem TagPredicate.free_text {predicate : TagPredicate} (key : Free predicate.key.toList)
    (value : ∀ value ∈ predicate.value?, Free value.toList) : Free predicate.text.toList := by
  cases predicate with
  | present _ => simp_all [text, TagPredicate.key, Free]
  | absent _ => simp_all [text, TagPredicate.key, Free]
  | compares _ comparison _ =>
      have symbol : Free comparison.symbol.toList := by
        cases comparison with
        | _ => decide
      simp_all [text, TagPredicate.key, value?, Free]

theorem Setting.free_text {setting : Setting} (value : Free setting.value.toList)
    (options : Free setting.options.toList) : Free setting.text.toList := by
  have key : Free setting.key.name.toList := by
    cases setting.key with
    | _ => decide
  simp_all [text, Free]

theorem Verbosity.free_name (verbosity : Verbosity) : Free verbosity.name.toList := by
  cases verbosity with
  | detail level withoutIds =>
      cases level with
      | _ =>
          cases withoutIds with
          | _ => decide
  | _ => decide

namespace FilterCondition

/-- Whether a condition follows memberships. -/
def followsMembers : FilterCondition → Bool
  | .recurse _ => true
  | _ => false

/-- A clause is free of parentheses, that of a membership apart. -/
theorem free_clause {condition : FilterCondition} (complete : condition.Complete)
    (named : ∀ name ∈ condition.inputSet?, Free name.toList)
    (plain : condition.followsMembers = false) : Free condition.clause.toList := by
  have kinds : ∀ char ∈ condition.clause.toList,
      isClauseChar char = true ∨ ∃ name ∈ condition.inputSet?, char ∈ name.toList := by
    intro char occurs
    rcases origin_of_mem_clause complete char occurs with allowed | ⟨-, direction, rfl⟩ | given
    · exact .inl allowed
    · cases plain
    · exact .inr given
  constructor
  · intro occurs
    rcases kinds _ occurs with allowed | ⟨name, given, occurs⟩
    · cases allowed
    · exact (named name given).1 occurs
  · intro occurs
    rcases kinds _ occurs with allowed | ⟨name, given, occurs⟩
    · cases allowed
    · exact (named name given).2 occurs

/-- The clause of a membership closes one more parenthesis than it opens. -/
theorem depth_clause_of_followsMembers {condition : FilterCondition}
    (follows : condition.followsMembers = true) : depth condition.clause.toList = -1 := by
  cases condition with
  | recurse direction =>
      cases direction with
      | _ => decide
  | _ => cases follows

end FilterCondition

namespace Statement

/-! ## Statements whose own texts are free of parentheses -/

/-- The texts that a node was made with: keys and values of tags, names of sets, and values and
options of settings. -/
def givenTexts : Statement → List String
  | .element selection =>
      selection.predicates.flatMap (fun predicate => predicate.key :: predicate.value?.toList)
        ++ (selection.filter.bind fun filter => filter.condition.inputSet?).toList
  | .setReference reference => [reference.name]
  | .settings block => block.settings.flatMap fun setting => [setting.value, setting.options]
  | .union block => [block.result]
  | .difference block => [block.result]
  | .out _ | .recurse _ | .sequence _ => []

/-- No text that a node was made with has a parenthesis. -/
def Unparenthesized (statement : Statement) : Prop :=
  ∀ node ∈ statement.nodes, ∀ text ∈ node.givenTexts, Free text.toList

instance (statement : Statement) : Decidable statement.Unparenthesized :=
  have (node : Statement) : Decidable (∀ text ∈ node.givenTexts, Free text.toList) :=
    List.decidableBAll (fun text : String => Free text.toList) node.givenTexts
  List.decidableBAll _ statement.nodes

/-- Whether a node is a selection that follows memberships. -/
def followsMembers : Statement → Bool
  | .element selection => selection.filter.any fun filter => filter.condition.followsMembers
  | _ => false

/-- What holds of all nodes holds of the statement and of all nodes of what it holds. -/
theorem forall_mem_nodes_iff {property : Statement → Prop} {statement : Statement} :
    (∀ node ∈ statement.nodes, property node) ↔
      property statement ∧ ∀ child ∈ statement.children, ∀ node ∈ child.nodes, property node := by
  rw [nodes_eq, List.forall_mem_cons]
  simp only [List.mem_flatMap]
  constructor
  · rintro ⟨here, below⟩
    exact ⟨here, fun child held node occurs => below node ⟨child, held, occurs⟩⟩
  · rintro ⟨here, below⟩
    exact ⟨here, fun node ⟨child, held, occurs⟩ => below child held node occurs⟩

theorem Unparenthesized.self {statement : Statement} (free : statement.Unparenthesized) :
    ∀ text ∈ statement.givenTexts, Free text.toList :=
  (forall_mem_nodes_iff.mp free).1

theorem Unparenthesized.of_mem_children {statement : Statement}
    (free : statement.Unparenthesized) : ∀ child ∈ statement.children, child.Unparenthesized :=
  (forall_mem_nodes_iff.mp free).2

/-! ## The text of one statement -/

/-- A selection has parentheses around the clause of its filter only. -/
theorem toList_text_element {elementType : ElementType} {predicates : List TagPredicate}
    {filter : Option ElementFilter}
    (free : ∀ text ∈ (element (.make elementType predicates filter)).givenTexts,
      Free text.toList) :
    ∃ front, Free front ∧ (element (.make elementType predicates filter)).text.toList
      = front ++ (Phrase.clauseChars (filter.map ElementFilter.clause) ++ [';']) := by
  refine ⟨elementType.name.toList
    ++ predicates.flatMap fun predicate => predicate.text.toList, ?_, ?_⟩
  · have keyword : Free elementType.name.toList := by
      cases elementType with
      | _ => decide
    refine free_append.mpr ⟨keyword, Free.flatMap fun predicate occurs => ?_⟩
    have given : ∀ text ∈ predicate.key :: predicate.value?.toList, Free text.toList :=
      fun text listed => free text (List.mem_append_left _ (List.mem_flatMap.mpr
        ⟨predicate, occurs, listed⟩))
    rw [List.forall_mem_cons] at given
    exact predicate.free_text given.1 fun value has => given.2 value (Option.mem_toList.mpr has)
  · rw [List.append_assoc]
    exact toList_render_element elementType predicates filter

theorem free_text_setReference {name : String} (free : Free name.toList) :
    Free (setReference (.make name)).text.toList := by
  simp_all [text, SetReference.make, Free]

theorem free_text_out (verbosity : Verbosity) : Free (out (.make verbosity)).text.toList := by
  have name := verbosity.free_name
  simp_all [text, OutStatement.make, Free]

theorem free_text_recurse (direction : RecurseDirection) :
    Free (recurse (.make direction)).text.toList := by
  cases direction with
  | _ => decide

theorem free_text_settings {block : List Setting}
    (free : ∀ text ∈ (settings (.make block)).givenTexts, Free text.toList) :
    Free (settings (.make block)).text.toList := by
  have entries : Free (block.flatMap fun setting => setting.text.toList) := by
    refine Free.flatMap fun setting occurs => ?_
    have given : ∀ text ∈ [setting.value, setting.options], Free text.toList :=
      fun text listed => free text (List.mem_flatMap.mpr ⟨setting, occurs, listed⟩)
    rw [List.forall_mem_cons, List.forall_mem_singleton] at given
    exact setting.free_text given.1 given.2
  have written : (settings (.make block)).text.toList
      = block.flatMap (fun setting => setting.text.toList) ++ [';'] := by
    simp [text, SettingsStatement.make, String.toList_join, List.flatMap_map]
  rw [written, free_append]
  exact ⟨entries, by decide⟩

theorem toList_text_union (result : String) (members : List Statement) :
    (union (UnionStatement.written result members)).text.toList
      = enclosed (texts members).toList ++ Phrase.resultChars result := by
  simp [text, UnionStatement.written, UnionStatement.opening, UnionStatement.closing, enclosed,
    Phrase.resultChars]

theorem toList_text_difference (result : String) (first second : Statement) :
    (difference (DifferenceStatement.written result first second)).text.toList
      = enclosed (first.text.toList ++ (" - ".toList ++ second.text.toList))
        ++ Phrase.resultChars result := by
  show (DifferenceStatement.written result first second).text.toList = _
  simp [DifferenceStatement.written, enclosed, Phrase.resultChars]

theorem free_resultChars {result : String} (free : Free result.toList) :
    Free (Phrase.resultChars result) := by
  simp_all [Phrase.resultChars, Free]

/-! ## Depth of statements -/

/-- The depth of a list of statements, if that of each is known. -/
theorem depth_texts {statements : List Statement}
    (each : ∀ statement ∈ statements,
      depth statement.text.toList = -(statement.nodes.countP followsMembers : Int)) :
    depth (texts statements).toList
      = -((statements.flatMap nodes).countP followsMembers : Int) := by
  induction statements with
  | nil => rw [texts_nil]; rfl
  | cons statement rest ih =>
      rw [List.forall_mem_cons] at each
      rw [texts_cons, String.toList_append, depth_append, each.1, ih each.2, List.flatMap_cons,
        List.countP_append]
      omega

/-- What does not follow memberships itself counts what it holds. -/
theorem countP_nodes {statement : Statement} (plain : statement.followsMembers = false) :
    statement.nodes.countP followsMembers
      = (statement.children.flatMap nodes).countP followsMembers := by
  rw [nodes_eq, List.countP_cons_of_neg (by simp [plain])]

/-- The number of memberships of a selection is the depth that it lacks. -/
theorem depth_text_element {elementType : ElementType} {predicates : List TagPredicate}
    {filter : Option ElementFilter} (filtered : ∀ attached ∈ filter, attached.Reachable)
    (free : ∀ text ∈ (element (.make elementType predicates filter)).givenTexts,
      Free text.toList) :
    depth (element (.make elementType predicates filter)).text.toList
      = -((element (.make elementType predicates filter)).nodes.countP followsMembers : Int) := by
  obtain ⟨front, frontFree, written⟩ := toList_text_element free
  have ending : depth [';'] = 0 := by decide
  rw [written, depth_append, depth_append, depth_of_free frontFree, ending]
  cases filter with
  | none =>
      simp [Phrase.clauseChars, nodes, followsMembers, ElementStatement.make]
  | some attached =>
      obtain ⟨complete, clause⟩ := (filtered attached rfl).complete
      have around : depth (Phrase.clauseChars ((some attached).map ElementFilter.clause))
          = depth attached.condition.clause.toList := by
        rw [Option.map_some, clause]
        exact depth_enclosed _
      rw [around]
      cases follows : attached.condition.followsMembers with
      | true =>
          rw [FilterCondition.depth_clause_of_followsMembers follows]
          simp [nodes, followsMembers, ElementStatement.make, follows]
      | false =>
          have named : ∀ name ∈ attached.condition.inputSet?, Free name.toList :=
            fun name given => free name (by
              simp only [Option.mem_def] at given
              simp [givenTexts, ElementStatement.make, given])
          rw [depth_of_free (FilterCondition.free_clause complete named follows)]
          simp [nodes, followsMembers, ElementStatement.make, follows]

/-- **The depth of a statement's text.** Each selection that follows memberships closes one more
parenthesis than it opens, and nothing else does. -/
theorem WellFormed.depth_text {statement : Statement} (formed : statement.WellFormed) :
    statement.Unparenthesized →
      depth statement.text.toList = -(statement.nodes.countP followsMembers : Int) := by
  induction formed with
  | element elementType predicates filtered =>
      exact fun free => depth_text_element filtered free.self
  | setReference name =>
      exact fun free => depth_of_free
        (free_text_setReference (free.self name (List.mem_singleton.mpr rfl)))
  | out verbosity => exact fun _ => depth_of_free (free_text_out verbosity)
  | recurse direction => exact fun _ => depth_of_free (free_text_recurse direction)
  | settings made => exact fun free => depth_of_free (free_text_settings free.self)
  | @union result members named flat _ depths =>
      intro free
      have held := depth_texts fun member held =>
        depths member held (free.of_mem_children member held)
      have ending : Free (Phrase.resultChars result) :=
        free_resultChars (free.self result (List.mem_singleton.mpr rfl))
      rw [toList_text_union, depth_append, depth_enclosed, held, depth_of_free ending,
        countP_nodes rfl]
      exact Int.add_zero _
  | @difference result first second named flat _ _ firstDepth secondDepth =>
      intro free
      have operands := free.of_mem_children
      rw [children, DifferenceStatement.written, List.forall_mem_cons,
        List.forall_mem_singleton] at operands
      have ending : Free (Phrase.resultChars result) :=
        free_resultChars (free.self result (List.mem_singleton.mpr rfl))
      have minus : depth " - ".toList = 0 := by decide
      rw [countP_nodes rfl, toList_text_difference, depth_append, depth_enclosed, depth_append,
        depth_append, firstDepth operands.1, secondDepth operands.2, minus, depth_of_free ending]
      simp [children, DifferenceStatement.written]
      omega
  | sequence _ depths =>
      intro free
      have held := depth_texts fun statement held =>
        depths statement held (free.of_mem_children statement held)
      rw [countP_nodes rfl]
      exact held

/-! ## Nesting of texts -/

theorem nested_texts {limit : Nat} {statements : List Statement}
    (each : ∀ statement ∈ statements, Nested limit statement.text.toList) :
    Nested limit (texts statements).toList := by
  induction statements with
  | nil =>
      rw [texts_nil]
      exact .of_free limit (by decide)
  | cons statement rest ih =>
      rw [List.forall_mem_cons] at each
      rw [texts_cons, String.toList_append]
      exact each.1.append (ih each.2)

theorem nested_text_element {elementType : ElementType} {predicates : List TagPredicate}
    {filter : Option ElementFilter} (filtered : ∀ attached ∈ filter, attached.Reachable)
    (free : ∀ text ∈ (element (.make elementType predicates filter)).givenTexts,
      Free text.toList)
    (plain : (element (.make elementType predicates filter)).followsMembers = false) :
    Nested 1 (element (.make elementType predicates filter)).text.toList := by
  obtain ⟨front, frontFree, written⟩ := toList_text_element free
  rw [written]
  refine (Nested.of_free 1 frontFree).append (Nested.append ?_ (.of_free 1 (by decide)))
  cases filter with
  | none => exact .of_free 1 (by decide)
  | some attached =>
      obtain ⟨complete, clause⟩ := (filtered attached rfl).complete
      have named : ∀ name ∈ attached.condition.inputSet?, Free name.toList :=
        fun name given => free name (by
          simp only [Option.mem_def] at given
          simp [givenTexts, ElementStatement.make, given])
      have noMembership : attached.condition.followsMembers = false := by
        simpa [followsMembers, ElementStatement.make] using plain
      rw [Option.map_some, clause]
      exact (Nested.of_free 0 (FilterCondition.free_clause complete named noMembership)).enclosed

/-- **Texts without memberships are nested within two**, and within one if the statement amounts
to no block. -/
theorem WellFormed.nested_text {statement : Statement} (formed : statement.WellFormed) :
    statement.Unparenthesized → (∀ node ∈ statement.nodes, node.followsMembers = false) →
      ∀ {limit : Nat}, 1 ≤ limit → firstBlock? statement = none ∨ 2 ≤ limit →
        Nested limit statement.text.toList := by
  induction formed with
  | element elementType predicates filtered =>
      intro free plain limit positive _
      exact (nested_text_element filtered free.self (forall_mem_nodes_iff.mp plain).1).mono positive
  | setReference name =>
      intro free _ limit _ _
      exact .of_free limit (free_text_setReference (free.self name (List.mem_singleton.mpr rfl)))
  | out verbosity => exact fun _ _ limit _ _ => .of_free limit (free_text_out verbosity)
  | recurse direction => exact fun _ _ limit _ _ => .of_free limit (free_text_recurse direction)
  | settings made => exact fun free _ limit _ _ => .of_free limit (free_text_settings free.self)
  | @union result members named flat _ nested =>
      intro free plain limit _ room
      have below := (forall_mem_nodes_iff.mp plain).2
      -- The members amount to no block, which leaves the second level to them.
      have held : Nested 1 (texts members).toList := nested_texts fun member held =>
        nested member held (free.of_mem_children member held) (below member held) (Nat.le_refl 1)
          (.inl (firstBlockOf?_eq_none_iff.mp flat member held))
      have ending : Free (Phrase.resultChars result) :=
        free_resultChars (free.self result (List.mem_singleton.mpr rfl))
      rw [toList_text_union]
      exact (held.enclosed.append (.of_free 2 ending)).mono
        (room.resolve_left (Option.some_ne_none _))
  | @difference result first second named flat _ _ firstNested secondNested =>
      intro free plain limit _ room
      have operands := free.of_mem_children
      have below := (forall_mem_nodes_iff.mp plain).2
      rw [children, DifferenceStatement.written, List.forall_mem_cons,
        List.forall_mem_singleton] at operands below
      rw [firstBlockOf?_eq_none_iff, List.forall_mem_cons, List.forall_mem_singleton] at flat
      have firstHeld := firstNested operands.1 below.1 (Nat.le_refl 1) (.inl flat.1)
      have secondHeld := secondNested operands.2 below.2 (Nat.le_refl 1) (.inl flat.2)
      have minus : Nested 1 " - ".toList := .of_free 1 (by decide)
      have ending : Free (Phrase.resultChars result) :=
        free_resultChars (free.self result (List.mem_singleton.mpr rfl))
      rw [toList_text_difference]
      exact ((firstHeld.append (minus.append secondHeld)).enclosed.append
        (.of_free 2 ending)).mono (room.resolve_left (Option.some_ne_none _))
  | sequence _ nested =>
      intro free plain limit positive room
      have below := (forall_mem_nodes_iff.mp plain).2
      refine nested_texts fun statement held => ?_
      refine nested statement held (free.of_mem_children statement held) (below statement held)
        positive (room.imp_left fun flat => ?_)
      exact firstBlockOf?_eq_none_iff.mp flat statement held

/-! ## Parentheses of reachable statements -/

/-- **The parentheses in the text of a statement.** The closing parentheses outnumber the opening
ones by the number of selections in the tree that follow memberships. If there is none, between
zero and two parentheses are open at every place, and none is at the end of each statement of a
sequence that is submitted. -/
theorem Reachable.parentheses_of_text {statement : Statement} (reachable : statement.Reachable)
    (free : statement.Unparenthesized) :
    (statement.text.toList.count ')' : Int) - statement.text.toList.count '('
        = statement.nodes.countP followsMembers ∧
      ((∀ node ∈ statement.nodes, node.followsMembers = false) →
        (∀ front, front <+: statement.text.toList → 0 ≤ depth front ∧ depth front ≤ 2) ∧
          ∀ sequence : Sequence, statement = .sequence sequence →
            ∀ before after, sequence.statements = before ++ after →
              (texts before).toList <+: sequence.text.toList ∧
                depth (texts before).toList = 0) := by
  have formed := reachable.wellFormed
  constructor
  · have counted := formed.depth_text free
    rw [depth] at counted
    omega
  · intro plain
    refine ⟨(formed.nested_text free plain (by decide) (.inr (Nat.le_refl 2))).bounded, ?_⟩
    rintro sequence rfl before after split
    have below := (forall_mem_nodes_iff.mp plain).2
    have each : ∀ statement ∈ sequence.statements, Nested 2 statement.text.toList :=
      fun statement held => (formed.of_mem_children statement held).nested_text
        (free.of_mem_children statement held) (below statement held) (by decide)
        (.inr (Nat.le_refl 2))
    have text : sequence.text = texts sequence.statements := by
      cases formed with
      | sequence _ => rfl
    rw [split, List.forall_mem_append] at each
    rw [text, split, texts_append, String.toList_append]
    exact ⟨List.prefix_append _ _, (nested_texts each.1).closed⟩

/-- A union of a way and of the nodes that pass a filter, and an instruction to count them. -/
def wayAndNodes (filter : ElementFilter) : Sequence :=
  Sequence.ofList [.union (UnionStatement.written "all"
    [.element (.make .way [.present "highway"] (some (.written (.id [7])))),
      .element (.make .node [] (some filter))]), .out (.make .count)]

theorem wayAndNodes_reachable {filter : ElementFilter} (reachable : filter.Reachable) :
    (Statement.sequence (wayAndNodes filter)).Reachable := by
  have identified : ElementFilter.Reachable (.written (.id [7])) :=
    .make (show ElementFilter.ids [7] = .ok _ from rfl)
  refine .sequence (List.forall_mem_cons.mpr ⟨?_, List.forall_mem_singleton.mpr (.out .count)⟩)
  refine (WellFormed.union (by decide) rfl (List.forall_mem_cons.mpr
    ⟨.element _ _ ?_, List.forall_mem_singleton.mpr (.element _ _ ?_)⟩)).reachable
  · rintro attached ⟨⟩
    exact identified
  · rintro attached ⟨⟩
    exact reachable

/-- The nodes of the ways before close one parenthesis too many. The nodes with some id do not:
two parentheses are open inside the union, and none is after it. -/
theorem parentheses_of_wayAndNodes :
    (wayAndNodes (.recurse .ways)).text
        = "(way[\"highway\"](id:7);node(w));)->.all;out count;" ∧
      ((wayAndNodes (.recurse .ways)).text.toList.count ')' : Int)
        - (wayAndNodes (.recurse .ways)).text.toList.count '(' = 1 ∧
      (∀ front, front <+: (wayAndNodes (.written (.id [8]))).text.toList →
        0 ≤ depth front ∧ depth front ≤ 2) ∧
      depth (texts ((wayAndNodes (.written (.id [8]))).statements.take 1)).toList = 0 := by
  have identified : ElementFilter.Reachable (.written (.id [8])) :=
    .make (show ElementFilter.ids [8] = .ok _ from rfl)
  obtain ⟨counted, -⟩ := (wayAndNodes_reachable (.recurse .ways)).parentheses_of_text (by decide)
  obtain ⟨bounded, ends⟩ :=
    ((wayAndNodes_reachable identified).parentheses_of_text (by decide)).2 (by decide)
  exact ⟨by decide +kernel, counted, bounded,
    (ends _ rfl _ _ (List.take_append_drop 1 _).symm).2⟩

end Statement

end OverpassQuery

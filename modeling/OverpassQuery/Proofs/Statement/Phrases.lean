import OverpassQuery.Proofs.Statement.ClauseText

/-!
# Statements once sequences are read through

A sequence adds nothing to the text of its statements. What a statement amounts to when
each sequence is replaced by its statements, at the top, among the members of a union and in
the operands of a difference, is a list of phrases (`Statement.phrases`).

The text of a well-formed statement is the text of its phrases
(`Statement.WellFormed.toList_text`). The phrases of a plain statement, whose names and
values do not contain the characters that would close them, are plain themselves
(`Statement.WellFormed.phrases_plain`).
-/

set_option autoImplicit false

namespace OverpassQuery

/-! ## Phrases -/

/-- A statement in which no sequence is left. Filters are kept as their clauses, and settings
with the options after the value. -/
inductive Phrase where
  | element (elementType : ElementType) (predicates : List TagPredicate) (clause : Option String)
  | setReference (name : String)
  | out (verbosity : Verbosity)
  | recurse (direction : RecurseDirection)
  | settings (entries : List (SettingKey × String))
  | union (result : String) (members : List Phrase)
  | difference (result : String) (first second : List Phrase)

namespace Statement

mutual

/-- What a statement amounts to once sequences are read through. -/
def phrases : Statement → List Phrase
  | .element selection =>
      [.element selection.elementType selection.predicates
        (selection.filter.map ElementFilter.clause)]
  | .setReference reference => [.setReference reference.name]
  | .out instruction => [.out instruction.verbosity]
  | .recurse instruction => [.recurse instruction.direction]
  | .settings block =>
      [.settings (block.settings.map fun setting =>
        (setting.key, setting.value ++ setting.options))]
  | .union ⟨result, members, _⟩ => [.union result (phrasesOfAll members)]
  | .difference ⟨result, first, second, _⟩ => [.difference result (phrases first) (phrases second)]
  | .sequence ⟨statements, _⟩ => phrasesOfAll statements

/-- What a list of statements amounts to once sequences are read through. -/
def phrasesOfAll : List Statement → List Phrase
  | [] => []
  | statement :: rest => phrases statement ++ phrasesOfAll rest

end

theorem phrasesOfAll_eq (statements : List Statement) :
    phrasesOfAll statements = statements.flatMap phrases := by
  induction statements with
  | nil => rfl
  | cons statement rest ih => rw [phrasesOfAll, ih, List.flatMap_cons]

end Statement

/-! ## The text of phrases -/

namespace Phrase

/-- The characters between the last predicate of a selection and its semicolon. -/
def clauseChars : Option String → List Char
  | some clause => '(' :: (clause.toList ++ [')'])
  | none => []

/-- The characters of a setting. -/
def entryChars (entry : SettingKey × String) : List Char :=
  '[' :: (entry.1.name.toList ++ ':' :: (entry.2.toList ++ [']']))

/-- The end of a block, after the closing parenthesis. -/
def resultChars (result : String) : List Char := '-' :: '>' :: '.' :: (result.toList ++ [';'])

mutual

/-- The characters of a phrase. -/
def chars : Phrase → List Char
  | .element elementType predicates clause =>
      elementType.name.toList
        ++ (predicates.flatMap (fun predicate => predicate.text.toList)
          ++ (clauseChars clause ++ [';']))
  | .setReference name => '.' :: (name.toList ++ [';'])
  | .out verbosity => "out ".toList ++ (verbosity.name.toList ++ [';'])
  | .recurse direction => direction.symbol.toList ++ [';']
  | .settings entries => entries.flatMap entryChars ++ [';']
  | .union result members => '(' :: (charsOfAll members ++ ')' :: resultChars result)
  | .difference result first second =>
      '(' :: (charsOfAll first
        ++ ' ' :: '-' :: ' ' :: (charsOfAll second ++ ')' :: resultChars result))

/-- The characters of a list of phrases. -/
def charsOfAll : List Phrase → List Char
  | [] => []
  | phrase :: rest => chars phrase ++ charsOfAll rest

end

theorem charsOfAll_eq (phrases : List Phrase) : charsOfAll phrases = phrases.flatMap chars := by
  induction phrases with
  | nil => rfl
  | cons phrase rest ih => rw [charsOfAll, ih, List.flatMap_cons]

theorem charsOfAll_append (first second : List Phrase) :
    charsOfAll (first ++ second) = charsOfAll first ++ charsOfAll second := by
  rw [charsOfAll_eq, charsOfAll_eq, charsOfAll_eq, List.flatMap_append]

end Phrase

namespace Statement

open Phrase

theorem toList_texts {statements : List Statement}
    (written : ∀ statement ∈ statements,
      statement.text.toList = charsOfAll statement.phrases) :
    (texts statements).toList = charsOfAll (phrasesOfAll statements) := by
  induction statements with
  | nil => rw [texts_nil, phrasesOfAll, charsOfAll, String.toList_empty]
  | cons statement rest ih =>
      rw [List.forall_mem_cons] at written
      rw [texts_cons, String.toList_append, phrasesOfAll, charsOfAll_append, written.1,
        ih written.2]

theorem toList_render_element (elementType : ElementType) (predicates : List TagPredicate)
    (filter : Option ElementFilter) :
    (ElementStatement.render elementType predicates filter).toList
      = chars (.element elementType predicates (filter.map ElementFilter.clause)) := by
  cases filter with
  | none =>
      simp [ElementStatement.render, chars, clauseChars, String.toList_join, List.flatMap_map]
  | some attached =>
      simp [ElementStatement.render, chars, clauseChars, String.toList_join, List.flatMap_map]

theorem toList_settings (settings : List Setting) :
    (SettingsStatement.make settings).text.toList
      = chars (.settings (settings.map fun setting =>
          (setting.key, setting.value ++ setting.options))) := by
  simp [SettingsStatement.make, chars, String.toList_join, List.flatMap_map, Setting.text,
    entryChars]

/-- **A well-formed statement has the text of its phrases.** -/
theorem WellFormed.toList_text {statement : Statement} (formed : statement.WellFormed) :
    statement.text.toList = charsOfAll statement.phrases := by
  induction formed with
  | element elementType predicates filtered =>
      rw [phrases, charsOfAll, charsOfAll, List.append_nil]
      exact toList_render_element elementType predicates _
  | setReference name => simp [text, SetReference.make, phrases, charsOfAll, chars]
  | out verbosity => simp [text, OutStatement.make, phrases, charsOfAll, chars]
  | recurse direction => simp [text, RecurseStatement.make, phrases, charsOfAll, chars]
  | settings made =>
      rw [phrases, charsOfAll, charsOfAll, List.append_nil]
      exact toList_settings _
  | union named flat formed written =>
      simp [text, UnionStatement.written, UnionStatement.opening, UnionStatement.closing,
        toList_texts written, phrases, charsOfAll, chars, resultChars]
  | difference named flat _ _ first second =>
      rw [text]
      simp [DifferenceStatement.written, first, second, phrases, charsOfAll, chars, resultChars]
  | sequence formed written => exact toList_texts written

end Statement

/-! ## Plain statements and plain phrases -/

/-- Key and value contain no quote, between which they are written. -/
def TagPredicate.Plain (predicate : TagPredicate) : Prop :=
  '"' ∉ predicate.key.toList ∧ ∀ value ∈ predicate.value?, '"' ∉ value.toList

instance (predicate : TagPredicate) : Decidable predicate.Plain :=
  inferInstanceAs (Decidable (_ ∧ _))

namespace Statement

/-- Keys and values of tags contain no quote, names of sets are names, and values and options
of settings contain no closing bracket. Only the node itself is looked at. -/
def PlainNode : Statement → Prop
  | .element selection =>
      (∀ predicate ∈ selection.predicates, predicate.Plain) ∧
        ∀ filter ∈ selection.filter, ∀ name ∈ filter.condition.inputSet?, IsSetName name
  | .setReference reference => IsSetName reference.name
  | .settings block =>
      ∀ setting ∈ block.settings, ']' ∉ setting.value.toList ∧ ']' ∉ setting.options.toList
  | .union block => IsSetName block.result
  | .difference block => IsSetName block.result
  | _ => True

instance : DecidablePred PlainNode
  | .element _ => inferInstanceAs (Decidable (_ ∧ _))
  | .setReference _ => inferInstanceAs (Decidable (IsSetName _))
  | .settings _ => inferInstanceAs (Decidable (∀ _ ∈ _, _))
  | .union _ => inferInstanceAs (Decidable (IsSetName _))
  | .difference _ => inferInstanceAs (Decidable (IsSetName _))
  | .out _ | .recurse _ | .sequence _ => inferInstanceAs (Decidable True)

/-- Every node is plain. -/
def Plain (statement : Statement) : Prop := ∀ node ∈ statement.nodes, node.PlainNode

instance (statement : Statement) : Decidable statement.Plain :=
  List.decidableBAll PlainNode statement.nodes

theorem Plain.self {statement : Statement} (plain : statement.Plain) : statement.PlainNode :=
  plain statement (mem_nodes_iff.mpr (.inl rfl))

theorem Plain.of_mem_children {statement : Statement} (plain : statement.Plain) :
    ∀ child ∈ statement.children, child.Plain :=
  fun child held node occurs => plain node (mem_nodes_iff.mpr (.inr ⟨child, held, occurs⟩))

end Statement

theorem IsSetName.not_mem {name : String} (named : IsSetName name) {char : Char}
    (excluded : isClauseChar char = false) : char ∉ name.toList := by
  intro occurs
  rw [named.isClauseText char occurs] at excluded
  cases excluded

namespace Phrase

/-- No text in the phrase contains the character that closes it. -/
inductive Plain : Phrase → Prop where
  | element {elementType : ElementType} {predicates : List TagPredicate} {clause : Option String}
      (quoted : ∀ predicate ∈ predicates, predicate.Plain)
      (closed : ∀ text ∈ clause, ';' ∉ text.toList) :
      Plain (.element elementType predicates clause)
  | setReference {name : String} (closed : ';' ∉ name.toList) : Plain (.setReference name)
  | out (verbosity : Verbosity) : Plain (.out verbosity)
  | recurse (direction : RecurseDirection) : Plain (.recurse direction)
  | settings {entries : List (SettingKey × String)}
      (closed : ∀ entry ∈ entries, ']' ∉ entry.2.toList) : Plain (.settings entries)
  | union {result : String} {members : List Phrase} (closed : ';' ∉ result.toList)
      (plain : ∀ member ∈ members, Plain member) : Plain (.union result members)
  | difference {result : String} {first second : List Phrase} (closed : ';' ∉ result.toList)
      (firstPlain : ∀ phrase ∈ first, Plain phrase)
      (secondPlain : ∀ phrase ∈ second, Plain phrase) : Plain (.difference result first second)

end Phrase

namespace Statement

open Phrase

theorem phrasesOfAll_plain {statements : List Statement}
    (plain : ∀ statement ∈ statements, ∀ phrase ∈ statement.phrases, phrase.Plain) :
    ∀ phrase ∈ phrasesOfAll statements, phrase.Plain := by
  rw [phrasesOfAll_eq]
  intro phrase occurs
  obtain ⟨statement, member, occurs⟩ := List.mem_flatMap.mp occurs
  exact plain statement member phrase occurs

/-- **A plain well-formed statement has plain phrases.** -/
theorem WellFormed.phrases_plain {statement : Statement} (formed : statement.WellFormed) :
    statement.Plain → ∀ phrase ∈ statement.phrases, phrase.Plain := by
  induction formed with
  | element elementType predicates filtered =>
      intro plain
      obtain ⟨quoted, named⟩ := plain.self
      refine List.forall_mem_singleton.mpr (.element quoted fun text written => ?_)
      obtain ⟨attached, isFilter, rfl⟩ := Option.map_eq_some_iff.mp written
      obtain ⟨complete, clause⟩ := (filtered attached isFilter).complete
      rw [clause]
      exact FilterCondition.semicolon_not_mem_clause complete (named attached isFilter)
  | setReference name =>
      exact fun plain => List.forall_mem_singleton.mpr (.setReference (plain.self.not_mem rfl))
  | out verbosity => exact fun _ => List.forall_mem_singleton.mpr (.out verbosity)
  | recurse direction => exact fun _ => List.forall_mem_singleton.mpr (.recurse direction)
  | settings made =>
      intro plain
      refine List.forall_mem_singleton.mpr (.settings fun entry written => ?_)
      obtain ⟨setting, member, rfl⟩ := List.mem_map.mp written
      obtain ⟨value, options⟩ := plain.self setting member
      simp [value, options]
  | union named flat formed plainMembers =>
      intro plain
      refine List.forall_mem_singleton.mpr (.union (plain.self.not_mem rfl) ?_)
      exact phrasesOfAll_plain fun member held =>
        plainMembers member held (plain.of_mem_children member held)
  | difference named flat _ _ firstPlain secondPlain =>
      intro plain
      have operands := plain.of_mem_children
      rw [children, DifferenceStatement.written, List.forall_mem_cons,
        List.forall_mem_singleton] at operands
      exact List.forall_mem_singleton.mpr
        (.difference (plain.self.not_mem rfl) (firstPlain operands.1) (secondPlain operands.2))
  | sequence formed plainStatements =>
      intro plain
      exact phrasesOfAll_plain fun statement held =>
        plainStatements statement held (plain.of_mem_children statement held)

end Statement

end OverpassQuery

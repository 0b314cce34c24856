import OverpassQuery.Proofs.Statement.Phrases
import OverpassQuery.Proofs.Statement.PredicateText

/-!
# Texts that can be read in one way

The text of a query has few delimiters: an empty block of settings is a semicolon, a
membership brings a parenthesis of its own, an operand of a difference may be empty. Still
the text of a plain statement determines its phrases
(`Statement.Reachable.phrases_eq_of_text_eq`).

The first character of a phrase tells its kind (`Phrase.kindOfFirst`), and no phrase begins with
a character that ends a list of phrases. Each kind is cut off at a character that its
names and values do not contain, and the members of blocks are lists of phrases
again. So plain phrases are self-delimiting, by induction on the phrase
(`Phrase.Plain.selfDelimiting`).
-/

set_option autoImplicit false

namespace OverpassQuery

/-! ## Keywords -/

theorem ElementType.selfDelimiting (elementType : ElementType) :
    SelfDelimiting (fun elementType => elementType.name.toList) (fun _ => True) elementType := by
  intro other _ rest rest' same
  cases elementType <;> cases other <;> simp_all [name]

theorem RecurseDirection.eq_of_symbol_eq {first second : RecurseDirection}
    (same : first.symbol.toList = second.symbol.toList) : first = second := by
  cases first <;> cases second <;> simp_all [symbol]

theorem RecurseDirection.semicolon_not_mem_symbol (direction : RecurseDirection) :
    ';' ∉ direction.symbol.toList := by
  cases direction <;> decide

theorem SettingKey.eq_of_name_eq {first second : SettingKey}
    (same : first.name.toList = second.name.toList) : first = second := by
  cases first <;> cases second <;> simp_all [name]

theorem SettingKey.colon_not_mem_name (key : SettingKey) : ':' ∉ key.name.toList := by
  cases key <;> decide

namespace Verbosity

/-- All verbosities. -/
def all : List Verbosity :=
  [Detail.ids, .skeleton, .body, .tags, .metadata].flatMap
      (fun level => [.detail level false, .detail level true])
    ++ [.geometry, .boundingBox, .center, .ascending, .quadtile, .count]

theorem mem_all (verbosity : Verbosity) : verbosity ∈ all := by
  cases verbosity with
  | detail level withoutIds => cases level <;> cases withoutIds <;> decide
  | _ => decide

theorem eq_of_name_eq {first second : Verbosity}
    (same : first.name.toList = second.name.toList) : first = second := by
  have distinct : ∀ first ∈ all, ∀ second ∈ all,
      first.name.toList = second.name.toList → first = second := by decide
  exact distinct first first.mem_all second second.mem_all same

theorem semicolon_not_mem_name (verbosity : Verbosity) : ';' ∉ verbosity.name.toList := by
  have free : ∀ verbosity ∈ all, ';' ∉ verbosity.name.toList := by decide
  exact free verbosity verbosity.mem_all

end Verbosity

/-! ## Predicates and settings -/

/-- Where there is no quote, none can be taken for the closing one. -/
theorem TagPredicate.Plain.legible {predicate : TagPredicate} (plain : predicate.Plain) :
    predicate.Legible := by
  have legible : ∀ {ends : List Char} {text : String}, '"' ∉ text.toList →
      NoQuoteBefore ends text :=
    fun free char _ occurs => free (occurs.subset List.mem_cons_self)
  cases predicate with
  | present key => exact legible plain.1
  | absent key => exact legible plain.1
  | compares key comparison value => exact ⟨legible plain.1, legible (plain.2 value rfl)⟩

namespace Phrase

theorem entry_selfDelimiting {entry : SettingKey × String} (closed : ']' ∉ entry.2.toList) :
    SelfDelimiting entryChars (fun entry => ']' ∉ entry.2.toList) entry := by
  intro other otherClosed rest rest' same
  simp only [entryChars, List.cons_append, List.append_assoc, List.nil_append, List.cons.injEq,
    true_and] at same
  obtain ⟨keys, afterKey⟩ := eq_and_rest_eq_of_cut entry.1.colon_not_mem_name
    other.1.colon_not_mem_name same
  obtain ⟨texts, afterText⟩ := eq_and_rest_eq_of_cut_text closed otherClosed afterKey
  exact ⟨Prod.ext (SettingKey.eq_of_name_eq keys) texts, afterText⟩

/-! ## First characters -/

/-- The kinds that a first character tells apart; a difference begins as a union does. -/
inductive Kind where
  | element
  | setReference
  | out
  | recurse
  | settings
  | block
  deriving DecidableEq

/-- The kind of a phrase. -/
def kind : Phrase → Kind
  | .element .. => .element
  | .setReference _ => .setReference
  | .out _ => .out
  | .recurse _ => .recurse
  | .settings _ => .settings
  | .union .. => .block
  | .difference .. => .block

/-- The kind of a phrase that begins with a character, if phrases begin with it. -/
def kindOfFirst (char : Char) : Option Kind :=
  if ['n', 'w', 'r', 'a'].contains char then some .element
  else if char = '.' then some .setReference
  else if char = 'o' then some .out
  else if ['<', '>'].contains char then some .recurse
  else if ['[', ';'].contains char then some .settings
  else if char = '(' then some .block
  else none

/-- The first character of a phrase tells its kind. -/
theorem kindOfFirst_eq (phrase : Phrase) :
    ∃ char rest, phrase.chars = char :: rest ∧ kindOfFirst char = some phrase.kind := by
  cases phrase with
  | element elementType predicates clause =>
      rw [chars]
      cases elementType with
      | node => exact ⟨'n', _, rfl, rfl⟩
      | way => exact ⟨'w', _, rfl, rfl⟩
      | relation => exact ⟨'r', _, rfl, rfl⟩
      | area => exact ⟨'a', _, rfl, rfl⟩
  | setReference name => exact ⟨'.', _, by rw [chars], rfl⟩
  | out verbosity => exact ⟨'o', _, by rw [chars]; rfl, rfl⟩
  | recurse direction =>
      rw [chars]
      cases direction with
      | down => exact ⟨'<', _, rfl, rfl⟩
      | downRelations => exact ⟨'<', _, rfl, rfl⟩
      | up => exact ⟨'>', _, rfl, rfl⟩
      | upRelations => exact ⟨'>', _, rfl, rfl⟩
  | settings entries =>
      rw [chars]
      cases entries with
      | nil => exact ⟨';', _, rfl, rfl⟩
      | cons entry rest => exact ⟨'[', _, rfl, rfl⟩
  | union result members => exact ⟨'(', _, by rw [chars], rfl⟩
  | difference result first second => exact ⟨'(', _, by rw [chars], rfl⟩

theorem kind_eq_of_append_eq {first second : Phrase} {rest rest' : List Char}
    (same : first.chars ++ rest = second.chars ++ rest') : first.kind = second.kind := by
  obtain ⟨char, _, begun, kind⟩ := first.kindOfFirst_eq
  obtain ⟨char', _, begun', kind'⟩ := second.kindOfFirst_eq
  rw [begun, begun', List.cons_append, List.cons_append] at same
  obtain rfl := (List.cons.inj same).1
  exact Option.some.inj (kind.symm.trans kind')

/-- Whether a phrase may begin with a character. -/
def Starts (char : Char) : Prop := kindOfFirst char ≠ none

theorem beginsWith_starts : BeginsWith Starts chars := by
  intro phrase
  obtain ⟨char, rest, begun, kind⟩ := phrase.kindOfFirst_eq
  refine ⟨char, rest, begun, ?_⟩
  rw [Starts, kind]
  exact Option.some_ne_none _

theorem stops_nil : Stops Starts [] := nofun

theorem stops_of_kindOfFirst_eq_none {char : Char} (ends : kindOfFirst char = none)
    (rest : List Char) : Stops Starts (char :: rest) := by
  rintro first ⟨⟩
  exact fun starts => starts ends

/-! ## Phrases -/

theorem eq_and_rest_eq_of_clauseChars {first second : Option String}
    (firstClosed : ∀ text ∈ first, ';' ∉ text.toList)
    (secondClosed : ∀ text ∈ second, ';' ∉ text.toList) {rest rest' : List Char}
    (same : clauseChars first ++ ';' :: rest = clauseChars second ++ ';' :: rest') :
    first = second ∧ rest = rest' := by
  have free : ∀ clause : Option String, (∀ text ∈ clause, ';' ∉ text.toList) →
      ';' ∉ clauseChars clause := by
    intro clause closed
    cases clause with
    | none => exact List.not_mem_nil
    | some text => simp [clauseChars, closed text rfl]
  obtain ⟨equal, follows⟩ := eq_and_rest_eq_of_cut (free first firstClosed)
    (free second secondClosed) same
  refine ⟨?_, follows⟩
  cases first with
  | none =>
      cases second with
      | none => rfl
      | some text => cases equal
  | some text =>
      cases second with
      | none => cases equal
      | some text' =>
          have texts := List.append_cancel_right (List.cons.inj equal).2
          rw [String.toList_inj.mp texts]

theorem eq_and_rest_eq_of_resultChars {first second : String} (firstClosed : ';' ∉ first.toList)
    (secondClosed : ';' ∉ second.toList) {rest rest' : List Char}
    (same : resultChars first ++ rest = resultChars second ++ rest') :
    first = second ∧ rest = rest' := by
  simp only [resultChars, List.cons_append, List.append_assoc, List.nil_append, List.cons.injEq,
    true_and] at same
  exact eq_and_rest_eq_of_cut_text firstClosed secondClosed same

/-- Lists of phrases are determined by their texts, before what ends a list. -/
theorem eq_and_rest_eq_of_charsOfAll {first second : List Phrase}
    (delimiting : ∀ phrase ∈ first, SelfDelimiting chars Plain phrase)
    (plain : ∀ phrase ∈ second, phrase.Plain) {rest rest' : List Char}
    (stops : Stops Starts rest) (stops' : Stops Starts rest')
    (same : charsOfAll first ++ rest = charsOfAll second ++ rest') :
    first = second ∧ rest = rest' := by
  rw [charsOfAll_eq, charsOfAll_eq] at same
  exact flatMap_eq_and_rest_eq_of_append_eq beginsWith_starts delimiting plain stops stops' same

/-- The predicates of a selection end where its clause or its semicolon begins. -/
theorem stops_clauseChars (clause : Option String) (rest : List Char) :
    Stops (· = '[') (clauseChars clause ++ ';' :: rest) := by
  cases clause with
  | none =>
      rintro char ⟨⟩
      decide
  | some text =>
      rintro char ⟨⟩
      decide

theorem eq_and_rest_eq_of_entries {first second : List (SettingKey × String)}
    (firstClosed : ∀ entry ∈ first, ']' ∉ entry.2.toList)
    (secondClosed : ∀ entry ∈ second, ']' ∉ entry.2.toList) {rest rest' : List Char}
    (same : first.flatMap entryChars ++ ';' :: rest = second.flatMap entryChars ++ ';' :: rest') :
    first = second ∧ rest = rest' := by
  have stops : ∀ rest : List Char, Stops (· = '[') (';' :: rest) := by
    rintro rest char ⟨⟩
    decide
  have begins : BeginsWith (· = '[') entryChars := fun entry => ⟨'[', _, rfl, rfl⟩
  obtain ⟨equal, follows⟩ := flatMap_eq_and_rest_eq_of_append_eq begins
    (fun entry member => entry_selfDelimiting (firstClosed entry member)) secondClosed
    (stops rest) (stops rest') same
  exact ⟨equal, (List.cons.inj follows).2⟩

/-- **Plain phrases are self-delimiting.** -/
theorem Plain.selfDelimiting {phrase : Phrase} (plain : phrase.Plain) :
    SelfDelimiting chars Plain phrase := by
  -- Where a list of phrases ends inside a block.
  have closing : ∀ rest : List Char, Stops Starts (')' :: rest) :=
    stops_of_kindOfFirst_eq_none rfl
  have dividing : ∀ rest : List Char, Stops Starts (' ' :: rest) :=
    stops_of_kindOfFirst_eq_none rfl
  induction plain with
  | @element elementType predicates clause quoted closed =>
      intro other otherPlain rest rest' same
      have sameKind := kind_eq_of_append_eq same
      cases otherPlain with
      | element quoted' closed' =>
          simp only [chars, List.append_assoc, List.cons_append, List.nil_append] at same
          obtain ⟨rfl, afterType⟩ := ElementType.selfDelimiting _ _ trivial _ _ same
          obtain ⟨rfl, afterPredicates⟩ := TagPredicate.eq_and_rest_eq_of_texts
            (fun predicate held => (quoted predicate held).legible)
            (fun predicate held => (quoted' predicate held).legible)
            (stops_clauseChars _ _) (stops_clauseChars _ _) afterType
          obtain ⟨rfl, follows⟩ := eq_and_rest_eq_of_clauseChars closed closed' afterPredicates
          exact ⟨rfl, follows⟩
      | _ => cases sameKind
  | @setReference name closed =>
      intro other otherPlain rest rest' same
      have sameKind := kind_eq_of_append_eq same
      cases otherPlain with
      | setReference closed' =>
          simp only [chars, List.append_assoc, List.cons_append, List.nil_append,
            List.cons.injEq, true_and] at same
          obtain ⟨rfl, follows⟩ := eq_and_rest_eq_of_cut_text closed closed' same
          exact ⟨rfl, follows⟩
      | _ => cases sameKind
  | out verbosity =>
      intro other otherPlain rest rest' same
      have sameKind := kind_eq_of_append_eq same
      cases otherPlain with
      | out verbosity' =>
          simp only [chars, List.append_assoc, List.cons_append, List.nil_append] at same
          obtain ⟨names, follows⟩ := eq_and_rest_eq_of_cut verbosity.semicolon_not_mem_name
            verbosity'.semicolon_not_mem_name (List.append_cancel_left same)
          obtain rfl := Verbosity.eq_of_name_eq names
          exact ⟨rfl, follows⟩
      | _ => cases sameKind
  | recurse direction =>
      intro other otherPlain rest rest' same
      have sameKind := kind_eq_of_append_eq same
      cases otherPlain with
      | recurse direction' =>
          simp only [chars, List.append_assoc, List.cons_append, List.nil_append] at same
          obtain ⟨symbols, follows⟩ := eq_and_rest_eq_of_cut direction.semicolon_not_mem_symbol
            direction'.semicolon_not_mem_symbol same
          obtain rfl := RecurseDirection.eq_of_symbol_eq symbols
          exact ⟨rfl, follows⟩
      | _ => cases sameKind
  | settings closed =>
      intro other otherPlain rest rest' same
      have sameKind := kind_eq_of_append_eq same
      cases otherPlain with
      | settings closed' =>
          simp only [chars, List.append_assoc, List.cons_append, List.nil_append] at same
          obtain ⟨rfl, follows⟩ := eq_and_rest_eq_of_entries closed closed' same
          exact ⟨rfl, follows⟩
      | _ => cases sameKind
  | union closed plain delimiting =>
      intro other otherPlain rest rest' same
      have sameKind := kind_eq_of_append_eq same
      cases otherPlain with
      | union closed' plain' =>
          simp only [chars, List.append_assoc, List.cons_append, List.cons.injEq, true_and] at same
          obtain ⟨rfl, afterMembers⟩ := eq_and_rest_eq_of_charsOfAll delimiting plain'
            (closing _) (closing _) same
          obtain ⟨rfl, follows⟩ := eq_and_rest_eq_of_resultChars closed closed'
            (List.cons.inj afterMembers).2
          exact ⟨rfl, follows⟩
      | difference closed' firstPlain' secondPlain' =>
          simp only [chars, List.append_assoc, List.cons_append, List.cons.injEq, true_and] at same
          obtain ⟨_, afterMembers⟩ := eq_and_rest_eq_of_charsOfAll delimiting firstPlain'
            (closing _) (dividing _) same
          cases afterMembers
      | _ => cases sameKind
  | difference closed firstPlain secondPlain firstDelimiting secondDelimiting =>
      intro other otherPlain rest rest' same
      have sameKind := kind_eq_of_append_eq same
      cases otherPlain with
      | union closed' plain' =>
          simp only [chars, List.append_assoc, List.cons_append, List.cons.injEq, true_and] at same
          obtain ⟨_, afterMembers⟩ := eq_and_rest_eq_of_charsOfAll firstDelimiting plain'
            (dividing _) (closing _) same
          cases afterMembers
      | difference closed' firstPlain' secondPlain' =>
          simp only [chars, List.append_assoc, List.cons_append, List.cons.injEq, true_and] at same
          obtain ⟨rfl, afterFirst⟩ := eq_and_rest_eq_of_charsOfAll firstDelimiting firstPlain'
            (dividing _) (dividing _) same
          simp only [List.cons.injEq, true_and] at afterFirst
          obtain ⟨rfl, afterSecond⟩ := eq_and_rest_eq_of_charsOfAll secondDelimiting secondPlain'
            (closing _) (closing _) afterFirst
          obtain ⟨rfl, follows⟩ := eq_and_rest_eq_of_resultChars closed closed'
            (List.cons.inj afterSecond).2
          exact ⟨rfl, follows⟩
      | _ => cases sameKind

end Phrase

/-! ## Statements -/

namespace Statement

open Phrase

/-- **The text of a query determines the query.** Two plain reachable statements with the same
text amount to the same phrases once their sequences are read through. -/
theorem Reachable.phrases_eq_of_text_eq {first second : Statement}
    (firstReachable : first.Reachable) (secondReachable : second.Reachable)
    (firstPlain : first.Plain) (secondPlain : second.Plain) (same : first.text = second.text) :
    first.phrases = second.phrases := by
  have firstFormed := firstReachable.wellFormed
  have secondFormed := secondReachable.wellFormed
  have sameChars : charsOfAll first.phrases ++ [] = charsOfAll second.phrases ++ [] := by
    rw [← firstFormed.toList_text, ← secondFormed.toList_text, same]
  have delimiting : ∀ phrase ∈ first.phrases, SelfDelimiting chars Phrase.Plain phrase :=
    fun phrase occurs => (firstFormed.phrases_plain firstPlain phrase occurs).selfDelimiting
  exact (eq_and_rest_eq_of_charsOfAll delimiting (secondFormed.phrases_plain secondPlain)
    stops_nil stops_nil sameChars).1

/-- An empty block of settings and a difference with an empty operand. -/
def flatQuery : Statement :=
  .sequence (Sequence.ofList [.settings (.make []),
    .difference (DifferenceStatement.written "a" (.sequence Sequence.empty)
      (.setReference (.make "b")))])

/-- The same with sequences around the difference and around its second operand. -/
def nestedQuery : Statement :=
  .sequence (Sequence.ofList [.settings (.make []),
    .sequence (Sequence.ofList [.difference (DifferenceStatement.written "a"
      (.sequence Sequence.empty) (.sequence (Sequence.ofList [.setReference (.make "b")])))])])

theorem flatQuery_reachable : flatQuery.Reachable := by
  have settings : (Statement.settings (.make [])).WellFormed := .settings (by simp)
  have empty : (Statement.sequence (Sequence.ofList [])).WellFormed := .sequence (by simp)
  have difference : (Statement.difference (DifferenceStatement.written "a"
      (.sequence (Sequence.ofList [])) (.setReference (.make "b")))).WellFormed :=
    .difference (by decide) rfl empty (.setReference "b")
  exact (WellFormed.sequence (List.forall_mem_cons.mpr
    ⟨settings, List.forall_mem_singleton.mpr difference⟩)).reachable

theorem nestedQuery_reachable : nestedQuery.Reachable := by
  have settings : (Statement.settings (.make [])).WellFormed := .settings (by simp)
  have empty : (Statement.sequence (Sequence.ofList [])).WellFormed := .sequence (by simp)
  have operand : (Statement.sequence (Sequence.ofList [.setReference (.make "b")])).WellFormed :=
    .sequence (List.forall_mem_singleton.mpr (.setReference "b"))
  have difference : (Statement.difference (DifferenceStatement.written "a"
      (.sequence (Sequence.ofList []))
      (.sequence (Sequence.ofList [.setReference (.make "b")])))).WellFormed :=
    .difference (by decide) rfl empty operand
  exact (WellFormed.sequence (List.forall_mem_cons.mpr ⟨settings, List.forall_mem_singleton.mpr
    (.sequence (List.forall_mem_singleton.mpr difference))⟩)).reachable

theorem phrases_of_flatQuery :
    flatQuery.Reachable ∧ nestedQuery.Reachable ∧ flatQuery.Plain ∧ nestedQuery.Plain ∧
      flatQuery.text = ";( - .b;)->.a;" ∧ flatQuery.text = nestedQuery.text ∧
      flatQuery.phrases = nestedQuery.phrases := by
  have flatPlain : flatQuery.Plain := by decide +kernel
  have nestedPlain : nestedQuery.Plain := by decide +kernel
  have same : flatQuery.text = nestedQuery.text := by decide +kernel
  exact ⟨flatQuery_reachable, nestedQuery_reachable, flatPlain, nestedPlain, by decide +kernel,
    same, Reachable.phrases_eq_of_text_eq flatQuery_reachable nestedQuery_reachable flatPlain
      nestedPlain same⟩

end Statement

end OverpassQuery

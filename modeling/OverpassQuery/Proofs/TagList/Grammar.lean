import Mathlib.Data.Set.Subsingleton
import OverpassQuery.Proofs.State.Outcomes
import OverpassQuery.TagList.Parser

/-!
# The grammar of tag lists

A tag list is empty, or consists of predicates with `&` between them. A predicate is `!`
before a text, or a text, or two texts with a comparison between them; a text is a name or a
quoted word. The derivations of this grammar are trees (`TagList.Derivation`). A tree has the
tokens at its leaves (`Derivation.tokens`), and each of its parts denotes a predicate
(`Derivation.predicates`). Neither is defined through the parser.

The parser accepts a list of tokens exactly when a tree has them at its leaves, and returns
what the tree denotes; no other tree has the same leaves (`TagList.ofTokens_eq_ok_iff`).

A predicate takes as many tokens as it can, and so do the parser and the grammar in the same
way: after a complete predicate the list ends or goes on with `&`
(`TagList.AtBoundary`). There the parser stops where the tree does
(`TagList.readPredicate_tokens`), and of two trees that begin the same list neither goes on
where the other stops (`TagList.Derivation.Predicate.eq_and_rest_eq_of_tokens`).
-/

set_option autoImplicit false

namespace OverpassQuery

namespace TagList

/-! ## Derivations -/

/-- A key or a value: a name or a quoted word. -/
inductive Derivation.Text where
  | name (text : String)
  | quoted (text : String)

/-- A predicate: `!` and a text, a text, or two texts with a comparison between them. -/
inductive Derivation.Predicate where
  | absent (key : Derivation.Text)
  | present (key : Derivation.Text)
  | compares (key : Derivation.Text) (operator : Comparison) (value : Derivation.Text)

/-- A tag list: nothing, or a predicate and any number of further ones, each after `&`. -/
inductive Derivation where
  | empty
  | conjunction (first : Derivation.Predicate) (rest : List Derivation.Predicate)

namespace Derivation

/-- The token of a text. -/
def Text.token : Text → Token
  | .name text => .name text
  | .quoted text => .quoted text

/-- What a text says, which does not depend on how it is written. -/
def Text.said : Text → String
  | .name text => text
  | .quoted text => text

/-- The tokens of a predicate. -/
def Predicate.tokens : Predicate → List Token
  | .absent key => [.negation, key.token]
  | .present key => [key.token]
  | .compares key operator value => [key.token, .comparison operator, value.token]

/-- What a predicate denotes. -/
def Predicate.denoted : Predicate → TagPredicate
  | .absent key => .absent key.said
  | .present key => .present key.said
  | .compares key operator value => .compares key.said operator value.said

/-- The tokens of further predicates, each after `&`. -/
def furtherTokens (rest : List Predicate) : List Token :=
  rest.flatMap fun predicate => .conjunction :: predicate.tokens

/-- The tokens at the leaves of a derivation. -/
def tokens : Derivation → List Token
  | .empty => []
  | .conjunction first rest => first.tokens ++ furtherTokens rest

/-- What the parts of a derivation denote, in their order. -/
def predicates : Derivation → List TagPredicate
  | .empty => []
  | .conjunction first rest => first.denoted :: rest.map Predicate.denoted

end Derivation

open OverpassQuery.TagList.Derivation

/-! ## Texts -/

theorem Derivation.Text.text?_token (text : Derivation.Text) :
    text.token.text? = some text.said := by
  cases text with
  | name word => rfl
  | quoted word => rfl

theorem Derivation.Text.token_injective : Function.Injective Derivation.Text.token := by
  intro first second same
  cases first <;> cases second <;> simp_all [Derivation.Text.token]

theorem Derivation.Text.token_ne_negation (text : Derivation.Text) : text.token ≠ .negation := by
  cases text with
  | name word => nofun
  | quoted word => nofun

/-- The tokens that can be read as a text are those of texts. -/
theorem exists_text_of_text? {token : Token} {said : String} (reads : token.text? = some said) :
    ∃ text : Derivation.Text, text.token = token ∧ text.said = said := by
  cases token with
  | name word => exact ⟨.name word, rfl, Option.some.inj reads⟩
  | quoted word => exact ⟨.quoted word, rfl, Option.some.inj reads⟩
  | comparison operator => cases reads
  | negation => cases reads
  | conjunction => cases reads

theorem readText_token (role : Role) (index : Nat) (text : Derivation.Text) (rest : List Token) :
    readText role index (text.token :: rest) = .ok (text.said, rest) := by
  rw [readText, text.text?_token]

theorem exists_text_of_readText {role : Role} {index : Nat} {tokens rest : List Token}
    {said : String} (read : readText role index tokens = .ok (said, rest)) :
    ∃ text : Derivation.Text, tokens = text.token :: rest ∧ text.said = said := by
  cases tokens with
  | nil => cases read
  | cons token tokens =>
      rw [readText] at read
      cases reads : token.text? with
      | none =>
          rw [reads] at read
          cases read
      | some word =>
          rw [reads] at read
          obtain ⟨text, rfl, spoken⟩ := exists_text_of_text? reads
          cases read
          exact ⟨text, rfl, spoken⟩

/-! ## Predicates -/

/-- What may follow a predicate: nothing, or `&`. -/
def AtBoundary (rest : List Token) : Prop := ∀ token ∈ rest.head?, token = .conjunction

theorem atBoundary_nil : AtBoundary [] := nofun

theorem atBoundary_conjunction (rest : List Token) : AtBoundary (.conjunction :: rest) := by
  rintro token ⟨⟩
  rfl

/-- What follows does not go on with a predicate. Only a single text may go on, as the key of a
comparison. -/
def Derivation.Predicate.EndsBefore : Derivation.Predicate → List Token → Prop
  | .present _, rest => ∀ operator, rest.head? ≠ some (.comparison operator)
  | _, _ => True

theorem AtBoundary.endsBefore {rest : List Token} (boundary : AtBoundary rest)
    (predicate : Derivation.Predicate) : predicate.EndsBefore rest := by
  cases predicate with
  | present key =>
      intro operator comparison
      cases boundary _ comparison
  | absent key => trivial
  | compares key operator value => trivial

/-- **A predicate is read from its tokens,** unless what follows goes on with it. -/
theorem readPredicate_tokens_append (index : Nat) {predicate : Derivation.Predicate}
    {rest : List Token} (ends : predicate.EndsBefore rest) :
    readPredicate index (predicate.tokens ++ rest) = .ok (predicate.denoted, rest) := by
  cases predicate with
  | absent key =>
      show (readText .key (index + 1) (key.token :: rest) >>= _) = _
      rw [readText_token]
      rfl
  | present key =>
      cases rest with
      | nil => cases key <;> rfl
      | cons next rest =>
          cases next with
          | comparison operator => exact absurd rfl (ends operator)
          | _ => cases key <;> rfl
  | compares key operator value =>
      cases key with
      | _ word =>
        show (readText .value (index + 2) (value.token :: rest) >>= _) = _
        rw [readText_token]
        rfl

/-- A predicate is read from its tokens when the list ends or goes on with `&` there. -/
theorem readPredicate_tokens (index : Nat) (predicate : Derivation.Predicate) {rest : List Token}
    (boundary : AtBoundary rest) :
    readPredicate index (predicate.tokens ++ rest) = .ok (predicate.denoted, rest) :=
  readPredicate_tokens_append index (boundary.endsBefore predicate)

/-- **What the parser reads at the front of a list are the tokens of a predicate,** with which the
rest does not go on. -/
theorem exists_predicate_of_readPredicate {index : Nat} {tokens rest : List Token}
    {predicate : TagPredicate} (read : readPredicate index tokens = .ok (predicate, rest)) :
    ∃ tree : Derivation.Predicate, tree.tokens ++ rest = tokens ∧ tree.denoted = predicate ∧
      tree.EndsBefore rest := by
  unfold readPredicate at read
  split at read
  · obtain ⟨⟨key, after⟩, keyRead, done⟩ := bind_eq_ok_iff.mp read
    obtain ⟨text, rfl, rfl⟩ := exists_text_of_readText keyRead
    cases done
    exact ⟨.absent text, rfl, rfl, trivial⟩
  · obtain ⟨⟨key, after⟩, keyRead, afterKey⟩ := bind_eq_ok_iff.mp read
    obtain ⟨text, rfl, rfl⟩ := exists_text_of_readText keyRead
    simp only at afterKey
    split at afterKey
    · obtain ⟨⟨value, afterValue⟩, valueRead, done⟩ := bind_eq_ok_iff.mp afterKey
      obtain ⟨valueText, rfl, rfl⟩ := exists_text_of_readText valueRead
      cases done
      exact ⟨.compares text _ valueText, rfl, rfl, trivial⟩
    · rename_i noComparison
      cases afterKey
      refine ⟨.present text, rfl, rfl, ?_⟩
      intro operator comparison
      obtain ⟨more, same⟩ := List.head?_eq_some_iff.mp comparison
      exact noComparison operator more same

/-- What goes on with a comparison is not at the end of a predicate. -/
theorem not_atBoundary_comparison (operator : Comparison) (rest : List Token) :
    ¬ AtBoundary (.comparison operator :: rest) := by
  intro boundary
  cases boundary _ rfl

/-- **Two predicates that begin the same list are the same,** when both end where a predicate
may end. -/
theorem Derivation.Predicate.eq_and_rest_eq_of_tokens {first second : Derivation.Predicate}
    {rest rest' : List Token} (boundary : AtBoundary rest) (boundary' : AtBoundary rest')
    (same : first.tokens ++ rest = second.tokens ++ rest') : first = second ∧ rest = rest' := by
  cases first with
  | absent key =>
      cases second with
      | absent key' =>
          simp only [tokens, List.cons_append, List.nil_append, List.cons.injEq, true_and] at same
          exact ⟨congrArg _ (Text.token_injective same.1), same.2⟩
      | present key' => exact absurd (List.cons.inj same).1.symm key'.token_ne_negation
      | compares key' operator value =>
          exact absurd (List.cons.inj same).1.symm key'.token_ne_negation
  | present key =>
      cases second with
      | absent key' => exact absurd (List.cons.inj same).1 key.token_ne_negation
      | present key' =>
          obtain ⟨sameKey, sameRest⟩ := List.cons.inj same
          exact ⟨congrArg _ (Text.token_injective sameKey), sameRest⟩
      | compares key' operator value =>
          obtain rfl := (List.cons.inj same).2
          exact absurd boundary (not_atBoundary_comparison operator _)
  | compares key operator value =>
      cases second with
      | absent key' => exact absurd (List.cons.inj same).1 key.token_ne_negation
      | present key' =>
          obtain rfl := (List.cons.inj same).2
          exact absurd boundary' (not_atBoundary_comparison operator _)
      | compares key' operator' value' =>
          simp only [tokens, List.cons_append, List.nil_append, List.cons.injEq,
            Token.comparison.injEq] at same
          obtain ⟨sameKey, rfl, sameValue, sameRest⟩ := same
          obtain rfl := Text.token_injective sameKey
          obtain rfl := Text.token_injective sameValue
          exact ⟨rfl, sameRest⟩

/-! ## Lists of predicates -/

theorem furtherTokens_cons (predicate : Derivation.Predicate) (rest : List Derivation.Predicate) :
    furtherTokens (predicate :: rest)
      = .conjunction :: (predicate.tokens ++ furtherTokens rest) := by
  rw [furtherTokens, List.flatMap_cons, List.cons_append]
  rfl

/-- Further predicates come after `&`. -/
theorem atBoundary_furtherTokens (rest : List Derivation.Predicate) :
    AtBoundary (furtherTokens rest) := by
  cases rest with
  | nil => exact atBoundary_nil
  | cons predicate rest =>
      rw [furtherTokens_cons]
      exact atBoundary_conjunction _

theorem readConjunction_last {index : Nat} {tokens : List Token} {predicate : TagPredicate}
    (read : readPredicate index tokens = .ok (predicate, [])) :
    readConjunction index tokens = .ok [predicate] := by
  rw [readConjunction]
  split
  all_goals
    rename_i found
    rw [read] at found
    cases found
  rfl

theorem readConjunction_more {index : Nat} {tokens rest : List Token} {predicate : TagPredicate}
    (read : readPredicate index tokens = .ok (predicate, .conjunction :: rest)) :
    readConjunction index tokens
      = (readConjunction (index + (tokens.length - rest.length)) rest).map (predicate :: ·) := by
  rw [readConjunction]
  split
  all_goals
    rename_i found
    rw [read] at found
    cases found
  · rfl
  · contradiction

/-- One or more predicates are read from their tokens, wherever these stand in the list. -/
theorem readConjunction_tokens (first : Derivation.Predicate) (rest : List Derivation.Predicate) :
    ∀ index, readConjunction index (first.tokens ++ furtherTokens rest)
      = .ok (first.denoted :: rest.map Predicate.denoted) := by
  induction rest generalizing first with
  | nil =>
      intro index
      exact readConjunction_last (readPredicate_tokens index first atBoundary_nil)
  | cons second rest ih =>
      intro index
      have read := readPredicate_tokens index first (atBoundary_furtherTokens (second :: rest))
      rw [furtherTokens_cons] at read ⊢
      rw [readConjunction_more read, ih second]
      rfl

/-- One or more predicates that are read have the tokens of the list. -/
theorem exists_predicates_of_readConjunction {index : Nat} {tokens : List Token}
    {predicates : List TagPredicate} (read : readConjunction index tokens = .ok predicates) :
    ∃ (first : Derivation.Predicate) (rest : List Derivation.Predicate),
      first.tokens ++ furtherTokens rest = tokens ∧
        first.denoted :: rest.map Predicate.denoted = predicates := by
  fun_induction readConjunction index tokens generalizing predicates with
  | case1 index tokens cause failed => cases read
  | case2 index tokens predicate last =>
      obtain ⟨tree, leaves, rfl, -⟩ := exists_predicate_of_readPredicate last
      cases read
      exact ⟨tree, [], leaves, rfl⟩
  | case3 index tokens predicate rest more ih =>
      obtain ⟨tree, leaves, rfl, -⟩ := exists_predicate_of_readPredicate more
      obtain ⟨others, follows, rfl⟩ := map_eq_ok_iff.mp read
      obtain ⟨second, further, rfl, rfl⟩ := ih follows
      refine ⟨tree, second :: further, ?_, rfl⟩
      rw [furtherTokens_cons, leaves]
  | case4 index tokens predicate found unended other => cases read

theorem furtherTokens_injective : Function.Injective furtherTokens := by
  intro first
  induction first with
  | nil =>
      intro second same
      cases second with
      | nil => rfl
      | cons predicate rest =>
          rw [furtherTokens_cons] at same
          cases same
  | cons predicate rest ih =>
      intro second same
      cases second with
      | nil =>
          rw [furtherTokens_cons] at same
          cases same
      | cons predicate' rest' =>
          rw [furtherTokens_cons, furtherTokens_cons] at same
          obtain ⟨rfl, sameRest⟩ := Predicate.eq_and_rest_eq_of_tokens
            (atBoundary_furtherTokens rest) (atBoundary_furtherTokens rest')
            (List.cons.inj same).2
          rw [ih sameRest]

/-! ## Tag lists -/

/-- A predicate has a token, so the empty list is the list of no predicates. -/
theorem Derivation.Predicate.tokens_ne_nil (predicate : Derivation.Predicate) :
    predicate.tokens ≠ [] := by
  cases predicate <;> exact List.cons_ne_nil _ _

/-- The grammar is unambiguous. -/
theorem Derivation.tokens_injective : Function.Injective Derivation.tokens := by
  intro first second same
  cases first with
  | empty =>
      cases second with
      | empty => rfl
      | conjunction predicate rest =>
          exact absurd (List.append_eq_nil_iff.mp same.symm).1 predicate.tokens_ne_nil
  | conjunction predicate rest =>
      cases second with
      | empty => exact absurd (List.append_eq_nil_iff.mp same).1 predicate.tokens_ne_nil
      | conjunction predicate' rest' =>
          obtain ⟨rfl, sameRest⟩ := Predicate.eq_and_rest_eq_of_tokens
            (atBoundary_furtherTokens rest) (atBoundary_furtherTokens rest') same
          rw [furtherTokens_injective sameRest]

/-- A list that is not empty is read as one or more predicates. -/
theorem ofTokens_of_ne_nil {tokens : List Token} (nonempty : tokens ≠ []) :
    ofTokens tokens = readConjunction 0 tokens := by
  cases tokens with
  | nil => exact absurd rfl nonempty
  | cons token rest => rfl

/-- What a tree has at its leaves is read as what the tree denotes. -/
theorem ofTokens_tokens (derivation : Derivation) :
    ofTokens derivation.tokens = .ok derivation.predicates := by
  cases derivation with
  | empty => rfl
  | conjunction first rest =>
      have nonempty : first.tokens ++ furtherTokens rest ≠ [] := by
        simp [first.tokens_ne_nil]
      rw [Derivation.tokens, ofTokens_of_ne_nil nonempty, readConjunction_tokens]
      rfl

theorem exists_derivation_of_ofTokens {tokens : List Token} {predicates : List TagPredicate}
    (read : ofTokens tokens = .ok predicates) :
    ∃ derivation : Derivation, derivation.tokens = tokens ∧ derivation.predicates = predicates := by
  by_cases empty : tokens = []
  · subst empty
    cases read
    exact ⟨.empty, rfl, rfl⟩
  · rw [ofTokens_of_ne_nil empty] at read
    obtain ⟨first, rest, leaves, denoted⟩ := exists_predicates_of_readConjunction read
    exact ⟨.conjunction first rest, leaves, denoted⟩

/-- **The parser accepts exactly the grammar.** A list of tokens is read as some predicates
if and only if a derivation has the tokens at its leaves and denotes the predicates, in their
order. There is at most one such derivation. -/
theorem ofTokens_eq_ok_iff (tokens : List Token) (predicates : List TagPredicate) :
    (ofTokens tokens = .ok predicates ↔
        ∃ derivation : Derivation,
          derivation.tokens = tokens ∧ derivation.predicates = predicates) ∧
      {derivation : Derivation | derivation.tokens = tokens}.Subsingleton := by
  refine ⟨⟨exists_derivation_of_ofTokens, ?_⟩, ?_⟩
  · rintro ⟨derivation, rfl, rfl⟩
    exact ofTokens_tokens derivation
  · intro first leaves second leaves'
    have same : first.tokens = second.tokens := leaves.trans leaves'.symm
    exact Derivation.tokens_injective same

/-- A key after `!` takes no value, so nothing derives a comparison there. -/
example : ofTokens [.negation, .name "oneway", .comparison .equal, .name "yes"]
    = .error (.expectedEnd (some (.comparison .equal))) := by cbv

end TagList

end OverpassQuery

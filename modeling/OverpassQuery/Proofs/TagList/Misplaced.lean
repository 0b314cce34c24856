import OverpassQuery.Proofs.TagList.Grammar

/-!
# The first misplaced token

A list of tokens that is no tag list is refused at one of them, or at its end. The message tells
what should stand there: a key, a value, or nothing more. The tokens before that place can be
completed to a tag list, and with the token at the place they no longer can
(`TagList.FirstImpossible`). There is one such place in the list, so the parser blames no token too
early and none too late (`TagList.parse_error_at_first_impossible`).

What the parser has read at any place is a number of predicates with `&` after each, and
then either the beginning of a predicate that lacks a text, or a predicate (`TagList.Reading`).
This decides what is expected, and which tokens do not fit (`TagList.Reading.Stuck`). Refusals
are exactly the lists that begin so and go on with a token that does not fit
(`TagList.exists_reading_of_readConjunction`, `TagList.Reading.readConjunction_eq`). What comes
after this token makes no difference, hence no continuation is accepted.
-/

set_option autoImplicit false

namespace OverpassQuery

namespace TagList

open OverpassQuery.TagList.Derivation

/-! ## What has been read -/

/-- The beginning of a predicate whose last text is missing. -/
inductive Opening where
  | blank
  | negated
  | compared (key : Derivation.Text) (operator : Comparison)

namespace Opening

/-- The tokens of the beginning of a predicate. -/
def tokens : Opening → List Token
  | .blank => []
  | .negated => [.negation]
  | .compared key operator => [key.token, .comparison operator]

/-- What the missing text is. -/
def role : Opening → Role
  | .blank => .key
  | .negated => .key
  | .compared .. => .value

/-- The predicate with its last text. -/
def completed : Opening → Derivation.Text → Derivation.Predicate
  | .blank, text => .present text
  | .negated, text => .absent text
  | .compared key operator, text => .compares key operator text

theorem tokens_completed (opening : Opening) (text : Derivation.Text) :
    (opening.completed text).tokens = opening.tokens ++ [text.token] := by
  cases opening <;> rfl

/-- What comes next is no text; at the beginning of a predicate it is no `!` either. -/
def Stuck : Opening → Option Token → Prop
  | .blank, next => ∀ token ∈ next, token.text? = none ∧ token ≠ .negation
  | _, next => ∀ token ∈ next, token.text? = none

end Opening

/-- The tokens of predicates with `&` after each. -/
def leadingTokens (earlier : List Derivation.Predicate) : List Token :=
  earlier.flatMap fun predicate => predicate.tokens ++ [.conjunction]

/-- Whether a predicate goes on depends on the next token alone. -/
theorem Derivation.Predicate.endsBefore_head {predicate : Derivation.Predicate} {token : Token}
    {rest : List Token} : predicate.EndsBefore (token :: rest) ↔ predicate.EndsBefore [token] := by
  cases predicate <;> rfl

/-- What the tokens up to a place amount to: predicates with `&` after each, and then the
beginning of a predicate, or a whole one. -/
inductive Reading where
  | opened (earlier : List Derivation.Predicate) (opening : Opening)
  | closed (earlier : List Derivation.Predicate) (last : Derivation.Predicate)

namespace Reading

/-- The tokens that have been read. -/
def tokens : Reading → List Token
  | .opened earlier opening => leadingTokens earlier ++ opening.tokens
  | .closed earlier last => leadingTokens earlier ++ last.tokens

/-- What comes next does not fit. -/
def Stuck : Reading → Option Token → Prop
  | .opened _ opening, next => opening.Stuck next
  | .closed _ last, next => ∃ token ∈ next, token ≠ .conjunction ∧ last.EndsBefore [token]

/-- The error at the next token, when the first has the given index. -/
def error : Reading → Nat → Option Token → SyntaxError
  | .opened earlier opening, index, next =>
      .expectedText opening.role (index + (leadingTokens earlier ++ opening.tokens).length) next
  | .closed .., _, next => .expectedEnd next

theorem leadingTokens_cons (first : Derivation.Predicate) (rest : List Derivation.Predicate)
    (more : List Token) :
    leadingTokens (first :: rest) ++ more
      = first.tokens ++ .conjunction :: (leadingTokens rest ++ more) := by
  rw [leadingTokens, List.flatMap_cons, List.append_assoc, List.append_assoc]
  rfl

/-- The reading with one more predicate in front. -/
def after (first : Derivation.Predicate) : Reading → Reading
  | .opened earlier opening => .opened (first :: earlier) opening
  | .closed earlier last => .closed (first :: earlier) last

theorem tokens_after (first : Derivation.Predicate) (reading : Reading) :
    (reading.after first).tokens = first.tokens ++ .conjunction :: reading.tokens := by
  cases reading with
  | opened earlier opening => exact leadingTokens_cons first earlier opening.tokens
  | closed earlier last => exact leadingTokens_cons first earlier last.tokens

theorem stuck_after {first : Derivation.Predicate} {reading : Reading} {next : Option Token} :
    (reading.after first).Stuck next ↔ reading.Stuck next := by
  cases reading <;> rfl

theorem error_after (first : Derivation.Predicate) (reading : Reading) (index : Nat)
    (next : Option Token) :
    (reading.after first).error index next
      = reading.error (index + (first.tokens.length + 1)) next := by
  cases reading with
  | opened earlier opening =>
      simp only [after, error, leadingTokens_cons, List.length_append, List.length_cons]
      congr 1
      omega
  | closed earlier last => rfl

end Reading

/-! ## Refusals of the parser -/

theorem readText_eq_error_iff {role : Role} {index : Nat} {tokens : List Token}
    {cause : SyntaxError} :
    readText role index tokens = .error cause ↔
      (∀ token ∈ tokens.head?, token.text? = none) ∧
        cause = .expectedText role index tokens.head? := by
  cases tokens with
  | nil => simp [readText, eq_comm]
  | cons token rest =>
      rw [readText]
      cases reads : token.text? with
      | none => simp [reads, eq_comm]
      | some said => simp [reads]

/-- What is refused as a predicate begins with a part of one and goes on with a token that does not
fit. -/
theorem exists_opening_of_readPredicate {index : Nat} {tokens : List Token} {cause : SyntaxError}
    (refused : readPredicate index tokens = .error cause) :
    ∃ (opening : Opening) (rest : List Token), tokens = opening.tokens ++ rest ∧
      opening.Stuck rest.head? ∧
      cause = .expectedText opening.role (index + opening.tokens.length) rest.head? := by
  unfold readPredicate at refused
  split at refused
  · rcases bind_eq_error_iff.mp refused with missing | ⟨_, _, done⟩
    · obtain ⟨stuck, rfl⟩ := readText_eq_error_iff.mp missing
      exact ⟨.negated, _, rfl, stuck, rfl⟩
    · cases done
  · rename_i notNegation
    rcases bind_eq_error_iff.mp refused with missing | ⟨⟨said, after⟩, keyRead, afterKey⟩
    · obtain ⟨stuck, rfl⟩ := readText_eq_error_iff.mp missing
      refine ⟨.blank, tokens, rfl, ?_, rfl⟩
      intro token first
      refine ⟨stuck token first, ?_⟩
      rintro rfl
      obtain ⟨more, rfl⟩ := List.head?_eq_some_iff.mp first
      exact notNegation more rfl
    · obtain ⟨key, rfl, rfl⟩ := exists_text_of_readText keyRead
      simp only at afterKey
      split at afterKey
      · rcases bind_eq_error_iff.mp afterKey with missing | ⟨_, _, done⟩
        · obtain ⟨stuck, rfl⟩ := readText_eq_error_iff.mp missing
          exact ⟨.compared key _, _, rfl, stuck, rfl⟩
        · cases done
      · cases afterKey

/-- The beginning of a predicate is refused when its last text is missing. -/
theorem readPredicate_of_stuck (index : Nat) {opening : Opening} {rest : List Token}
    (stuck : opening.Stuck rest.head?) :
    readPredicate index (opening.tokens ++ rest)
      = .error (.expectedText opening.role (index + opening.tokens.length) rest.head?) := by
  cases opening with
  | blank =>
      cases rest with
      | nil => rfl
      | cons token rest =>
          obtain ⟨noText, notNegation⟩ := stuck token rfl
          cases token with
          | name word => cases noText
          | quoted word => cases noText
          | negation => exact absurd rfl notNegation
          | comparison operator => rfl
          | conjunction => rfl
  | negated =>
      show (readText .key (index + 1) rest >>= _) = _
      rw [readText_eq_error_iff.mpr ⟨stuck, rfl⟩]
      rfl
  | compared key operator =>
      cases key with
      | _ word =>
        show (readText .value (index + 2) rest >>= _) = _
        rw [readText_eq_error_iff.mpr ⟨stuck, rfl⟩]
        rfl

theorem readConjunction_of_error {index : Nat} {tokens : List Token} {cause : SyntaxError}
    (refused : readPredicate index tokens = .error cause) :
    readConjunction index tokens = .error cause := by
  rw [readConjunction]
  split
  all_goals
    rename_i found
    rw [refused] at found
    cases found
  rfl

theorem readConjunction_surplus {index : Nat} {tokens rest : List Token} {token : Token}
    {predicate : TagPredicate} (read : readPredicate index tokens = .ok (predicate, token :: rest))
    (surplus : token ≠ .conjunction) :
    readConjunction index tokens = .error (.expectedEnd (some token)) := by
  rw [readConjunction]
  split
  all_goals
    rename_i found
    rw [read] at found
    cases found
  · exact absurd rfl surplus
  · rfl

/-- **What is refused goes on with a token that does not fit.** -/
theorem exists_reading_of_readConjunction {index : Nat} {tokens : List Token}
    {cause : SyntaxError} (refused : readConjunction index tokens = .error cause) :
    ∃ (reading : Reading) (rest : List Token), tokens = reading.tokens ++ rest ∧
      reading.Stuck rest.head? ∧ cause = reading.error index rest.head? := by
  -- On the predicates the parser reads; each of them goes in front of what is read after it.
  fun_induction readConjunction index tokens with
  | case1 index tokens cause' failed =>
      cases refused
      obtain ⟨opening, rest, rfl, stuck, rfl⟩ := exists_opening_of_readPredicate failed
      exact ⟨.opened [] opening, rest, rfl, stuck, rfl⟩
  | case2 index tokens predicate last => cases refused
  | case3 index tokens predicate rest more ih =>
      obtain ⟨reading, after, rfl, stuck, rfl⟩ := ih (map_eq_error_iff.mp refused)
      obtain ⟨tree, leaves, -, -⟩ := exists_predicate_of_readPredicate more
      refine ⟨reading.after tree, after, ?_, Reading.stuck_after.mpr stuck, ?_⟩
      · rw [reading.tokens_after, ← leaves, List.append_assoc, List.cons_append]
      · have length := congrArg List.length leaves
        simp only [List.length_append, List.length_cons] at length
        rw [reading.error_after]
        congr 1
        simp only [List.length_append]
        omega
  | case4 index tokens predicate token rest surplus found =>
      cases refused
      obtain ⟨tree, leaves, -, ends⟩ := exists_predicate_of_readPredicate found
      exact ⟨.closed [] tree, token :: rest, leaves.symm,
        ⟨token, rfl, surplus, Predicate.endsBefore_head.mp ends⟩, rfl⟩

/-- One more predicate in front of a list makes no difference to how the rest is refused. -/
theorem readConjunction_after (first : Derivation.Predicate) (reading : Reading) {rest : List Token}
    (refused : ∀ index, readConjunction index (reading.tokens ++ rest)
      = .error (reading.error index rest.head?)) (index : Nat) :
    readConjunction index ((reading.after first).tokens ++ rest)
      = .error ((reading.after first).error index rest.head?) := by
  have read := readPredicate_tokens index first (atBoundary_conjunction (reading.tokens ++ rest))
  rw [reading.tokens_after, List.append_assoc, List.cons_append, readConjunction_more read, refused,
    reading.error_after]
  simp only [Except.map, List.length_append, List.length_cons]
  congr 2
  omega

/-- **A list that goes on with a token that does not fit is refused,** whatever comes after it. -/
theorem Reading.readConjunction_eq (reading : Reading) {rest : List Token}
    (stuck : reading.Stuck rest.head?) (index : Nat) :
    readConjunction index (reading.tokens ++ rest) = .error (reading.error index rest.head?) := by
  -- On the predicates that are read before the place, each of which only moves the index.
  cases reading with
  | opened earlier opening =>
      induction earlier generalizing index with
      | nil =>
          exact readConjunction_of_error (readPredicate_of_stuck index stuck)
      | cons first earlier ih =>
          exact readConjunction_after first (.opened earlier opening) (ih · stuck) index
  | closed earlier last =>
      induction earlier generalizing index with
      | nil =>
          obtain ⟨token, next, surplus, ends⟩ := stuck
          obtain ⟨more, rfl⟩ := List.head?_eq_some_iff.mp next
          exact readConjunction_surplus
            (readPredicate_tokens_append index (Predicate.endsBefore_head.mpr ends)) surplus
      | cons first earlier ih =>
          exact readConjunction_after first (.closed earlier last) (ih · stuck) index

/-! ## What is expected -/

/-- A predicate ends with a text. -/
theorem Derivation.Predicate.exists_getLast?_tokens (predicate : Derivation.Predicate) :
    ∃ text : Derivation.Text, predicate.tokens.getLast? = some text.token := by
  cases predicate with
  | absent key => exact ⟨key, rfl⟩
  | present key => exact ⟨key, rfl⟩
  | compares key operator value => exact ⟨value, rfl⟩

/-- What should stand at a place: a key or a value, or nothing more. -/
inductive Expectation where
  | text (role : Role)
  | ending

namespace Expectation

/-- The message when something else is found. -/
def message : Expectation → Nat → Option Token → String
  | .text role, index, found =>
      "Expected " ++ role.name ++ " at token " ++ toString index ++ ", got "
        ++ Token.shownOrEnd found
  | .ending, _, found => "Expected Eof, got " ++ Token.shownOrEnd found

/-- What the tokens in front of a place call for. A key stands at the beginning, after `&`, and
after a `!` that stands there; a value stands after a comparison; nothing stands after a
predicate. -/
def Follows : Expectation → List Token → Prop
  | .text .key, before => ∀ token ∈ before.getLast?, token = .conjunction ∨
      token = .negation ∧ ∀ earlier ∈ before.dropLast.getLast?, earlier = .conjunction
  | .text .value, before => ∃ operator, before.getLast? = some (.comparison operator)
  | .ending, before => ∃ predicate : Derivation.Predicate, predicate.tokens <:+ before

theorem message_text (role : Role) (index : Nat) (found : Option Token) :
    (text role).message index found = "Expected " ++ role.name ++ " at token " ++ toString index
      ++ ", got " ++ Token.shownOrEnd found := rfl

theorem message_ending (index : Nat) (found : Option Token) :
    ending.message index found = "Expected Eof, got " ++ Token.shownOrEnd found := rfl

/-- The letter in which the messages differ. -/
def letter : Expectation → Char
  | .text .key => 'k'
  | .text .value => 'v'
  | .ending => 'E'

theorem getElem?_message (expectation : Expectation) (index : Nat) (found : Option Token) :
    (expectation.message index found).toList[9]? = some expectation.letter := by
  cases expectation with
  | text role =>
      rw [message_text]
      cases role <;> simp [Role.name, letter]
  | ending =>
      rw [message_ending]
      simp [letter]

theorem letter_injective : Function.Injective letter := by
  intro first second same
  cases first with
  | text role =>
      cases second with
      | text role' => cases role <;> cases role' <;> first | rfl | exact absurd same (by decide)
      | ending => cases role <;> exact absurd same (by decide)
  | ending =>
      cases second with
      | text role' => cases role' <;> exact absurd same (by decide)
      | ending => rfl

/-- Messages tell the expectations apart. -/
theorem eq_of_message_eq {first second : Expectation} {index : Nat} {found : Option Token}
    (same : first.message index found = second.message index found) : first = second := by
  have letters := first.getElem?_message index found
  rw [same, getElem?_message] at letters
  exact (letter_injective (Option.some.inj letters)).symm

/-- What the last token in front of a place tells about the place. -/
def afterLast : Option Token → Expectation
  | some (.comparison _) => .text .value
  | some (.name _) => .ending
  | some (.quoted _) => .ending
  | _ => .text .key

theorem afterLast_text (text : Derivation.Text) : afterLast (some text.token) = .ending := by
  cases text <;> rfl

theorem eq_afterLast {expectation : Expectation} {before : List Token}
    (follows : expectation.Follows before) : expectation = afterLast before.getLast? := by
  cases expectation with
  | text role =>
      cases role with
      | key =>
          cases last : before.getLast? with
          | none => rfl
          | some token =>
              obtain rfl | ⟨rfl, -⟩ := follows token last
              · rfl
              · rfl
      | value =>
          obtain ⟨operator, last⟩ := follows
          rw [last]
          rfl
  | ending =>
      obtain ⟨predicate, front, rfl⟩ := follows
      obtain ⟨text, last⟩ := predicate.exists_getLast?_tokens
      rw [List.getLast?_append, last]
      exact (afterLast_text text).symm

end Expectation

namespace Reading

/-- What is expected after the tokens that have been read. -/
def expectation : Reading → Expectation
  | .opened _ opening => .text opening.role
  | .closed .. => .ending

theorem message_error (reading : Reading) (next : Option Token) :
    (reading.error 0 next).message
      = reading.expectation.message reading.tokens.length next := by
  cases reading with
  | opened earlier opening =>
      rw [error, Nat.zero_add]
      rfl
  | closed earlier last => rfl

theorem getLast?_leadingTokens (earlier : List Derivation.Predicate) :
    ∀ token ∈ (leadingTokens earlier).getLast?, token = .conjunction := by
  obtain rfl | ⟨front, last, rfl⟩ := earlier.eq_nil_or_concat
  · nofun
  · rw [leadingTokens, List.concat_eq_append, List.flatMap_append, List.flatMap_singleton,
      ← List.append_assoc, List.getLast?_concat]
    rintro token ⟨⟩
    rfl

/-- What has been read calls for what is expected. -/
theorem follows (reading : Reading) : reading.expectation.Follows reading.tokens := by
  cases reading with
  | opened earlier opening =>
      cases opening with
      | blank =>
          intro token last
          rw [tokens, Opening.tokens, List.append_nil] at last
          exact .inl (getLast?_leadingTokens earlier token last)
      | negated =>
          intro token last
          rw [tokens, Opening.tokens, List.getLast?_concat] at last
          cases last
          refine .inr ⟨rfl, ?_⟩
          rw [tokens, Opening.tokens, List.dropLast_concat]
          exact getLast?_leadingTokens earlier
      | compared key operator =>
          exact ⟨operator, by rw [tokens, List.getLast?_append]; rfl⟩
  | closed earlier last => exact ⟨last, leadingTokens earlier, rfl⟩

end Reading

/-! ## Beginnings of tag lists -/

/-- Some tag list begins with the tokens. -/
def Viable (tokens : List Token) : Prop :=
  ∃ (more : List Token) (derivation : Derivation), derivation.tokens = tokens ++ more

theorem Viable.left {front back : List Token} (viable : Viable (front ++ back)) : Viable front := by
  obtain ⟨more, derivation, leaves⟩ := viable
  exact ⟨back ++ more, derivation, by rw [leaves, List.append_assoc]⟩

/-- Predicates with `&` after each and then one more are a tag list. -/
theorem exists_tokens_eq_leadingTokens (earlier : List Derivation.Predicate)
    (last : Derivation.Predicate) :
    ∃ (first : Derivation.Predicate) (rest : List Derivation.Predicate),
      first.tokens ++ furtherTokens rest = leadingTokens earlier ++ last.tokens := by
  induction earlier with
  | nil => exact ⟨last, [], List.append_nil _⟩
  | cons predicate earlier ih =>
      obtain ⟨first, rest, leaves⟩ := ih
      refine ⟨predicate, first :: rest, ?_⟩
      rw [furtherTokens_cons, leaves, Reading.leadingTokens_cons]

theorem viable_leadingTokens (earlier : List Derivation.Predicate) (last : Derivation.Predicate) :
    Viable (leadingTokens earlier ++ last.tokens) := by
  obtain ⟨first, rest, leaves⟩ := exists_tokens_eq_leadingTokens earlier last
  exact ⟨[], .conjunction first rest, by rw [List.append_nil, ← leaves]; rfl⟩

/-- A tag list begins with what has been read. -/
theorem Reading.viable (reading : Reading) : Viable reading.tokens := by
  cases reading with
  | opened earlier opening =>
      have whole := viable_leadingTokens earlier (opening.completed (.quoted ""))
      rw [opening.tokens_completed, ← List.append_assoc] at whole
      exact whole.left
  | closed earlier last => exact viable_leadingTokens earlier last

/-- No tag list goes on with a token that does not fit. -/
theorem Reading.not_viable {reading : Reading} {token : Token}
    (stuck : reading.Stuck (some token)) : ¬ Viable (reading.tokens ++ [token]) := by
  rintro ⟨more, derivation, leaves⟩
  have read := ofTokens_tokens derivation
  rw [leaves, List.append_assoc, List.singleton_append] at read
  have next : reading.Stuck (token :: more).head? := stuck
  rw [ofTokens_of_ne_nil (by simp), reading.readConjunction_eq next] at read
  cases read

/-- The first token of a list with which no tag list goes on, or its end: the tokens before the
place can be completed to a tag list, and with the token there they cannot. -/
structure FirstImpossible (tokens : List Token) (place : Nat) : Prop where
  within : place ≤ tokens.length
  viable : Viable (tokens.take place)
  impossible : ∀ token ∈ tokens[place]?, ¬ Viable (tokens.take place ++ [token])
  incomplete : place = tokens.length → ∀ derivation : Derivation, derivation.tokens ≠ tokens

namespace FirstImpossible

variable {tokens : List Token} {place other : Nat}

theorem not_lt (first : FirstImpossible tokens place) (second : FirstImpossible tokens other) :
    ¬ place < other := by
  intro earlier
  have inside : place < tokens.length := earlier.trans_le second.within
  have longer : (tokens.take other).take (place + 1) = tokens.take place ++ [tokens[place]] := by
    rw [List.take_take, Nat.min_eq_left earlier, List.take_append_getElem inside]
  have viable := second.viable
  rw [← List.take_append_drop (place + 1) (tokens.take other), longer] at viable
  exact first.impossible tokens[place] (List.getElem?_eq_getElem inside) viable.left

/-- A list has at most one such place. -/
theorem eq (first : FirstImpossible tokens place) (second : FirstImpossible tokens other) :
    place = other :=
  Nat.le_antisymm (Nat.not_lt.mp (second.not_lt first)) (Nat.not_lt.mp (first.not_lt second))

end FirstImpossible

/-- The parser stops at the first token with which no tag list goes on. -/
theorem firstImpossible_of_stuck {reading : Reading} {rest : List Token}
    {cause : SyntaxError} (stuck : reading.Stuck rest.head?)
    (refused : ofTokens (reading.tokens ++ rest) = .error cause) :
    FirstImpossible (reading.tokens ++ rest) reading.tokens.length where
  within := by simp
  viable := by
    rw [List.take_left]
    exact reading.viable
  impossible := by
    intro token found
    rw [List.take_left]
    rw [List.getElem?_append_right (Nat.le_refl _), Nat.sub_self, ← List.head?_eq_getElem?] at found
    rw [found] at stuck
    exact Reading.not_viable stuck
  incomplete := by
    rintro - derivation leaves
    rw [← leaves, ofTokens_tokens] at refused
    cases refused

/-- **A text whose tokens are no tag list is refused at the first impossible one.** There is one
such place. The message shows the token there, or the end of the list, and tells what is expected
instead: a key, a value or nothing more, according to what is in front of the place. -/
theorem parse_error_at_first_impossible {text : String} {tokens : List Token} {cause : SyntaxError}
    (cut : tokenize text = .ok tokens) (refused : parse text = .error cause) :
    ∃ place, FirstImpossible tokens place ∧
      (∀ other, FirstImpossible tokens other → other = place) ∧
      (∃ expectation : Expectation, cause.message = expectation.message place tokens[place]?) ∧
      ∀ expectation : Expectation,
        cause.message = expectation.message place tokens[place]? ↔
          expectation.Follows (tokens.take place) := by
  have refusedTokens : ofTokens tokens = .error cause := by
    rw [parse, cut] at refused
    exact refused
  have nonempty : tokens ≠ [] := by
    rintro rfl
    cases refusedTokens
  have refusedConjunction := ofTokens_of_ne_nil nonempty ▸ refusedTokens
  obtain ⟨reading, rest, rfl, stuck, rfl⟩ := exists_reading_of_readConjunction refusedConjunction
  have first := firstImpossible_of_stuck stuck refusedTokens
  refine ⟨reading.tokens.length, first, fun other second => second.eq first, ?_⟩
  have next : (reading.tokens ++ rest)[reading.tokens.length]? = rest.head? := by
    rw [List.getElem?_append_right (Nat.le_refl _), Nat.sub_self, List.head?_eq_getElem?]
  rw [reading.message_error, next, List.take_left]
  refine ⟨⟨reading.expectation, rfl⟩, fun expectation => ⟨?_, ?_⟩⟩
  · intro same
    rw [← Expectation.eq_of_message_eq same]
    exact reading.follows
  · intro follows
    rw [Expectation.eq_afterLast follows, ← Expectation.eq_afterLast reading.follows]

/-- A comparison after `&` is refused there, although a key could stand in its place. -/
theorem parse_error_after_conjunction :
    tokenize "\"a\" & = \"b\""
        = .ok [.quoted "a", .conjunction, .comparison .equal, .quoted "b"] ∧
      parse "\"a\" & = \"b\"" = .error (.expectedText .key 2 (some (.comparison .equal))) ∧
      FirstImpossible [.quoted "a", .conjunction, .comparison .equal, .quoted "b"] 2 ∧
      Expectation.Follows (.text .key) [.quoted "a", .conjunction] := by
  have cut : tokenize "\"a\" & = \"b\""
      = .ok [.quoted "a", .conjunction, .comparison .equal, .quoted "b"] := by cbv
  have refused : parse "\"a\" & = \"b\""
      = .error (.expectedText .key 2 (some (.comparison .equal))) := by cbv
  have second : FirstImpossible [.quoted "a", .conjunction, .comparison .equal, .quoted "b"] 2 := by
    have stuck : Reading.Stuck (.opened [.present (.quoted "a")] .blank)
        (some (.comparison .equal)) := by
      rintro token ⟨⟩
      exact ⟨rfl, by decide⟩
    exact @firstImpossible_of_stuck _ [.comparison .equal, .quoted "b"] _ stuck (by cbv)
  obtain ⟨place, first, unique, -, follows⟩ := parse_error_at_first_impossible cut refused
  obtain rfl := unique 2 second
  exact ⟨cut, refused, first, (follows (.text .key)).mp (by decide +kernel)⟩

end TagList

end OverpassQuery

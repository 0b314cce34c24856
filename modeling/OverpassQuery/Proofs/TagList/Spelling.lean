import OverpassQuery.Proofs.TagList.Cuts
import OverpassQuery.Proofs.TagList.Grammar

/-!
# Tag lists as they are written

Every list of predicates can be written as a tag list, whatever characters its keys and
values contain: between quotes, with a backslash before each quote and each backslash.
Between the tokens, and at both ends, there may be any blanks and tabs
(`TagList.Spaced`). What is written so is read back as it was
(`TagList.parse_of_spaced`).

The spelling between quotes is one of those that a word may have. In the tokens of a list of
predicates no token goes on in the next, whatever stands between them
(`TagList.apart_listTokens`), so they are put together to a legal cut
(`TagList.Spaced.exists_cut`), and the text is cut there. The tokens of the list are those of
a derivation, which the parser finds (`TagList.exists_derivation_of_listTokens`).
-/

set_option autoImplicit false

namespace OverpassQuery

namespace TagList

/-! ## Spellings -/

/-- The spelling of a character between quotes. -/
def escape (char : Char) : List Char :=
  if char = '"' ∨ char = '\\' then ['\\', char] else [char]

/-- The spelling of a token. -/
def Token.spelling : Token → List Char
  | .name text => text.toList
  | .quoted text => '"' :: (text.toList.flatMap escape ++ ['"'])
  | .comparison operator => operator.symbol.toList
  | .negation => ['!']
  | .conjunction => ['&']

/-- The tokens of a predicate, with key and value between quotes. -/
def predicateTokens : TagPredicate → List Token
  | .present key => [.quoted key]
  | .absent key => [.negation, .quoted key]
  | .compares key operator value => [.quoted key, .comparison operator, .quoted value]

/-- The tokens of a list of predicates, with `&` between them. -/
def listTokens (predicates : List TagPredicate) : List Token :=
  [Token.conjunction].intercalate (predicates.map predicateTokens)

/-- The spellings of tokens in their order, with blanks before each and after the last. -/
inductive Spaced : List Token → List Char → Prop where
  | nil {blanks : List Char} (blank : Blank blanks) : Spaced [] blanks
  | cons {token : Token} {tokens : List Token} {blanks rest : List Char} (blank : Blank blanks)
      (spaced : Spaced tokens rest) : Spaced (token :: tokens) (blanks ++ (token.spelling ++ rest))

/-! ## Tokens as lexemes -/

/-- The unit that stands for a character. -/
def escapedUnit (char : Char) : QuotedUnit :=
  if marked : char = '"' ∨ char = '\\' then .escaped char marked
  else .plain char (not_or.mp marked)

theorem spelling_escapedUnit (char : Char) : (escapedUnit char).spelling = escape char := by
  unfold escapedUnit escape
  split
  · rfl
  · rfl

theorem meaning_escapedUnit (char : Char) : (escapedUnit char).meaning = [char] := by
  unfold escapedUnit
  split
  · rfl
  · rfl

/-- What follows the spelling of a token does not continue it. A name goes on as long as it
can, and `!` is part of a comparison when `=` or `~` follows. -/
def Ends : Token → List Char → Prop
  | .name text, rest =>
      text ≠ "" ∧ (∀ char ∈ text.toList, isNameChar char = true) ∧
        ∀ char ∈ rest.head?, isNameChar char = false
  | .negation, rest => ∀ char ∈ rest.head?, char ≠ '~' ∧ char ≠ '='
  | _, _ => True

/-- **A token that what follows does not continue is a lexeme there.** -/
theorem Ends.exists_lexeme {token : Token} {rest : List Char} (ends : Ends token rest) :
    ∃ lexeme : Lexeme, lexeme.token = token ∧ lexeme.spelling = token.spelling ∧
      lexeme.EndsBefore rest := by
  cases token with
  | name text =>
      obtain ⟨nonempty, named, stops⟩ := ends
      have nonempty : text.toList ≠ [] := by simpa using nonempty
      exact ⟨.name text.toList nonempty named, congrArg _ String.ofList_toList, rfl, stops⟩
  | quoted text =>
      have spelled : (text.toList.map escapedUnit).flatMap QuotedUnit.spelling
          = text.toList.flatMap escape := by
        simp only [List.flatMap_map, spelling_escapedUnit]
      have meant : (text.toList.map escapedUnit).flatMap QuotedUnit.meaning = text.toList := by
        simp [List.flatMap_map, meaning_escapedUnit]
      refine ⟨.quoted (text.toList.map escapedUnit), ?_, ?_, trivial⟩
      · rw [Lexeme.token, meant, String.ofList_toList]
      · rw [Lexeme.spelling, Token.spelling, spelled]
  | comparison operator => exact ⟨.comparison operator, rfl, rfl, trivial⟩
  | negation =>
      refine ⟨.negation, rfl, rfl, ?_⟩
      intro char first
      exact (ends char first).symm
  | conjunction => exact ⟨.conjunction, rfl, rfl, trivial⟩

/-- No token is continued by what follows it, in whatever way the tokens are spaced. -/
def Apart : List Token → Prop
  | [] => True
  | token :: rest => (∀ chars, Spaced rest chars → Ends token chars) ∧ Apart rest

/-- **Spaced tokens are put together to a legal cut.** -/
theorem Spaced.exists_cut {tokens : List Token} {chars : List Char}
    (spaced : Spaced tokens chars) :
    Apart tokens → ∃ cut : Cut, cut.Legal ∧ cut.chars = chars ∧ cut.tokens = tokens := by
  induction spaced with
  | nil blank =>
      intro _
      exact ⟨.last _ blank, trivial, rfl, rfl⟩
  | @cons token tokens blanks rest blank spaced ih =>
      rintro ⟨ends, apart⟩
      obtain ⟨cut, legal, rfl, rfl⟩ := ih apart
      obtain ⟨lexeme, rfl, spelled, endsBefore⟩ := (ends _ spaced).exists_lexeme
      refine ⟨.piece blanks blank lexeme cut, ⟨endsBefore, legal⟩, ?_, rfl⟩
      rw [Cut.chars, spelled]

/-- **Spaced tokens are cut as they were put together.** -/
theorem Spaced.tokensOf_eq {tokens : List Token} {chars : List Char}
    (spaced : Spaced tokens chars) (apart : Apart tokens) : tokensOf chars = .ok tokens := by
  obtain ⟨cut, legal, rfl, rfl⟩ := spaced.exists_cut apart
  exact cut.tokensOf_chars legal

/-! ## The tokens of predicates -/

theorem listTokens_singleton (predicate : TagPredicate) :
    listTokens [predicate] = predicateTokens predicate :=
  List.intercalate_singleton

theorem listTokens_cons_cons (first second : TagPredicate) (rest : List TagPredicate) :
    listTokens (first :: second :: rest)
      = predicateTokens first ++ .conjunction :: listTokens (second :: rest) := by
  rw [listTokens, List.map_cons, List.map_cons, List.intercalate_cons_cons, List.append_assoc]
  rfl

/-- Before a quoted word `!` stays what it is. -/
theorem ends_negation {text : String} {rest : List Token} {chars : List Char}
    (spaced : Spaced (.quoted text :: rest) chars) : Ends .negation chars := by
  cases spaced with
  | @cons _ _ blanks _ blank _ =>
      intro char first
      cases blanks with
      | nil =>
          cases first
          decide
      | cons space blanks =>
          cases first
          rcases blank char List.mem_cons_self with rfl | rfl
          · decide
          · decide

theorem apart_predicateTokens (predicate : TagPredicate) {rest : List Token} (apart : Apart rest) :
    Apart (predicateTokens predicate ++ rest) := by
  have quoted : ∀ text, Apart rest → Apart (.quoted text :: rest) :=
    fun _ apart => ⟨fun _ _ => trivial, apart⟩
  cases predicate with
  | present key => exact quoted key apart
  | absent key => exact ⟨fun _ spaced => ends_negation spaced, quoted key apart⟩
  | compares key operator value =>
      exact ⟨fun _ _ => trivial, fun _ _ => trivial, quoted value apart⟩

theorem apart_listTokens (predicates : List TagPredicate) : Apart (listTokens predicates) := by
  induction predicates with
  | nil => exact trivial
  | cons first rest ih =>
      cases rest with
      | nil =>
          rw [listTokens_singleton, ← List.append_nil (predicateTokens first)]
          exact apart_predicateTokens first trivial
      | cons second rest =>
          rw [listTokens_cons_cons]
          exact apart_predicateTokens first ⟨fun _ _ => trivial, ih⟩

/-- The derivation of a predicate whose key and value are quoted. -/
def quotedDerivation : TagPredicate → Derivation.Predicate
  | .present key => .present (.quoted key)
  | .absent key => .absent (.quoted key)
  | .compares key operator value => .compares (.quoted key) operator (.quoted value)

theorem tokens_quotedDerivation (predicate : TagPredicate) :
    (quotedDerivation predicate).tokens = predicateTokens predicate := by
  cases predicate with
  | present key => rfl
  | absent key => rfl
  | compares key operator value => rfl

theorem denoted_quotedDerivation (predicate : TagPredicate) :
    (quotedDerivation predicate).denoted = predicate := by
  cases predicate with
  | present key => rfl
  | absent key => rfl
  | compares key operator value => rfl

theorem listTokens_cons (first : TagPredicate) (rest : List TagPredicate) :
    listTokens (first :: rest)
      = predicateTokens first ++ Derivation.furtherTokens (rest.map quotedDerivation) := by
  induction rest generalizing first with
  | nil =>
      rw [listTokens_singleton]
      exact (List.append_nil _).symm
  | cons second rest ih =>
      rw [listTokens_cons_cons, ih, List.map_cons, furtherTokens_cons, tokens_quotedDerivation]

/-- The tokens of a list of predicates derive from the grammar. -/
theorem exists_derivation_of_listTokens (predicates : List TagPredicate) :
    ∃ derivation : Derivation,
      derivation.tokens = listTokens predicates ∧ derivation.predicates = predicates := by
  cases predicates with
  | nil => exact ⟨.empty, rfl, rfl⟩
  | cons first rest =>
      refine ⟨.conjunction (quotedDerivation first) (rest.map quotedDerivation), ?_, ?_⟩
      · rw [listTokens_cons, Derivation.tokens, tokens_quotedDerivation]
      · have denoted : rest.map (Derivation.Predicate.denoted ∘ quotedDerivation) = rest := by
          simp [Function.comp_def, denoted_quotedDerivation]
        rw [Derivation.predicates, denoted_quotedDerivation, List.map_map, denoted]

theorem ofTokens_listTokens (predicates : List TagPredicate) :
    ofTokens (listTokens predicates) = .ok predicates := by
  obtain ⟨derivation, leaves, denoted⟩ := exists_derivation_of_listTokens predicates
  rw [← leaves, ofTokens_tokens, denoted]

/-- **Every list of predicates can be written as a tag list, and is read back.** Keys and
values stand between quotes and may contain any characters, and the tokens may be spaced
in any way. -/
theorem parse_of_spaced {predicates : List TagPredicate} {text : String}
    (spaced : Spaced (listTokens predicates) text.toList) : parse text = .ok predicates := by
  rw [parse, tokenize, spaced.tokensOf_eq (apart_listTokens predicates)]
  exact ofTokens_listTokens predicates

/-- An empty key, a key that ends in a backslash, and a value of delimiters and a line
break. -/
def punctuation : List TagPredicate :=
  [.absent "", .compares "a\\" .unequal "\"]&!=\n ", .present "größe"]

theorem parse_of_spaced_punctuation :
    Spaced (listTokens punctuation)
        " !\t\"\"&\"a\\\\\" != \"\\\"]&!=\n \" &\"größe\"\t".toList ∧
      parse " !\t\"\"&\"a\\\\\" != \"\\\"]&!=\n \" &\"größe\"\t" = .ok punctuation := by
  have none : Blank [] := nofun
  have blank : Blank [' '] := List.forall_mem_singleton.mpr (.inl rfl)
  have tab : Blank ['\t'] := List.forall_mem_singleton.mpr (.inr rfl)
  have spaced : Spaced (listTokens punctuation)
      " !\t\"\"&\"a\\\\\" != \"\\\"]&!=\n \" &\"größe\"\t".toList :=
    .cons blank <| .cons tab <| .cons none <| .cons none <| .cons blank <| .cons blank <|
      .cons blank <| .cons none <| .nil tab
  exact ⟨spaced, parse_of_spaced spaced⟩

end TagList

end OverpassQuery

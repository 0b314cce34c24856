import OverpassQuery.Proofs.TagList.Cuts

/-!
# Where a text stops being a list of tokens

A text that cannot be cut into tokens has a place where no token starts. From there on it is
unreadable (`TagList.Unreadable`): the first character is no blank and belongs to no operator and
no name, and if it is a quote, the word behind it is not closed. Such a word consists of units to
the end of the text, or to a single backslash (`TagList.Unclosed`), so each later quote is an
escaped one.

The error of the lexer is the text from that place on, and all before it is read. No other
place has both properties (`TagList.tokenize_eq_error_iff`). In particular a quoted word without
end is reported from its opening quote, although the lexer has gone through the word by then.

What is unreadable goes on with no lexeme, whichever stands before it
(`TagList.Unreadable.endsBefore`). Hence a legal cut stays legal in front of it, and the lexer
reads the cut and stops (`TagList.Cut.tokensOf_append_unreadable`).
-/

set_option autoImplicit false

namespace OverpassQuery

namespace TagList

/-! ## Words without end -/

/-- What follows an opening quote that is not closed: units, and perhaps a backslash with nothing
to escape. -/
def Unclosed (chars : List Char) : Prop :=
  ∃ units : List QuotedUnit, chars = units.flatMap QuotedUnit.spelling ∨
    chars = units.flatMap QuotedUnit.spelling ++ ['\\']

theorem Unclosed.cons {chars : List Char} (unclosed : Unclosed chars) (unit : QuotedUnit) :
    Unclosed (unit.spelling ++ chars) := by
  obtain ⟨units, rfl | rfl⟩ := unclosed
  · exact ⟨unit :: units, .inl List.flatMap_cons.symm⟩
  · exact ⟨unit :: units, .inr (by rw [List.flatMap_cons, List.append_assoc])⟩

/-- The lexer finds no closing quote exactly where there is none. -/
theorem quotedBody?_eq_none_iff {chars : List Char} :
    quotedBody? chars = none ↔ Unclosed chars := by
  constructor
  · intro unread
    fun_induction quotedBody? chars with
    | case1 => exact ⟨[], .inl rfl⟩
    | case2 => cases unread
    | case3 => exact ⟨[], .inr rfl⟩
    | case4 char rest ih =>
        have follows := ih (Option.map_eq_none_iff.mp unread)
        by_cases marked : char = '"' ∨ char = '\\'
        · exact follows.cons (.escaped char marked)
        · exact follows.cons (.kept char (not_or.mp marked))
    | case5 char rest notQuote notLast notEscape ih =>
        have follows := ih (Option.map_eq_none_iff.mp unread)
        refine follows.cons (.plain char ⟨notQuote, ?_⟩)
        rintro rfl
        cases rest with
        | nil => exact notLast rfl rfl
        | cons next rest => exact notEscape next rest rfl rfl
  · rintro ⟨units, rfl | rfl⟩
    · rw [← List.append_nil (units.flatMap QuotedUnit.spelling), quotedBody?_units_append]
      rfl
    · rw [quotedBody?_units_append]
      rfl

/-! ## Places where no token starts -/

/-- A rest of a text that begins with no token: neither a blank nor the first character of an
operator or a name is in front, and a quote there is not closed. -/
structure Unreadable (rest : List Char) : Prop where
  nonempty : rest ≠ []
  solid : ∀ char ∈ rest.head?, char ≠ ' ' ∧ char ≠ '\t'
  no_operator : ∀ char ∈ rest.head?, char ∉ ['!', '=', '~', '&']
  no_name : ∀ char ∈ rest.head?, isNameChar char = false
  unclosed : ∀ word, rest = '"' :: word → Unclosed word

/-- The lexer reads no token exactly where none starts. -/
theorem firstToken?_eq_none_iff {char : Char} {more : List Char} :
    firstToken? (char :: more) = none ↔
      char ∉ ['!', '=', '~', '&'] ∧ isNameChar char = false ∧ (char = '"' → Unclosed more) := by
  constructor
  · intro unread
    unfold firstToken? at unread
    split at unread
    case h_7 word same =>
      obtain ⟨rfl, rfl⟩ := List.cons.inj same
      refine ⟨by decide, isNameChar_operator _ (by simp), fun _ => ?_⟩
      exact quotedBody?_eq_none_iff.mp (Option.map_eq_none_iff.mp unread)
    case h_8 _ _ _ notNegation notEqual notMatch notConjunction notQuote =>
      refine ⟨?_, ?_, fun quote => (notQuote more (by rw [quote])).elim⟩
      · simp only [List.mem_cons, List.not_mem_nil, or_false, not_or]
        exact ⟨fun same => notNegation more (by rw [same]),
          fun same => notEqual more (by rw [same]), fun same => notMatch more (by rw [same]),
          fun same => notConjunction more (by rw [same])⟩
      · split at unread
        · rename_i empty
          by_contra named
          rw [List.takeWhile_cons_of_pos (by simpa using named)] at empty
          cases empty
        · cases unread
    all_goals cases unread
  · rintro ⟨notOperator, notName, unclosed⟩
    unfold firstToken?
    split
    case h_7 word same =>
      obtain ⟨rfl, rfl⟩ := List.cons.inj same
      rw [quotedBody?_eq_none_iff.mpr (unclosed rfl)]
      rfl
    case h_8 =>
      rw [List.takeWhile_cons_of_neg (by simp [notName])]
    all_goals
      rename_i same
      obtain ⟨rfl, -⟩ := List.cons.inj same
      exact absurd notOperator (by decide)

/-- After blanks, what the lexer cannot go on with is unreadable. -/
theorem unreadable_of_firstToken? {chars more : List Char} {char : Char}
    (separated : chars.dropWhile isBlank = char :: more)
    (unread : firstToken? (char :: more) = none) : Unreadable (char :: more) := by
  obtain ⟨notOperator, notName, unclosed⟩ := firstToken?_eq_none_iff.mp unread
  have solid := head?_dropWhile_stops isBlank chars
  rw [separated] at solid
  refine ⟨List.cons_ne_nil _ _, ?_, ?_, ?_, ?_⟩
  · rintro _ ⟨⟩
    exact not_or.mp fun blank => absurd (isBlank_iff.mpr blank) (by simp [solid char rfl])
  · rintro _ ⟨⟩
    exact notOperator
  · rintro _ ⟨⟩
    exact notName
  · rintro word same
    obtain ⟨rfl, rfl⟩ := List.cons.inj same
    exact unclosed rfl

namespace Unreadable

variable {rest : List Char}

theorem firstToken?_eq_none (unreadable : Unreadable rest) : firstToken? rest = none := by
  obtain ⟨char, more, rfl⟩ := List.exists_cons_of_ne_nil unreadable.nonempty
  refine firstToken?_eq_none_iff.mpr ⟨unreadable.no_operator char rfl,
    unreadable.no_name char rfl, ?_⟩
  rintro rfl
  exact unreadable.unclosed more rfl

theorem isBlank_head? (unreadable : Unreadable rest) :
    ∀ char ∈ rest.head?, isBlank char = false := by
  intro char first
  by_contra blank
  rw [Bool.not_eq_false, isBlank_iff] at blank
  exact not_or.mpr (unreadable.solid char first) blank

/-- Every lexeme ends where what follows is unreadable. -/
theorem endsBefore (unreadable : Unreadable rest) (lexeme : Lexeme) : lexeme.EndsBefore rest := by
  cases lexeme with
  | name chars nonempty named => exact unreadable.no_name
  | negation =>
      intro char first
      have notOperator := unreadable.no_operator char first
      simp only [List.mem_cons, not_or] at notOperator
      exact ⟨notOperator.2.1, notOperator.2.2.1⟩
  | comparison operator => trivial
  | conjunction => trivial
  | quoted units => trivial

/-- No lexeme stands at the beginning of what is unreadable. -/
theorem no_lexeme (unreadable : Unreadable rest) (lexeme : Lexeme) :
    ¬ lexeme.spelling <+: rest := by
  rintro ⟨more, rfl⟩
  have notOperator := unreadable.no_operator
  cases lexeme with
  | comparison operator =>
      cases operator with
      | _ => exact absurd (notOperator _ rfl) (by decide)
  | negation => exact absurd (notOperator _ rfl) (by decide)
  | conjunction => exact absurd (notOperator _ rfl) (by decide)
  | name chars nonempty named =>
      obtain ⟨char, chars, rfl⟩ := List.exists_cons_of_ne_nil nonempty
      have notNamed := unreadable.no_name char rfl
      rw [named char List.mem_cons_self] at notNamed
      cases notNamed
  | quoted units =>
      have unclosed : Unclosed (units.flatMap QuotedUnit.spelling ++ '"' :: more) :=
        unreadable.unclosed _ (by simp [Lexeme.spelling])
      rw [← quotedBody?_eq_none_iff, quotedBody?_units] at unclosed
      cases unclosed

end Unreadable

/-! ## Cuts up to such a place -/

theorem Lexeme.endsBefore_nil (lexeme : Lexeme) : lexeme.EndsBefore [] := by
  cases lexeme with
  | name _ _ _ => exact fun _ => nofun
  | negation => exact fun _ => nofun
  | _ => trivial

/-- Whether a lexeme ends depends on the next character alone. -/
theorem Lexeme.endsBefore_append_iff {lexeme : Lexeme} {chars rest : List Char} :
    lexeme.EndsBefore (chars ++ rest) ↔
      lexeme.EndsBefore chars ∧ (chars = [] → lexeme.EndsBefore rest) := by
  cases chars with
  | nil => simp [lexeme.endsBefore_nil]
  | cons char chars => cases lexeme <;> simp [EndsBefore]

theorem tokensOf_of_unread {chars rest : List Char} (separated : chars.dropWhile isBlank = rest)
    (unreadable : Unreadable rest) :
    tokensOf chars = .error (.unreadable (String.ofList rest)) := by
  have unread := unreadable.firstToken?_eq_none
  have nonempty := unreadable.nonempty
  subst separated
  rw [tokensOf]
  split
  · contradiction
  · rename_i separated
    rw [separated] at unread ⊢
    split
    · rfl
    · rename_i read
      rw [unread] at read
      cases read

/-- **A legal cut is read up to where the text is unreadable.** -/
theorem Cut.tokensOf_append_unreadable {cut : Cut} (legal : cut.Legal) {rest : List Char}
    (unreadable : Unreadable rest) :
    tokensOf (cut.chars ++ rest) = .error (.unreadable (String.ofList rest)) := by
  -- A lexeme in front ends where it did, also when nothing but the unreadable text follows it.
  induction cut with
  | last blanks blank =>
      exact tokensOf_of_unread
        (dropWhile_append_of_stops blank.isBlank_of_mem unreadable.isBlank_head?) unreadable
  | piece blanks blank lexeme cut ih =>
      obtain ⟨ends, legal⟩ := legal
      have skipped := blank.dropWhile_append_lexeme lexeme (cut.chars ++ rest)
      rw [Cut.chars, List.append_assoc, List.append_assoc,
        tokensOf_of_firstToken? skipped (firstToken?_spelling_append
          (Lexeme.endsBefore_append_iff.mpr ⟨ends, fun _ => unreadable.endsBefore lexeme⟩)),
        ih legal]
      rfl

/-- **What cannot be cut into tokens is a legal cut up to where it is unreadable.** -/
theorem exists_cut_of_tokensOf_error {chars : List Char} {cause : SyntaxError}
    (failed : tokensOf chars = .error cause) :
    ∃ (cut : Cut) (rest : List Char), cut.Legal ∧ chars = cut.chars ++ rest ∧ Unreadable rest ∧
      cause = .unreadable (String.ofList rest) := by
  fun_induction tokensOf chars with
  | case1 chars separated => cases failed
  | case2 chars char more separated unread =>
      cases failed
      refine ⟨.last (chars.takeWhile isBlank) (blank_takeWhile chars), char :: more, trivial, ?_,
        unreadable_of_firstToken? separated unread, rfl⟩
      rw [Cut.chars, ← separated, List.takeWhile_append_dropWhile]
  | case3 chars char more separated token rest first ih =>
      obtain ⟨cut, unread, legal, rfl, unreadable, rfl⟩ := ih (map_eq_error_iff.mp failed)
      obtain ⟨lexeme, rfl, spelled, ends⟩ := exists_lexeme_of_firstToken? first
      refine ⟨.piece (chars.takeWhile isBlank) (blank_takeWhile chars) lexeme cut, unread,
        ⟨(Lexeme.endsBefore_append_iff.mp ends).1, legal⟩, ?_, unreadable, rfl⟩
      rw [Cut.chars, List.append_assoc, List.append_assoc, spelled, ← separated,
        List.takeWhile_append_dropWhile]

/-- A text that is read, in front of one that is unreadable, is read up to there. -/
theorem tokenize_append_unreadable {read rest : String} {tokens : List Token}
    (cut : tokenize read = .ok tokens) (unreadable : Unreadable rest.toList) :
    tokenize (read ++ rest) = .error (.unreadable rest) := by
  obtain ⟨pieces, legal, whole, -⟩ := exists_cut_of_tokensOf cut
  rw [tokenize, String.toList_append, ← whole, Cut.tokensOf_append_unreadable legal unreadable,
    String.ofList_toList]

/-- **The error of the lexer is the text it has not read.** A text is refused exactly when it is a
text that is read, followed by one that is unreadable; no token starts there, and the message
has the unreadable text as it stands. A text splits in this way at one place at most. -/
theorem tokenize_eq_error_iff (text : String) (cause : SyntaxError) :
    (tokenize text = .error cause ↔
      ∃ read rest : String, text = read ++ rest ∧ (∃ tokens, tokenize read = .ok tokens) ∧
        Unreadable rest.toList ∧ (∀ lexeme : Lexeme, ¬ lexeme.spelling <+: rest.toList) ∧
        cause = .unreadable rest ∧
        cause.message = "Lexer error at '" ++ rest
          ++ "': Backtrack(ContextError \x7b context: [], cause: None \x7d)") ∧
    {split : String × String | text = split.1 ++ split.2 ∧
      (∃ tokens, tokenize split.1 = .ok tokens) ∧ Unreadable split.2.toList}.Subsingleton := by
  refine ⟨⟨?_, ?_⟩, ?_⟩
  · intro failed
    obtain ⟨cut, rest, legal, whole, unreadable, rfl⟩ := exists_cut_of_tokensOf_error failed
    refine ⟨String.ofList cut.chars, String.ofList rest, ?_, ⟨cut.tokens, ?_⟩, ?_, ?_, rfl, rfl⟩
    · rw [← String.ofList_append, ← whole, String.ofList_toList]
    · rw [tokenize, String.toList_ofList, Cut.tokensOf_chars legal]
    · rwa [String.toList_ofList]
    · rw [String.toList_ofList]
      exact unreadable.no_lexeme
  · rintro ⟨read, rest, rfl, ⟨tokens, cut⟩, unreadable, -, rfl, -⟩
    exact tokenize_append_unreadable cut unreadable
  · rintro ⟨read, rest⟩ ⟨rfl, ⟨tokens, cut⟩, unreadable⟩ ⟨read', rest'⟩
      ⟨same, ⟨tokens', cut'⟩, unreadable'⟩
    have failed := tokenize_append_unreadable cut unreadable
    have failed' := tokenize_append_unreadable cut' unreadable'
    simp only at same
    rw [← same, failed] at failed'
    obtain rfl : rest = rest' := by cases failed'; rfl
    have sameChars := congrArg String.toList same
    rw [String.toList_append, String.toList_append] at sameChars
    rw [String.toList_inj.mp (List.append_cancel_right sameChars)]

/-- An escaped quote closes no word, which is unreadable from its opening one. -/
example : tokenize "=\"a\\\"" = .error (.unreadable "\"a\\\"") := by cbv

end TagList

end OverpassQuery

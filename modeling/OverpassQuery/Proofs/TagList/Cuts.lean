import Mathlib.Data.Set.Subsingleton
import OverpassQuery.Proofs.State.Outcomes
import OverpassQuery.Proofs.Text.SelfDelimiting
import OverpassQuery.TagList.Lexer

/-!
# Cuts of a text into lexemes

A lexeme is an operator, a bare name or a quoted word, as it stands in a text
(`TagList.Lexeme`). It has a spelling and is a token; a quoted word has one token and in
general several spellings, since a backslash before most characters may be doubled or not. A
cut of a text consists of lexemes with blanks and tabs around them (`TagList.Cut`).

Not every cut is what a reader sees. A name goes on as long as it can, and `!` belongs to the
comparison if `=` or `~` follows directly (`TagList.Lexeme.EndsBefore`). A cut is legal when all
its lexemes end where what follows begins (`TagList.Cut.Legal`).

A text has the tokens of a legal cut, and no others. It has at most one legal cut, blanks
and units of quoted words included (`TagList.tokenize_eq_ok_iff`).

Both directions go through the first token. The lexer reads a lexeme from its spelling unless
what follows goes on with it (`TagList.firstToken?_spelling_append`), and what it reads is
such a lexeme (`TagList.exists_lexeme_of_firstToken?`). So two legal cuts of a text part
company nowhere (`TagList.Lexeme.eq_and_rest_eq_of_spelling`).
-/

set_option autoImplicit false

namespace OverpassQuery

namespace TagList

/-! ## Lexemes -/

/-- A unit of the text between two quotes. A backslash escapes a quote or a backslash, and is
kept in front of any other character. -/
inductive QuotedUnit where
  | plain (char : Char) (unmarked : char ≠ '"' ∧ char ≠ '\\')
  | escaped (char : Char) (marked : char = '"' ∨ char = '\\')
  | kept (char : Char) (unmarked : char ≠ '"' ∧ char ≠ '\\')

/-- A token as it is written in a text. -/
inductive Lexeme where
  | comparison (operator : Comparison)
  | negation
  | conjunction
  | name (chars : List Char) (nonempty : chars ≠ [])
      (named : ∀ char ∈ chars, isNameChar char = true)
  | quoted (units : List QuotedUnit)

/-- The characters of a unit. -/
def QuotedUnit.spelling : QuotedUnit → List Char
  | .plain char _ => [char]
  | .escaped char _ => ['\\', char]
  | .kept char _ => ['\\', char]

/-- The characters that a unit stands for. -/
def QuotedUnit.meaning : QuotedUnit → List Char
  | .plain char _ => [char]
  | .escaped char _ => [char]
  | .kept char _ => ['\\', char]

namespace Lexeme

/-- The characters of a lexeme. -/
def spelling : Lexeme → List Char
  | .comparison operator => operator.symbol.toList
  | .negation => ['!']
  | .conjunction => ['&']
  | .name chars _ _ => chars
  | .quoted units => '"' :: (units.flatMap QuotedUnit.spelling ++ ['"'])

/-- The token that a lexeme is read as. -/
def token : Lexeme → Token
  | .comparison operator => .comparison operator
  | .negation => .negation
  | .conjunction => .conjunction
  | .name chars _ _ => .name (String.ofList chars)
  | .quoted units => .quoted (String.ofList (units.flatMap QuotedUnit.meaning))

/-- What follows a lexeme does not go on with it: no character of a name directly after a
name, and neither `=` nor `~` directly after `!`. -/
def EndsBefore : Lexeme → List Char → Prop
  | .name .., rest => ∀ char ∈ rest.head?, isNameChar char = false
  | .negation, rest => ∀ char ∈ rest.head?, char ≠ '=' ∧ char ≠ '~'
  | _, _ => True

end Lexeme

/-! ## Cuts -/

/-- Blanks and tabs, in any number. -/
def Blank (chars : List Char) : Prop := ∀ char ∈ chars, char = ' ' ∨ char = '\t'

/-- Lexemes with blanks before each and after the last. -/
inductive Cut where
  | last (blanks : List Char) (blank : Blank blanks)
  | piece (blanks : List Char) (blank : Blank blanks) (lexeme : Lexeme) (rest : Cut)

namespace Cut

/-- The characters of a cut, put together again. -/
def chars : Cut → List Char
  | .last blanks _ => blanks
  | .piece blanks _ lexeme rest => blanks ++ (lexeme.spelling ++ rest.chars)

/-- The tokens of a cut. -/
def tokens : Cut → List Token
  | .last .. => []
  | .piece _ _ lexeme rest => lexeme.token :: rest.tokens

/-- Every lexeme ends where what follows it begins. -/
def Legal : Cut → Prop
  | .last .. => True
  | .piece _ _ lexeme rest => lexeme.EndsBefore rest.chars ∧ rest.Legal

end Cut

/-! ## Quoted words -/

/-- A unit is read for what it means, whatever follows. -/
theorem quotedBody?_unit_append (unit : QuotedUnit) (rest : List Char) :
    quotedBody? (unit.spelling ++ rest)
      = (quotedBody? rest).map fun read => (unit.meaning ++ read.1, read.2) := by
  cases unit with
  | plain char unmarked =>
      obtain ⟨notQuote, notBackslash⟩ := unmarked
      simp only [QuotedUnit.spelling, QuotedUnit.meaning, List.cons_append, List.nil_append]
      rw [quotedBody?]
      · exact notQuote
      · intro backslash
        exact absurd backslash notBackslash
      · intro _ _ backslash
        exact absurd backslash notBackslash
  | escaped char marked =>
      simp only [QuotedUnit.spelling, QuotedUnit.meaning, List.cons_append, List.nil_append]
      rw [quotedBody?, unescape, if_pos marked]
      rfl
  | kept char unmarked =>
      simp only [QuotedUnit.spelling, QuotedUnit.meaning, List.cons_append, List.nil_append]
      rw [quotedBody?, unescape, if_neg (not_or.mpr unmarked)]
      rfl

theorem quotedBody?_units_append (units : List QuotedUnit) (rest : List Char) :
    quotedBody? (units.flatMap QuotedUnit.spelling ++ rest)
      = (quotedBody? rest).map fun read =>
          (units.flatMap QuotedUnit.meaning ++ read.1, read.2) := by
  induction units with
  | nil => simp
  | cons unit units ih =>
      rw [List.flatMap_cons, List.append_assoc, quotedBody?_unit_append, ih, Option.map_map]
      simp only [Function.comp_def, List.flatMap_cons, List.append_assoc]

/-- A quoted word is read from its units, up to the closing quote. -/
theorem quotedBody?_units (units : List QuotedUnit) (rest : List Char) :
    quotedBody? (units.flatMap QuotedUnit.spelling ++ '"' :: rest)
      = some (units.flatMap QuotedUnit.meaning, rest) := by
  rw [quotedBody?_units_append, quotedBody?, Option.map_some, List.append_nil]

/-- What is read up to a closing quote consists of units. -/
theorem exists_units_of_quotedBody? {chars body after : List Char}
    (read : quotedBody? chars = some (body, after)) :
    ∃ units : List QuotedUnit, chars = units.flatMap QuotedUnit.spelling ++ '"' :: after ∧
      units.flatMap QuotedUnit.meaning = body := by
  fun_induction quotedBody? chars generalizing body with
  | case1 => cases read
  | case2 rest =>
      cases read
      exact ⟨[], rfl, rfl⟩
  | case3 => cases read
  | case4 char rest ih =>
      obtain ⟨⟨body', after'⟩, inner, same⟩ := Option.map_eq_some_iff.mp read
      cases same
      obtain ⟨units, rfl, rfl⟩ := ih inner
      by_cases marked : char = '"' ∨ char = '\\'
      · refine ⟨.escaped char marked :: units, rfl, ?_⟩
        simp [unescape, marked, QuotedUnit.meaning]
      · have unmarked : char ≠ '"' ∧ char ≠ '\\' := not_or.mp marked
        refine ⟨.kept char unmarked :: units, rfl, ?_⟩
        simp [unescape, marked, QuotedUnit.meaning]
  | case5 char rest notQuote notLast notEscape ih =>
      obtain ⟨⟨body', after'⟩, inner, same⟩ := Option.map_eq_some_iff.mp read
      cases same
      obtain ⟨units, rfl, rfl⟩ := ih inner
      have notBackslash : char ≠ '\\' := by
        intro backslash
        -- The closing quote at the latest follows a backslash.
        obtain ⟨next, more, begun⟩ := List.exists_cons_of_ne_nil
          (List.append_ne_nil_of_right_ne_nil (units.flatMap QuotedUnit.spelling)
            (List.cons_ne_nil '"' after))
        exact notEscape next more backslash begun
      exact ⟨.plain char ⟨notQuote, notBackslash⟩ :: units, rfl, rfl⟩

/-- A unit is followed by what it does not contain. -/
theorem QuotedUnit.selfDelimiting (unit : QuotedUnit) :
    SelfDelimiting QuotedUnit.spelling (fun _ => True) unit := by
  intro other _ rest rest' same
  cases unit with
  | plain char unmarked =>
      cases other with
      | plain char' _ =>
          obtain ⟨rfl, follows⟩ := List.cons.inj same
          exact ⟨rfl, follows⟩
      | escaped _ _ => exact absurd (List.cons.inj same).1 unmarked.2
      | kept _ _ => exact absurd (List.cons.inj same).1 unmarked.2
  | escaped char marked =>
      cases other with
      | plain _ unmarked => exact absurd (List.cons.inj same).1.symm unmarked.2
      | escaped char' _ =>
          obtain ⟨rfl, follows⟩ := List.cons.inj (List.cons.inj same).2
          exact ⟨rfl, follows⟩
      | kept char' unmarked =>
          obtain ⟨rfl, _⟩ := List.cons.inj (List.cons.inj same).2
          exact absurd marked (not_or.mpr unmarked)
  | kept char unmarked =>
      cases other with
      | plain _ unmarked' => exact absurd (List.cons.inj same).1.symm unmarked'.2
      | escaped char' marked =>
          obtain ⟨rfl, _⟩ := List.cons.inj (List.cons.inj same).2
          exact absurd marked (not_or.mpr unmarked)
      | kept char' _ =>
          obtain ⟨rfl, follows⟩ := List.cons.inj (List.cons.inj same).2
          exact ⟨rfl, follows⟩

theorem QuotedUnit.beginsWith_unquoted : BeginsWith (· ≠ '"') QuotedUnit.spelling := by
  intro unit
  cases unit with
  | plain char unmarked => exact ⟨char, [], rfl, unmarked.1⟩
  | escaped char _ => exact ⟨'\\', [char], rfl, by decide⟩
  | kept char _ => exact ⟨'\\', [char], rfl, by decide⟩

/-- The units of a quoted word are determined by the word as it is written. -/
theorem QuotedUnit.eq_of_spellings {first second : List QuotedUnit}
    (same : first.flatMap spelling ++ ['"'] = second.flatMap spelling ++ ['"']) :
    first = second := by
  have stops : Stops (· ≠ '"') ['"'] := by
    rintro char ⟨⟩ unquoted
    exact unquoted rfl
  exact (flatMap_eq_and_rest_eq_of_append_eq beginsWith_unquoted
    (fun unit _ => unit.selfDelimiting) (fun _ _ => trivial) stops stops same).1

/-! ## The first token -/

/-- No character of a name begins an operator or a quoted word. -/
theorem isNameChar_operator : ∀ char ∈ ['!', '=', '~', '&', '"'], isNameChar char = false := by
  -- One character at a time: the table of letters is long.
  simp only [List.mem_cons, List.not_mem_nil, or_false, forall_eq_or_imp, forall_eq]
  exact ⟨by decide +kernel, by decide +kernel, by decide +kernel, by decide +kernel,
    by decide +kernel⟩

theorem firstToken?_name {name rest : List Char} (nonempty : name ≠ [])
    (all : ∀ char ∈ name, isNameChar char = true)
    (stops : ∀ char ∈ rest.head?, isNameChar char = false) :
    firstToken? (name ++ rest) = some (.name (String.ofList name), rest) := by
  obtain ⟨first, name, rfl⟩ := List.exists_cons_of_ne_nil nonempty
  have begins : ∀ char ∈ ['!', '=', '~', '&', '"'], ∀ more,
      first :: name ++ rest ≠ char :: more := by
    rintro char operator more same
    have named := all first List.mem_cons_self
    rw [(List.cons.inj same).1, isNameChar_operator char operator] at named
    cases named
  rw [firstToken?, takeWhile_append_of_stops all stops, dropWhile_append_of_stops all stops]
  · exact fun _ => begins '!' (by simp) _
  · exact fun _ => begins '!' (by simp) _
  · exact begins '!' (by simp)
  · exact begins '=' (by simp)
  · exact begins '~' (by simp)
  · exact begins '&' (by simp)
  · exact begins '"' (by simp)

/-- **A lexeme is read from its spelling, unless what follows goes on with it.** -/
theorem firstToken?_spelling_append {lexeme : Lexeme} {rest : List Char}
    (ends : lexeme.EndsBefore rest) :
    firstToken? (lexeme.spelling ++ rest) = some (lexeme.token, rest) := by
  cases lexeme with
  | comparison operator =>
      cases operator with
      | equal => rfl
      | unequal => rfl
      | regexMatch => rfl
      | regexMismatch => rfl
  | negation =>
      show firstToken? ('!' :: rest) = _
      rw [firstToken?]
      · rfl
      · rintro more rfl
        exact (ends '~' rfl).2 rfl
      · rintro more rfl
        exact (ends '=' rfl).1 rfl
  | conjunction => rfl
  | name chars nonempty named => exact firstToken?_name nonempty named ends
  | quoted units =>
      rw [Lexeme.spelling, List.cons_append, List.append_assoc, List.cons_append, List.nil_append,
        firstToken?, quotedBody?_units]
      rfl

/-- **What is read as the first token is a lexeme that ends before the rest.** -/
theorem exists_lexeme_of_firstToken? {chars rest : List Char} {token : Token}
    (read : firstToken? chars = some (token, rest)) :
    ∃ lexeme : Lexeme, lexeme.token = token ∧ lexeme.spelling ++ rest = chars ∧
      lexeme.EndsBefore rest := by
  unfold firstToken? at read
  split at read
  case h_1 =>
    cases read
    exact ⟨.comparison .regexMismatch, rfl, rfl, trivial⟩
  case h_2 =>
    cases read
    exact ⟨.comparison .unequal, rfl, rfl, trivial⟩
  case h_3 notMismatch notUnequal =>
    cases read
    refine ⟨.negation, rfl, rfl, ?_⟩
    intro char first
    obtain ⟨more, rfl⟩ := List.head?_eq_some_iff.mp first
    constructor
    · rintro rfl
      exact notUnequal more rfl
    · rintro rfl
      exact notMismatch more rfl
  case h_4 =>
    cases read
    exact ⟨.comparison .equal, rfl, rfl, trivial⟩
  case h_5 =>
    cases read
    exact ⟨.comparison .regexMatch, rfl, rfl, trivial⟩
  case h_6 =>
    cases read
    exact ⟨.conjunction, rfl, rfl, trivial⟩
  case h_7 word =>
    obtain ⟨⟨body, after⟩, inner, same⟩ := Option.map_eq_some_iff.mp read
    cases same
    obtain ⟨units, rfl, rfl⟩ := exists_units_of_quotedBody? inner
    refine ⟨.quoted units, rfl, ?_, trivial⟩
    simp [Lexeme.spelling]
  case h_8 =>
    split at read
    · cases read
    · rename_i nonempty
      cases read
      refine ⟨.name (chars.takeWhile isNameChar) nonempty ?_, rfl, ?_, ?_⟩
      · intro char taken
        exact List.mem_takeWhile_imp taken
      · exact List.takeWhile_append_dropWhile
      · exact head?_dropWhile_stops isNameChar chars

/-- A token with its spelling is written in one way. -/
theorem Lexeme.eq_of_token_of_spelling {first second : Lexeme}
    (sameToken : first.token = second.token)
    (sameSpelling : first.spelling = second.spelling) : first = second := by
  cases first with
  | comparison operator =>
      cases second with
      | comparison operator' => exact congrArg _ (Token.comparison.inj sameToken)
      | _ => cases sameToken
  | negation =>
      cases second with
      | negation => rfl
      | _ => cases sameToken
  | conjunction =>
      cases second with
      | conjunction => rfl
      | _ => cases sameToken
  | name chars nonempty named =>
      cases second with
      | name chars' _ _ =>
          obtain rfl : chars = chars' := sameSpelling
          rfl
      | _ => cases sameToken
  | quoted units =>
      cases second with
      | quoted units' =>
          exact congrArg _ (QuotedUnit.eq_of_spellings (List.cons.inj sameSpelling).2)
      | _ => cases sameToken

/-- **Two lexemes that begin the same text are the same,** when each ends before what follows
it. -/
theorem Lexeme.eq_and_rest_eq_of_spelling {first second : Lexeme} {rest rest' : List Char}
    (ends : first.EndsBefore rest) (ends' : second.EndsBefore rest')
    (same : first.spelling ++ rest = second.spelling ++ rest') : first = second ∧ rest = rest' := by
  have read := firstToken?_spelling_append ends
  rw [same, firstToken?_spelling_append ends'] at read
  obtain ⟨sameToken, rfl⟩ := Prod.mk.inj (Option.some.inj read)
  exact ⟨eq_of_token_of_spelling sameToken.symm (List.append_cancel_right same), rfl⟩

/-! ## Blanks -/

theorem isBlank_iff {char : Char} : isBlank char = true ↔ char = ' ' ∨ char = '\t' := by
  simp [isBlank]

theorem Blank.isBlank_of_mem {blanks : List Char} (blank : Blank blanks) :
    ∀ char ∈ blanks, isBlank char = true :=
  fun char occurs => isBlank_iff.mpr (blank char occurs)

theorem blank_takeWhile (chars : List Char) : Blank (chars.takeWhile isBlank) := by
  intro char taken
  exact isBlank_iff.mp (List.mem_takeWhile_imp taken)

/-- No character of a name is a blank. -/
theorem isBlank_of_isNameChar {char : Char} (named : isNameChar char = true) :
    isBlank char = false := by
  by_contra blank
  rw [Bool.not_eq_false, isBlank_iff] at blank
  rcases blank with rfl | rfl
  · exact absurd named (by decide +kernel)
  · exact absurd named (by decide +kernel)

/-- No lexeme begins with a blank. -/
theorem Lexeme.exists_cons_spelling (lexeme : Lexeme) :
    ∃ first more, lexeme.spelling = first :: more ∧ isBlank first = false := by
  cases lexeme with
  | comparison operator =>
      cases operator with
      | equal => exact ⟨'=', [], rfl, rfl⟩
      | unequal => exact ⟨'!', ['='], rfl, rfl⟩
      | regexMatch => exact ⟨'~', [], rfl, rfl⟩
      | regexMismatch => exact ⟨'!', ['~'], rfl, rfl⟩
  | negation => exact ⟨'!', [], rfl, rfl⟩
  | conjunction => exact ⟨'&', [], rfl, rfl⟩
  | name chars nonempty named =>
      obtain ⟨first, more, rfl⟩ := List.exists_cons_of_ne_nil nonempty
      exact ⟨first, more, rfl, isBlank_of_isNameChar (named first List.mem_cons_self)⟩
  | quoted units => exact ⟨'"', _, rfl, rfl⟩

theorem Lexeme.isBlank_head? (lexeme : Lexeme) (rest : List Char) :
    ∀ char ∈ (lexeme.spelling ++ rest).head?, isBlank char = false := by
  obtain ⟨first, more, begins, solid⟩ := lexeme.exists_cons_spelling
  rw [begins]
  rintro char ⟨⟩
  exact solid

theorem Blank.takeWhile_append_lexeme {blanks : List Char} (blank : Blank blanks) (lexeme : Lexeme)
    (rest : List Char) : (blanks ++ (lexeme.spelling ++ rest)).takeWhile isBlank = blanks :=
  takeWhile_append_of_stops blank.isBlank_of_mem (lexeme.isBlank_head? rest)

theorem Blank.dropWhile_append_lexeme {blanks : List Char} (blank : Blank blanks) (lexeme : Lexeme)
    (rest : List Char) :
    (blanks ++ (lexeme.spelling ++ rest)).dropWhile isBlank = lexeme.spelling ++ rest :=
  dropWhile_append_of_stops blank.isBlank_of_mem (lexeme.isBlank_head? rest)

theorem Blank.dropWhile_eq_nil {blanks : List Char} (blank : Blank blanks) :
    blanks.dropWhile isBlank = [] :=
  List.dropWhile_eq_nil_iff.mpr blank.isBlank_of_mem

/-- Blanks alone are not blanks with a lexeme. -/
theorem Blank.ne_append_lexeme {blanks blanks' rest : List Char} {lexeme : Lexeme}
    (blank : Blank blanks) (blank' : Blank blanks') :
    blanks ≠ blanks' ++ (lexeme.spelling ++ rest) := by
  intro same
  have skipped := blank'.dropWhile_append_lexeme lexeme rest
  rw [← same, blank.dropWhile_eq_nil] at skipped
  obtain ⟨first, more, begins, _⟩ := lexeme.exists_cons_spelling
  rw [begins] at skipped
  cases skipped

/-! ## The tokens of a cut -/

theorem tokensOf_of_blank {blanks : List Char} (blank : Blank blanks) :
    tokensOf blanks = .ok [] := by
  rw [tokensOf]
  split
  · rfl
  · rename_i separated
    rw [blank.dropWhile_eq_nil] at separated
    cases separated

theorem tokensOf_of_firstToken? {chars start rest : List Char} {token : Token}
    (skipped : chars.dropWhile isBlank = start) (read : firstToken? start = some (token, rest)) :
    tokensOf chars = (tokensOf rest).map (token :: ·) := by
  subst skipped
  rw [tokensOf]
  split
  · rename_i separated
    rw [separated] at read
    simp [firstToken?] at read
  · rename_i separated
    rw [separated] at read
    split
    · rename_i unread
      rw [read] at unread
      cases unread
    · rename_i read'
      rw [read] at read'
      cases read'
      rfl

/-- A legal cut is read as its tokens. -/
theorem Cut.tokensOf_chars {cut : Cut} (legal : cut.Legal) :
    tokensOf cut.chars = .ok cut.tokens := by
  induction cut with
  | last blanks blank => exact tokensOf_of_blank blank
  | piece blanks blank lexeme rest ih =>
      obtain ⟨ends, legal⟩ := legal
      have skipped := blank.dropWhile_append_lexeme lexeme rest.chars
      rw [Cut.chars, tokensOf_of_firstToken? skipped (firstToken?_spelling_append ends), ih legal]
      rfl

/-- What is read as tokens has a legal cut. -/
theorem exists_cut_of_tokensOf {chars : List Char} {tokens : List Token}
    (read : tokensOf chars = .ok tokens) :
    ∃ cut : Cut, cut.Legal ∧ cut.chars = chars ∧ cut.tokens = tokens := by
  fun_induction tokensOf chars generalizing tokens with
  | case1 chars separated =>
      cases read
      have blank : Blank chars := by
        intro char occurs
        exact isBlank_iff.mp (List.dropWhile_eq_nil_iff.mp separated char occurs)
      exact ⟨.last chars blank, trivial, rfl, rfl⟩
  | case2 => cases read
  | case3 chars char more separated token rest first ih =>
      obtain ⟨others, follows, rfl⟩ := map_eq_ok_iff.mp read
      obtain ⟨cut, legal, rfl, rfl⟩ := ih follows
      obtain ⟨lexeme, rfl, spelled, ends⟩ := exists_lexeme_of_firstToken? first
      refine ⟨.piece (chars.takeWhile isBlank) (blank_takeWhile chars) lexeme cut,
        ⟨ends, legal⟩, ?_, rfl⟩
      rw [Cut.chars, spelled, ← separated, List.takeWhile_append_dropWhile]

/-- A text has at most one legal cut. -/
theorem Cut.eq_of_chars_eq {first second : Cut} (legal : first.Legal) (legal' : second.Legal)
    (same : first.chars = second.chars) : first = second := by
  induction first generalizing second with
  | last blanks blank =>
      cases second with
      | last blanks' _ =>
          obtain rfl : blanks = blanks' := same
          rfl
      | piece blanks' blank' lexeme rest => exact absurd same (blank.ne_append_lexeme blank')
  | piece blanks blank lexeme rest ih =>
      cases second with
      | last blanks' blank' => exact absurd same.symm (blank'.ne_append_lexeme blank)
      | piece blanks' blank' lexeme' rest' =>
          have sameBlanks := congrArg (List.takeWhile isBlank) same
          have sameSolid := congrArg (List.dropWhile isBlank) same
          rw [chars, chars, blank.takeWhile_append_lexeme, blank'.takeWhile_append_lexeme]
            at sameBlanks
          rw [chars, chars, blank.dropWhile_append_lexeme, blank'.dropWhile_append_lexeme]
            at sameSolid
          obtain ⟨rfl, sameRest⟩ := Lexeme.eq_and_rest_eq_of_spelling legal.1 legal'.1 sameSolid
          obtain rfl := ih legal.2 legal'.2 sameRest
          obtain rfl := sameBlanks
          rfl

/-- **The lexer accepts exactly its lexical grammar.** A text is read as a list of tokens
if and only if the text has a legal cut with these tokens. It has at most one legal cut. -/
theorem tokenize_eq_ok_iff (text : String) (tokens : List Token) :
    (tokenize text = .ok tokens ↔
        ∃ cut : Cut, cut.Legal ∧ cut.chars = text.toList ∧ cut.tokens = tokens) ∧
      {cut : Cut | cut.Legal ∧ cut.chars = text.toList}.Subsingleton := by
  refine ⟨⟨exists_cut_of_tokensOf, ?_⟩, ?_⟩
  · rintro ⟨cut, legal, whole, rfl⟩
    rw [tokenize, ← whole]
    exact Cut.tokensOf_chars legal
  · intro first held second held'
    have same : first.chars = second.chars := held.2.trans held'.2.symm
    exact Cut.eq_of_chars_eq held.1 held'.1 same

end TagList

end OverpassQuery

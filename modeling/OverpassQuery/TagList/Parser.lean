import OverpassQuery.TagList.Lexer

/-!
# Reading a tag list

A tag list is empty, or has predicates with `&` between them. A predicate is a
key, a key after `!`, or a key, a comparison and a value. An error names the
first token that cannot stand where it does, by its place in the list.
-/

set_option autoImplicit false

namespace OverpassQuery

namespace TagList

/-- The key or value at the start of a list of tokens, whose first has the given place. -/
def readText (role : Role) (index : Nat) : List Token → Except SyntaxError (String × List Token)
  | [] => .error (.expectedText role index none)
  | token :: rest =>
      match token.text? with
      | some text => .ok (text, rest)
      | none => .error (.expectedText role index (some token))

/-- The predicate at the start of a list of tokens. -/
def readPredicate (index : Nat) : List Token → Except SyntaxError (TagPredicate × List Token)
  | .negation :: rest => do
      let (key, rest) ← readText .key (index + 1) rest
      return (.absent key, rest)
  | tokens => do
      let (key, rest) ← readText .key index tokens
      match rest with
      | .comparison operator :: rest => do
          let (value, rest) ← readText .value (index + 2) rest
          return (.compares key operator value, rest)
      | rest => return (.present key, rest)

theorem readText_length {role : Role} {index : Nat} {tokens rest : List Token} {text : String}
    (read : readText role index tokens = .ok (text, rest)) : rest.length < tokens.length := by
  unfold readText at read
  split at read
  · simp at read
  · split at read
    · cases read
      simp
    · simp at read

theorem readPredicate_length {index : Nat} {tokens rest : List Token} {predicate : TagPredicate}
    (read : readPredicate index tokens = .ok (predicate, rest)) :
    rest.length < tokens.length := by
  unfold readPredicate at read
  split at read
  · cases inner : readText .key (index + 1) _ with
    | error => rw [inner] at read; cases read
    | ok pair =>
        rw [inner] at read
        cases read
        have := readText_length inner
        simp only [List.length_cons]
        omega
  · cases inner : readText .key index tokens with
    | error => rw [inner] at read; cases read
    | ok pair =>
        obtain ⟨key, after⟩ := pair
        rw [inner] at read
        have shorter := readText_length inner
        cases after with
        | nil => cases read; exact shorter
        | cons token after =>
            cases token with
            | comparison operator =>
                cases innerValue : readText .value (index + 2) after with
                | error => simp [bind, Except.bind, innerValue] at read
                | ok pair =>
                    simp only [bind, Except.bind, innerValue] at read
                    cases read
                    have := readText_length innerValue
                    simp only [List.length_cons] at shorter
                    omega
            | name _ => cases read; exact shorter
            | quoted _ => cases read; exact shorter
            | negation => cases read; exact shorter
            | conjunction => cases read; exact shorter

/-- One or more predicates with `&` between them, up to the end of the tokens. -/
def readConjunction (index : Nat) (tokens : List Token) :
    Except SyntaxError (List TagPredicate) :=
  match _read : readPredicate index tokens with
  | .error cause => .error cause
  | .ok (predicate, []) => .ok [predicate]
  | .ok (predicate, .conjunction :: rest) =>
      (readConjunction (index + (tokens.length - rest.length)) rest).map (predicate :: ·)
  | .ok (_, found :: _) => .error (.expectedEnd (some found))
termination_by tokens.length
decreasing_by
  have shorter := readPredicate_length _read
  simp only [List.length_cons] at shorter
  omega

/-- The predicates of a list of tokens. -/
def ofTokens : List Token → Except SyntaxError (List TagPredicate)
  | [] => .ok []
  | tokens => readConjunction 0 tokens

/-- The predicates of a text. -/
def parse (text : String) : Except SyntaxError (List TagPredicate) := do
  ofTokens (← tokenize text)

end TagList

end OverpassQuery

import OverpassQuery.TagList.Token
import OverpassQuery.Text.Alphanumeric

/-!
# Cutting a text into tokens

Tokens may be separated by blanks and tabs. An operator of two characters is
taken before its first character alone, a name is as long as possible, and a
quoted word ends at the first quote that no backslash precedes. In a quoted word
a backslash stands for the quote or backslash after it; before any other
character it is kept, so that regular expressions need no second escape.

The whole text is cut before any of it is read. If at some place no token
starts, the text from there on is the error; for a quoted word without end, that
place is its opening quote.
-/

set_option autoImplicit false

namespace OverpassQuery

namespace TagList

/-- A blank between tokens. -/
def isBlank (char : Char) : Bool := char == ' ' || char == '\t'

/-- A character of a bare key or value. -/
def isNameChar (char : Char) : Bool :=
  Text.isAlphanumeric char || char == '_' || char == ':' || char == '-' || char == '.'

/-- What an escape stands for. -/
def unescape (char : Char) : List Char :=
  if char = '"' ∨ char = '\\' then [char] else ['\\', char]

/-- The resolved text of a quoted word after its opening quote, and what follows its
closing quote; `none` if it has no closing quote. -/
def quotedBody? : List Char → Option (List Char × List Char)
  | [] => none
  | '"' :: rest => some ([], rest)
  | ['\\'] => none
  | '\\' :: char :: rest =>
      (quotedBody? rest).map fun (body, after) => (unescape char ++ body, after)
  | char :: rest => (quotedBody? rest).map fun (body, after) => (char :: body, after)

/-- The token at the start of a text, and the text after it. -/
def firstToken? : List Char → Option (Token × List Char)
  | '!' :: '~' :: rest => some (.comparison .regexMismatch, rest)
  | '!' :: '=' :: rest => some (.comparison .unequal, rest)
  | '!' :: rest => some (.negation, rest)
  | '=' :: rest => some (.comparison .equal, rest)
  | '~' :: rest => some (.comparison .regexMatch, rest)
  | '&' :: rest => some (.conjunction, rest)
  | '"' :: rest =>
      (quotedBody? rest).map fun (body, after) => (.quoted (String.ofList body), after)
  | chars =>
      match chars.takeWhile isNameChar with
      | [] => none
      | name => some (.name (String.ofList name), chars.dropWhile isNameChar)

/-! ## The rest is shorter -/

theorem quotedBody?_length {chars body after : List Char}
    (read : quotedBody? chars = some (body, after)) : after.length < chars.length := by
  fun_induction quotedBody? chars generalizing body with
  | case1 => simp at read
  | case2 rest => simp_all
  | case3 => simp at read
  | case4 char rest ih =>
      obtain ⟨⟨body', after'⟩, inner, same⟩ := Option.map_eq_some_iff.mp read
      cases same
      have := ih inner
      simp only [List.length_cons]
      omega
  | case5 char rest _ _ _ ih =>
      obtain ⟨⟨body', after'⟩, inner, same⟩ := Option.map_eq_some_iff.mp read
      cases same
      have := ih inner
      simp only [List.length_cons]
      omega

theorem length_dropWhile_le {α : Type} (keep : α → Bool) (list : List α) :
    (list.dropWhile keep).length ≤ list.length :=
  (List.dropWhile_sublist keep).length_le

theorem length_dropWhile_lt {α : Type} {keep : α → Bool} {list : List α}
    (taken : list.takeWhile keep ≠ []) : (list.dropWhile keep).length < list.length := by
  cases list with
  | nil => simp at taken
  | cons head tail =>
      by_cases kept : keep head
      · have := length_dropWhile_le keep tail
        simp only [List.dropWhile_cons, kept, if_true, List.length_cons]
        omega
      · simp [kept] at taken

theorem firstToken?_length {chars rest : List Char} {token : Token}
    (read : firstToken? chars = some (token, rest)) : rest.length < chars.length := by
  unfold firstToken? at read
  split at read
  case h_7 word =>
    obtain ⟨⟨body, after⟩, inner, same⟩ := Option.map_eq_some_iff.mp read
    cases same
    have := quotedBody?_length inner
    simp only [List.length_cons]
    omega
  case h_8 =>
    split at read
    · simp at read
    · cases read
      exact length_dropWhile_lt (by assumption)
  all_goals
    cases read
    simp only [List.length_cons]
    omega

/-! ## The tokens of a text -/

/-- The tokens of a list of characters. -/
def tokensOf (chars : List Char) : Except SyntaxError (List Token) :=
  match _separated : chars.dropWhile isBlank with
  | [] => .ok []
  | char :: more =>
      match _read : firstToken? (char :: more) with
      | none => .error (.unreadable (String.ofList (char :: more)))
      | some (token, rest) => (tokensOf rest).map (token :: ·)
termination_by chars.length
decreasing_by
  have shorter := firstToken?_length _read
  have dropped := length_dropWhile_le isBlank chars
  rw [_separated] at dropped
  omega

/-- The tokens of a text. -/
def tokenize (text : String) : Except SyntaxError (List Token) := tokensOf text.toList

end TagList

end OverpassQuery

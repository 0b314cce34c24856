import OverpassQuery.TagPredicate
import OverpassQuery.Text.Quoted

/-!
# Tokens of a tag list

The words of the language in which a person writes tag conditions, and the ways
in which a text can fail to be a list of them. A message shows a token by the
name of its kind, with the text of a name or a quoted word in quotes.
-/

set_option autoImplicit false

namespace OverpassQuery

namespace TagList

/-- A token of a tag list. -/
inductive Token where
  /-- A bare key or value. -/
  | name (text : String)
  /-- A quoted key or value, with its escapes resolved. -/
  | quoted (text : String)
  | comparison (operator : Comparison)
  | negation
  | conjunction
  deriving DecidableEq

/-- What a place in a list is for. -/
inductive Role where
  | key
  | value
  deriving DecidableEq

/-- The cause for which a text is no tag list. A token is missing at the end. -/
inductive SyntaxError where
  /-- No token starts here; the rest of the text is kept. -/
  | unreadable (rest : String)
  /-- A key or a value should stand at a position, counted in tokens. -/
  | expectedText (role : Role) (index : Nat) (found : Option Token)
  /-- The list should end here. -/
  | expectedEnd (found : Option Token)
  deriving DecidableEq

namespace Token

/-- The text of a token that stands for a key or a value. -/
def text? : Token → Option String
  | .name text => some text
  | .quoted text => some text
  | _ => none

/-- The kind of a comparison as messages show it. -/
def comparisonShown : Comparison → String
  | .equal => "Eq"
  | .unequal => "Ne"
  | .regexMatch => "Match"
  | .regexMismatch => "NotMatch"

/-- A token as messages show it. -/
def shown : Token → String
  | .name text => "Ident(" ++ Text.quoted text ++ ")"
  | .quoted text => "Quoted(" ++ Text.quoted text ++ ")"
  | .comparison operator => comparisonShown operator
  | .negation => "Not"
  | .conjunction => "And"

/-- A token, or the end of the list, as messages show it. -/
def shownOrEnd : Option Token → String
  | some token => token.shown
  | none => "Eof"

end Token

namespace Role

/-- The name of a role in messages. -/
def name : Role → String
  | .key => "key"
  | .value => "value"

end Role

namespace SyntaxError

/-- The message of a cause. -/
def message : SyntaxError → String
  | .unreadable rest =>
      "Lexer error at '" ++ rest ++ "': Backtrack(ContextError \x7b context: [], cause: None \x7d)"
  | .expectedText role index found =>
      "Expected " ++ role.name ++ " at token " ++ toString index ++ ", got "
        ++ Token.shownOrEnd found
  | .expectedEnd found => "Expected Eof, got " ++ Token.shownOrEnd found

end SyntaxError

end TagList

end OverpassQuery

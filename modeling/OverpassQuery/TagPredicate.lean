/-!
# Tag predicates

A condition on one tag of an element: the key is present, is absent, or has a
value that compares in one of four ways. A condition without a value cannot
carry one. The text of a predicate is the bracketed clause of the query
language, with key and value between quotes as they are.
-/

set_option autoImplicit false

namespace OverpassQuery

/-- How the value of a tag is compared. -/
inductive Comparison where
  | equal
  | unequal
  | regexMatch
  | regexMismatch
  deriving DecidableEq

/-- A condition on one tag of an element. -/
inductive TagPredicate where
  | present (key : String)
  | absent (key : String)
  | compares (key : String) (comparison : Comparison) (value : String)
  deriving DecidableEq

namespace Comparison

/-- The operator of a comparison. -/
def symbol : Comparison → String
  | .equal => "="
  | .unequal => "!="
  | .regexMatch => "~"
  | .regexMismatch => "!~"

end Comparison

namespace TagPredicate

/-- The key of the tag. -/
def key : TagPredicate → String
  | .present key => key
  | .absent key => key
  | .compares key _ _ => key

/-- The value the tag is compared with. -/
def value? : TagPredicate → Option String
  | .compares _ _ value => some value
  | _ => none

/-- The operator of the clause. -/
def operator : TagPredicate → String
  | .present _ => ""
  | .absent _ => "!"
  | .compares _ comparison _ => comparison.symbol

/-- The clause of a predicate. -/
def text : TagPredicate → String
  | .present key => "[\"" ++ key ++ "\"]"
  | .absent key => "[!\"" ++ key ++ "\"]"
  | .compares key comparison value =>
      "[\"" ++ key ++ "\"" ++ comparison.symbol ++ "\"" ++ value ++ "\"]"

/-- The tag must not match an expression, the commonest condition of a street network. -/
def mismatch (key pattern : String) : TagPredicate := .compares key .regexMismatch pattern

end TagPredicate

end OverpassQuery

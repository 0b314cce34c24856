/-!
# Why a query cannot be built

The causes for which a filter, a setting or a block of statements is refused,
and the message of each. Nothing is written when one of these is returned.
-/

set_option autoImplicit false

namespace OverpassQuery

/-- The blocks of statements that may not hold one another. -/
inductive Block where
  | union
  | difference
  deriving DecidableEq

/-- The kinds of filter on an element. -/
inductive FilterKind where
  | boundingBox
  | recurse
  | id
  | around
  | polygon
  | area
  deriving DecidableEq

namespace Block

/-- The name of a block in messages. -/
def name : Block → String
  | .union => "union statement"
  | .difference => "difference statement"

end Block

namespace FilterKind

/-- The name of a kind of filter in messages. -/
def name : FilterKind → String
  | .boundingBox => "bounding box"
  | .recurse => "recurse"
  | .id => "id"
  | .around => "around"
  | .polygon => "polygon"
  | .area => "area"

end FilterKind

/-- The cause for which a part of a query is refused. -/
inductive BuildError where
  | invalidNesting (outer inner : Block)
  | invalidOutputFormat (value : String)
  | missingCsvOptions
  | emptyIdList (filter : FilterKind)
  | emptyRing (filter : FilterKind)
  | nonFinite (filter : FilterKind)
  deriving DecidableEq

namespace BuildError

/-- The message of a cause. -/
def message : BuildError → String
  | .invalidNesting outer inner =>
      outer.name ++ " cannot wrap " ++ inner.name
        ++ "; reference its result set with a set statement instead"
  | .invalidOutputFormat value =>
      "setting 'out' must be one of xml, json, csv, not '" ++ value ++ "'"
  | .missingCsvOptions =>
      "csv output format requires header options (i.e. which tags/headers to keep)"
  | .emptyIdList filter => filter.name ++ " filter requires at least one id"
  | .emptyRing filter => filter.name ++ " filter requires at least one coordinate"
  | .nonFinite filter => filter.name ++ " values must be finite numbers"

end BuildError

end OverpassQuery

import OverpassQuery.Geography

/-!
# Filters on elements

A filter narrows a selection of elements by place or by identity. Its arguments
are checked when it is made, and its clause is written then.
-/

set_option autoImplicit false

namespace OverpassQuery

/-- Membership followed inside a filter. -/
inductive MemberRecursion where
  /-- Nodes of the ways in the input set. -/
  | ways
  /-- Members of the relations in the input set. -/
  | relations
  /-- Ways through the nodes in the input set. -/
  | backNodes
  /-- Relations with a way in the input set. -/
  | backWays
  /-- Relations of the relations in the input set. -/
  | backRelations
  deriving DecidableEq

/-- The condition that a filter states. -/
inductive FilterCondition where
  | boundingBox (box : BoundingBox)
  | recurse (direction : MemberRecursion)
  | id (ids : List Int)
  /-- Within a radius in metres of a ring's positions, or of the elements of a named set. -/
  | around (radius : Binary64) (ring : Ring) (inputSet : Option String)
  | polygon (ring : Ring)
  | area (ids : List Int)
  deriving DecidableEq

/-- A checked condition with its clause. -/
structure ElementFilter where
  condition : FilterCondition
  clause : String
  deriving DecidableEq

namespace MemberRecursion

/-- The symbol of a membership. -/
def symbol : MemberRecursion → String
  | .ways => "w"
  | .relations => "r"
  | .backNodes => "bn"
  | .backWays => "bw"
  | .backRelations => "br"

end MemberRecursion

namespace FilterCondition

/-- The kind of a condition. -/
def kind : FilterCondition → FilterKind
  | .boundingBox _ => .boundingBox
  | .recurse _ => .recurse
  | .id _ => .id
  | .around .. => .around
  | .polygon _ => .polygon
  | .area _ => .area

/-- A list of ids must not be empty. -/
def checkIds (kind : FilterKind) (ids : List Int) : Except BuildError Unit :=
  if ids = [] then .error (.emptyIdList kind) else .ok ()

/-- The arguments of a condition must be complete and finite; the ring of an `around`
is checked before its radius. -/
def check : FilterCondition → Except BuildError Unit
  | .boundingBox box => box.check
  | .recurse _ => .ok ()
  | .id ids => checkIds .id ids
  | .around radius ring _ => do
      ring.check .around
      if radius.isFinite then .ok () else .error (.nonFinite .around)
  | .polygon ring => ring.check .polygon
  | .area ids => checkIds .area ids

/-- The list of ids, joined by commas. -/
def idsText (ids : List Int) : String := ",".intercalate (ids.map fun id => toString id)

/-- The text between the parentheses of a filter. The clause of a membership brings a
closing parenthesis of its own, besides the one that ends the filter. -/
def clause : FilterCondition → String
  | .boundingBox box => box.clause
  | .recurse direction => direction.symbol ++ ")"
  | .id ids => "id:" ++ idsText ids
  | .around radius ring inputSet =>
      (match inputSet with
        | some name => "around." ++ name
        | none => "around")
        ++ ":" ++ radius.text ++ "," ++ ring.coordinateText ","
  | .polygon ring => "poly:\"" ++ ring.coordinateText " " ++ "\""
  | .area ids => "area:" ++ idsText ids

/-- The set that a condition reads: memberships read the result before them, and an
`around` the set it names. -/
def reads? : FilterCondition → Option String
  | .recurse _ => some "_"
  | .around _ _ inputSet => inputSet
  | _ => none

end FilterCondition

namespace ElementFilter

/-- The filter of a condition, with its clause written. -/
def written (condition : FilterCondition) : ElementFilter := ⟨condition, condition.clause⟩

/-- The filter of a condition whose arguments are in order. -/
def make (condition : FilterCondition) : Except BuildError ElementFilter := do
  condition.check
  return written condition

/-- The elements inside a box. -/
def boundingBox (box : BoundingBox) : Except BuildError ElementFilter := make (.boundingBox box)

/-- The elements related to the result before, which can always be asked for. -/
def recurse (direction : MemberRecursion) : ElementFilter := written (.recurse direction)

/-- The elements with the given ids. -/
def ids (ids : List Int) : Except BuildError ElementFilter := make (.id ids)

/-- The elements near a ring's positions. -/
def around (radius : Binary64) (ring : Ring) (inputSet : Option String) :
    Except BuildError ElementFilter :=
  make (.around radius ring inputSet)

/-- The elements inside a polygon. -/
def polygon (ring : Ring) : Except BuildError ElementFilter := make (.polygon ring)

/-- The elements inside the areas with the given ids. -/
def area (ids : List Int) : Except BuildError ElementFilter := make (.area ids)

/-- The kind of a filter. -/
def kind (filter : ElementFilter) : FilterKind := filter.condition.kind

/-- The set that a filter reads. -/
def reads? (filter : ElementFilter) : Option String := filter.condition.reads?

end ElementFilter

end OverpassQuery

import OverpassQuery.ElementFilter
import OverpassQuery.Setting
import OverpassQuery.TagPredicate

/-!
# Statements of a query

A query is a tree: predicates and filters narrow the selections of elements,
selections are members of unions and differences, and a sequence holds the
statements that are submitted together. Every node carries its text, which is
put together from the texts of its parts when the node is made; only unions and
sequences change afterwards, by appending, which makes them anew.

Unions and differences may not hold one another. A sequence adds nothing to the
text of its statements, so a block inside a sequence counts as held by whatever
holds the sequence (`Statement.checkMember`). Inner results are used by naming
them and referring to the name.
-/

set_option autoImplicit false

namespace OverpassQuery

/-! ## Leaves -/

/-- The kinds of element on the map. -/
inductive ElementType where
  | node
  | way
  | relation
  | area
  deriving DecidableEq

/-- How much of an element is printed. -/
inductive Detail where
  /-- Ids alone. -/
  | ids
  /-- What is needed for the shape. -/
  | skeleton
  /-- All that is needed to use the data, with tags and member roles. -/
  | body
  /-- Ids and tags. -/
  | tags
  /-- The body with version, changeset, time and user. -/
  | metadata
  deriving DecidableEq

/-- What is printed of the elements, or in which order. -/
inductive Verbosity where
  | detail (level : Detail) (withoutIds : Bool)
  | geometry
  | boundingBox
  | center
  | ascending
  | quadtile
  | count
  deriving DecidableEq

/-- The direction in which a recurse statement follows memberships. -/
inductive RecurseDirection where
  | down
  | downRelations
  | up
  | upRelations
  deriving DecidableEq

/-- A selection of elements by type, tags and filter. -/
structure ElementStatement where
  elementType : ElementType
  predicates : List TagPredicate
  filter : Option ElementFilter
  text : String

/-- A reference to a named set. -/
structure SetReference where
  name : String
  text : String
  deriving DecidableEq

/-- An instruction to print the result so far. -/
structure OutStatement where
  verbosity : Verbosity
  text : String
  deriving DecidableEq

/-- An instruction to follow memberships from the result so far. -/
structure RecurseStatement where
  direction : RecurseDirection
  text : String
  deriving DecidableEq

/-- The settings in front of a query. -/
structure SettingsStatement where
  settings : List Setting
  text : String
  deriving DecidableEq

/-! ## Blocks and the tree -/

/-- A union of members under a result name. -/
structure UnionOf (Member : Type) where
  result : String
  members : List Member
  text : String

/-- A difference of two operands under a result name. -/
structure DifferenceOf (Member : Type) where
  result : String
  first : Member
  second : Member
  text : String

/-- Statements in order of execution. -/
structure SequenceOf (Member : Type) where
  statements : List Member
  text : String

/-- A statement of any kind. -/
inductive Statement where
  | element (selection : ElementStatement)
  | setReference (reference : SetReference)
  | out (instruction : OutStatement)
  | recurse (instruction : RecurseStatement)
  | settings (block : SettingsStatement)
  | union (block : UnionOf Statement)
  | difference (block : DifferenceOf Statement)
  | sequence (block : SequenceOf Statement)

/-- A union of statements. -/
abbrev UnionStatement := UnionOf Statement

/-- A difference of statements. -/
abbrev DifferenceStatement := DifferenceOf Statement

/-- A sequence of statements, the unit that is submitted. -/
abbrev Sequence := SequenceOf Statement

/-- The name of the set that holds the result when no other is named. -/
def defaultSet : String := "_"

/-! ## Names in the query language -/

/-- The keyword of an element type. -/
def ElementType.name : ElementType → String
  | .node => "node"
  | .way => "way"
  | .relation => "relation"
  | .area => "area"

/-- The keyword of a level of detail. -/
def Detail.name : Detail → String
  | .ids => "ids"
  | .skeleton => "skel"
  | .body => "body"
  | .tags => "tags"
  | .metadata => "meta"

/-- The keywords of a verbosity. -/
def Verbosity.name : Verbosity → String
  | .detail level withoutIds => level.name ++ (if withoutIds then " noids" else "")
  | .geometry => "geom"
  | .boundingBox => "bb"
  | .center => "center"
  | .ascending => "asc"
  | .quadtile => "qt"
  | .count => "count"

/-- The symbol of a direction. -/
def RecurseDirection.symbol : RecurseDirection → String
  | .down => "<"
  | .downRelations => "<<"
  | .up => ">"
  | .upRelations => ">>"

namespace Statement

/-! ## What a statement shows of itself -/

/-- The text of a statement, as written when it was made. -/
def text : Statement → String
  | .element selection => selection.text
  | .setReference reference => reference.text
  | .out instruction => instruction.text
  | .recurse instruction => instruction.text
  | .settings block => block.text
  | .union block => block.text
  | .difference block => block.text
  | .sequence block => block.text

/-- The named set that a statement writes, if it writes one. -/
def produces? : Statement → Option String
  | .setReference reference => some reference.name
  | .union block => some block.result
  | .difference block => some block.result
  | _ => none

/-- The set that a statement reads, if it reads one. The members of a block read for
themselves. -/
def reads? : Statement → Option String
  | .element selection => selection.filter.bind ElementFilter.reads?
  | .setReference reference => some reference.name
  | .out _ => some defaultSet
  | .recurse _ => some defaultSet
  | _ => none

/-! ## Nesting -/

mutual

/-- The first block that a statement amounts to once its sequences are read through. -/
def firstBlock? : Statement → Option Block
  | .union _ => some .union
  | .difference _ => some .difference
  | .sequence ⟨statements, _⟩ => firstBlockOf? statements
  | _ => none

/-- The first block in a list of statements once their sequences are read through. -/
def firstBlockOf? : List Statement → Option Block
  | [] => none
  | statement :: rest =>
      match firstBlock? statement with
      | some block => some block
      | none => firstBlockOf? rest

end

/-- A block takes members that amount to no block; else the first of them is named. -/
def checkMembers (outer : Block) (members : List Statement) : Except BuildError Unit :=
  match firstBlockOf? members with
  | some inner => .error (.invalidNesting outer inner)
  | none => .ok ()

/-! ## Making leaves -/

/-- The texts of a list of statements, one after the other. -/
def texts (statements : List Statement) : String := String.join (statements.map text)

theorem texts_nil : texts [] = "" := String.join_nil

theorem texts_cons (statement : Statement) (rest : List Statement) :
    texts (statement :: rest) = statement.text ++ texts rest := by
  rw [texts, List.map_cons, String.join_cons]
  rfl

theorem texts_append (first second : List Statement) :
    texts (first ++ second) = texts first ++ texts second := by
  rw [texts, List.map_append, String.join_append]
  rfl

/-- The name of a result set; an empty name stands for the default set. -/
def resultName (name : String) : String := if name = "" then defaultSet else name

end Statement

/-- The text of a selection. -/
def ElementStatement.render (elementType : ElementType) (predicates : List TagPredicate)
    (filter : Option ElementFilter) : String :=
  elementType.name ++ String.join (predicates.map TagPredicate.text)
    ++ (match filter with
      | some filter => "(" ++ filter.clause ++ ")"
      | none => "")
    ++ ";"

/-- A selection of elements. -/
def ElementStatement.make (elementType : ElementType) (predicates : List TagPredicate)
    (filter : Option ElementFilter) : ElementStatement :=
  ⟨elementType, predicates, filter, ElementStatement.render elementType predicates filter⟩

/-- A reference to a named set. -/
def SetReference.make (name : String) : SetReference := ⟨name, "." ++ name ++ ";"⟩

/-- An instruction to print. -/
def OutStatement.make (verbosity : Verbosity) : OutStatement :=
  ⟨verbosity, "out " ++ verbosity.name ++ ";"⟩

/-- An instruction to follow memberships. -/
def RecurseStatement.make (direction : RecurseDirection) : RecurseStatement :=
  ⟨direction, direction.symbol ++ ";"⟩

/-- The settings of a query. -/
def SettingsStatement.make (settings : List Setting) : SettingsStatement :=
  ⟨settings, String.join (settings.map Setting.text) ++ ";"⟩

/-! ## Making blocks -/

namespace UnionStatement

/-- The text of a union of members with the given texts, up to the end of the members. -/
def opening (members : List Statement) : String := "(" ++ Statement.texts members

/-- The end of a union's text. -/
def closing (result : String) : String := ")->." ++ result ++ ";"

/-- A union whose members have been checked. -/
def written (result : String) (members : List Statement) : UnionStatement :=
  ⟨result, members, opening members ++ closing result⟩

/-- A union of members. -/
def make (result : String) (members : List Statement) : Except BuildError UnionStatement := do
  Statement.checkMembers .union members
  return written (Statement.resultName result) members

/-- Takes further members into a union in place. All of them are checked before any is
taken. -/
def extend (members : List Statement) : ExceptT BuildError (StateM UnionStatement) Unit := do
  Statement.checkMembers .union members
  modify fun union => written union.result (union.members ++ members)

/-- The outcome of taking further members into a union, and the union after it. -/
def extended (union : UnionStatement) (members : List Statement) :
    Except BuildError Unit × UnionStatement :=
  (extend members).run.run union

/-- A union with further members, or the cause for which they are refused. -/
def append (union : UnionStatement) (members : List Statement) :
    Except BuildError UnionStatement :=
  (union.extended members).1.map fun _ => (union.extended members).2

end UnionStatement

namespace DifferenceStatement

/-- A difference whose operands have been checked. -/
def written (result : String) (first second : Statement) : DifferenceStatement :=
  ⟨result, first, second,
    "(" ++ first.text ++ " - " ++ second.text ++ ")->." ++ result ++ ";"⟩

/-- A difference of two operands. -/
def make (result : String) (first second : Statement) :
    Except BuildError DifferenceStatement := do
  Statement.checkMembers .difference [first, second]
  return written (Statement.resultName result) first second

end DifferenceStatement

namespace Sequence

/-- A sequence of statements. -/
def ofList (statements : List Statement) : Sequence := ⟨statements, Statement.texts statements⟩

/-- The sequence without statements. -/
def empty : Sequence := ⟨[], ""⟩

/-- A sequence with further statements. -/
def append (sequence : Sequence) (statements : List Statement) : Sequence :=
  ofList (sequence.statements ++ statements)

end Sequence

end OverpassQuery

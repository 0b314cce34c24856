import OverpassQuery.Statement

/-!
# Equality of trees

Two statements are equal when all their fields are, texts included, and when the
numbers in their filters are numerically equal. What is no number equals nothing,
so numerical equality alone would not be reflexive.
-/

set_option autoImplicit false

namespace OverpassQuery

/-- Numerical equality of two positions. -/
def Point.sameAs (first second : Point) : Bool :=
  first.longitude.numericallyEqual second.longitude
    && first.latitude.numericallyEqual second.latitude

/-- Numerical equality of two rings. -/
def Ring.sameAs : Ring → Ring → Bool
  | [], [] => true
  | first :: rest, second :: rest' => first.sameAs second && Ring.sameAs rest rest'
  | _, _ => false

/-- Numerical equality of two boxes. -/
def BoundingBox.sameAs (first second : BoundingBox) : Bool :=
  first.south.numericallyEqual second.south && first.west.numericallyEqual second.west
    && first.north.numericallyEqual second.north && first.east.numericallyEqual second.east

/-- Equality of two conditions. -/
def FilterCondition.sameAs : FilterCondition → FilterCondition → Bool
  | .boundingBox box, .boundingBox box' => box.sameAs box'
  | .recurse direction, .recurse direction' => direction == direction'
  | .id ids, .id ids' => ids == ids'
  | .around radius ring inputSet, .around radius' ring' inputSet' =>
      radius.numericallyEqual radius' && ring.sameAs ring' && inputSet == inputSet'
  | .polygon ring, .polygon ring' => ring.sameAs ring'
  | .area ids, .area ids' => ids == ids'
  | _, _ => false

/-- Equality of two filters. -/
def ElementFilter.sameAs (first second : ElementFilter) : Bool :=
  first.condition.sameAs second.condition && first.clause == second.clause

/-- Equality of two optional filters. -/
def ElementFilter.sameOption : Option ElementFilter → Option ElementFilter → Bool
  | none, none => true
  | some first, some second => first.sameAs second
  | _, _ => false

/-- Equality of two selections. -/
def ElementStatement.sameAs (first second : ElementStatement) : Bool :=
  first.elementType == second.elementType && first.predicates == second.predicates
    && ElementFilter.sameOption first.filter second.filter && first.text == second.text

namespace Statement

mutual

/-- Equality of two statements. -/
def sameAs : Statement → Statement → Bool
  | .element selection, .element selection' => selection.sameAs selection'
  | .setReference reference, .setReference reference' => reference == reference'
  | .out instruction, .out instruction' => instruction == instruction'
  | .recurse instruction, .recurse instruction' => instruction == instruction'
  | .settings block, .settings block' => block == block'
  | .union ⟨result, members, text⟩, .union ⟨result', members', text'⟩ =>
      result == result' && sameAll members members' && text == text'
  | .difference ⟨result, first, second, text⟩, .difference ⟨result', first', second', text'⟩ =>
      result == result' && sameAs first first' && sameAs second second' && text == text'
  | .sequence ⟨statements, text⟩, .sequence ⟨statements', text'⟩ =>
      sameAll statements statements' && text == text'
  | _, _ => false

/-- Equality of two lists of statements. -/
def sameAll : List Statement → List Statement → Bool
  | [], [] => true
  | first :: rest, second :: rest' => sameAs first second && sameAll rest rest'
  | _, _ => false

end

end Statement

end OverpassQuery

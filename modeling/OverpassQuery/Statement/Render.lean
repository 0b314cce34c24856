import OverpassQuery.Statement

/-!
# The text of a tree, written anew

`Statement.render` writes the text of a statement from its fields alone and looks
at no stored text. `Statement.spliced` is the list of statements that a tree
amounts to once every sequence is replaced by its statements.
-/

set_option autoImplicit false

namespace OverpassQuery

namespace Statement

mutual

/-- The text of a statement, from its fields alone. -/
def render : Statement → String
  | .element ⟨elementType, predicates, filter, _⟩ =>
      ElementStatement.render elementType predicates
        (filter.map fun filter => ElementFilter.written filter.condition)
  | .setReference reference => "." ++ reference.name ++ ";"
  | .out instruction => "out " ++ instruction.verbosity.name ++ ";"
  | .recurse instruction => instruction.direction.symbol ++ ";"
  | .settings block => String.join (block.settings.map Setting.text) ++ ";"
  | .union ⟨result, members, _⟩ => "(" ++ renderAll members ++ ")->." ++ result ++ ";"
  | .difference ⟨result, first, second, _⟩ =>
      "(" ++ render first ++ " - " ++ render second ++ ")->." ++ result ++ ";"
  | .sequence ⟨statements, _⟩ => renderAll statements

/-- The texts of a list of statements, from their fields alone. -/
def renderAll : List Statement → String
  | [] => ""
  | statement :: rest => render statement ++ renderAll rest

end

mutual

/-- The statements that a statement amounts to once sequences are read through. -/
def spliced : Statement → List Statement
  | .sequence ⟨statements, _⟩ => splicedAll statements
  | statement => [statement]

/-- The statements that a list amounts to once sequences are read through. -/
def splicedAll : List Statement → List Statement
  | [] => []
  | statement :: rest => spliced statement ++ splicedAll rest

end

end Statement

end OverpassQuery

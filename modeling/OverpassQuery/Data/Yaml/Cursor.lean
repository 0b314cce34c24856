import OverpassQuery.Data.Yaml.Tree

/-!
# Places in a YAML text

A text is a list of lines. A cursor stands in one of them: it has the column, the
rest of the line, the lines below, and the nodes that were given names further
up. Spaces and tabs are blanks. A comment starts with `#` at the start of a line
or after a blank and runs to the end of the line.
-/

set_option autoImplicit false

namespace OverpassQuery

namespace Yaml

/-- A place in a text. -/
structure Cursor where
  column : Nat
  line : List Char
  below : List (List Char)
  /-- Whether this is the first content of its line. -/
  isFirst : Bool
  /-- The named nodes, the latest first. -/
  anchors : List (List Char × Tree)

/-- A space or a tab. -/
def isBlank (char : Char) : Bool := char == ' ' || char == '\t'

/-- Whether a text is at its end or goes on with a blank. -/
def startsBlank (chars : List Char) : Bool := chars.head?.all isBlank

/-- The lines of a text. Each ends with a line feed, a carriage return, or both; the last
may lack its end. -/
def linesOf : List Char → List (List Char)
  | [] => []
  | '\r' :: '\n' :: rest => [] :: linesOf rest
  | char :: rest =>
      if char = '\n' ∨ char = '\r' then [] :: linesOf rest
      else
        match linesOf rest with
        | [] => [[char]]
        | line :: lines => (char :: line) :: lines

/-- Whether a line marks the start or end of a document. -/
def isMarker : List Char → Bool
  | '-' :: '-' :: '-' :: rest => startsBlank rest
  | '.' :: '.' :: '.' :: rest => startsBlank rest
  | _ => false

/-- Whether a line has nothing but blanks and a comment. -/
def isIdle (line : List Char) : Bool := (line.dropWhile isBlank).head?.all (· == '#')

namespace Cursor

/-- The place above the first line of a text. -/
def start (text : List Char) : Cursor := ⟨0, [], linesOf text, false, []⟩

/-- The place some characters further in the line. -/
def advance (cursor : Cursor) (count : Nat) : Cursor :=
  { cursor with
    column := cursor.column + count
    line := cursor.line.drop count
    isFirst := cursor.isFirst && count == 0 }

/-- The place after the blanks. -/
def skipBlanks (cursor : Cursor) : Cursor :=
  cursor.advance (cursor.line.takeWhile isBlank).length

/-- The place at the end of the line. -/
def skipLine (cursor : Cursor) : Cursor := cursor.advance cursor.line.length

/-- Whether nothing is left. -/
def atEnd (cursor : Cursor) : Bool := cursor.line.isEmpty && cursor.below.isEmpty

/-- Whether a document ends here: nothing is left, or there is a marker. -/
def atBoundary (cursor : Cursor) : Bool :=
  cursor.atEnd || (cursor.column == 0 && isMarker cursor.line)

/-- Whether only blanks and a comment are left in the line. -/
def atLineEnd (cursor : Cursor) : Bool :=
  match cursor.line with
  | [] => true
  | char :: _ => isBlank char && isIdle cursor.line

/-- The place after the blanks, unless the rest of the line has nothing but a comment. -/
def skipSpace (cursor : Cursor) : Cursor :=
  if cursor.atLineEnd then cursor.skipLine else cursor.skipBlanks

/-- The end of a line in which only blanks and a comment are left. -/
def finishLine? (cursor : Cursor) : Option Cursor :=
  if cursor.atLineEnd then some cursor.skipLine else none

/-- Whether a line is indented by less than a number of columns when its first tab comes. -/
def tabComesEarly (line : List Char) (columns : Nat) : Bool :=
  let spaces := line.takeWhile (· == ' ')
  spaces.length < columns && (line.drop spaces.length).head? == some '\t'

/-- The first content of the lines below. Inside a collection with a floor no tab may come
further left than the collection. -/
def contentBelow? (floor : Nat) (anchors : List (List Char × Tree)) :
    List (List Char) → Option Cursor
  | [] => some ⟨0, [], [], true, anchors⟩
  | line :: below =>
      if isIdle line then contentBelow? floor anchors below
      else if tabComesEarly line (floor - 1) then none
      else
        let margin := (line.takeWhile isBlank).length
        some ⟨margin, line.drop margin, below, true, anchors⟩

/-- The place itself if it is the first content of its line, and otherwise the first content
of the lines below, provided that only blanks and a comment are left in the line. -/
def nextContent? (cursor : Cursor) (floor : Nat) : Option Cursor :=
  if cursor.isFirst then some cursor
  else if cursor.atLineEnd then contentBelow? floor cursor.anchors cursor.below
  else none

/-- A cursor with a further named node. -/
def withAnchor (cursor : Cursor) (name : List Char) (node : Tree) : Cursor :=
  { cursor with anchors := (name, node) :: cursor.anchors }

end Cursor

end Yaml

end OverpassQuery

import OverpassQuery.Data.Yaml.Text

/-!
# Reading YAML

Indentation makes the collections of a text: the entries of a table and the
items of a list start in one column, and what belongs to them stands further
right. Between brackets indentation counts for little. A node may be given a
name, by which it can be used again further down, and a tag.

The functions below take the least column at which a node may continue, called
its floor, and return the node with the place after it.
-/

set_option autoImplicit false

namespace OverpassQuery

namespace Yaml

/-- A node and the place after it. -/
abbrev Read := Option (Tree × Cursor)

/-! ## Names and tags -/

/-- The names and tags in front of a node. -/
structure Properties where
  anchor : Option (List Char) := none
  tag : Option Tag := none

/-- What a tag says about a plain scalar. -/
def tagOf (written : List Char) : Tag :=
  let name := String.ofList written
  if name = "!!bool" then .boolean
  else if name = "!!int" then .integer
  else if name = "!!float" then .real
  else if name = "!!null" then .null
  else .text

/-- Whether a character may stand in a name. -/
def isNameChar (char : Char) : Bool := !isBlank char && !isFlowIndicator char

/-- The names and tags that start here, one of each kind at most. -/
def properties? (found : Properties) (cursor : Cursor) : Nat → Option (Properties × Cursor)
  | 0 => some (found, cursor)
  | steps + 1 =>
      match cursor.line with
      | '&' :: rest =>
          let name := rest.takeWhile isNameChar
          let next := cursor.advance (name.length + 1)
          if found.anchor.isSome ∨ name = [] ∨ !startsBlank next.line then none
          else properties? { found with anchor := some name } next.skipSpace steps
      | '!' :: _ =>
          let written := cursor.line.takeWhile isNameChar
          let next := cursor.advance written.length
          if found.tag.isSome ∨ !startsBlank next.line then none
          else properties? { found with tag := some (tagOf written) } next.skipSpace steps
      | _ => some (found, cursor)

/-- Whether a name or tag starts here. -/
def startsProperty (cursor : Cursor) : Bool :=
  cursor.line.head?.any fun char => char == '&' || char == '!'

/-- The node of a plain scalar. -/
def plainNode (properties : Properties) (text : List Char) : Tree :=
  .scalar (match properties.tag with
    | none => .ofPlain text
    | some tag => .ofTagged tag text)

/-- The node of a quoted text or a block. -/
def textNode (text : List Char) : Tree := .scalar (.text (String.ofList text))

/-- A node under the name in front of it. -/
def named (properties : Properties) (read : Tree × Cursor) : Tree × Cursor :=
  match properties.anchor with
  | none => read
  | some name => (read.1, read.2.withAnchor name read.1)

/-- The node that a name stands for, and the place after the name. -/
def alias? (cursor : Cursor) : Read := do
  let name := (cursor.line.drop 1).takeWhile isNameChar
  let node ← cursor.anchors.lookup name
  return (node, cursor.advance (name.length + 1))

/-! ## Between brackets -/

/-- The next content between brackets, across lines. -/
def flowContent? (floor : Nat) (cursor : Cursor) : Option Cursor := do
  let here := cursor.skipSpace
  if !here.atLineEnd then some here
  else
    let next ← Cursor.contentBelow? floor cursor.anchors cursor.below
    if next.atBoundary ∨ next.column + 1 < floor then none else some next

/-- Whether the value of a key starts here; after a key in quotes or brackets the colon
needs no blank. -/
def atFlowValue (afterJsonKey : Bool) (cursor : Cursor) : Bool :=
  match cursor.line with
  | ':' :: rest => afterJsonKey || separatesAfter true rest
  | _ => false

/-- Whether a node in quotes or brackets starts here. -/
def startsJsonNode (cursor : Cursor) : Bool :=
  cursor.line.head?.any fun char =>
    char == '"' || char == '\'' || char == '[' || char == '\x7b'

/-- An entry appended to a table that has no such key. -/
def addEntry? (entries : List (Tree × Tree)) (key value : Tree) : Option (List (Tree × Tree)) :=
  if Tree.hasKey entries key then none else some (entries ++ [(key, value)])

/-- The node without content. -/
def empty : Tree := .scalar .null

mutual

/-- A node between brackets. -/
def flowNode? (floor : Nat) (cursor : Cursor) : Nat → Read
  | 0 => none
  | steps + 1 => do
      let (properties, here) ← properties? {} cursor 2
      if here.line = [] then none
      else if here.line.head?.any (fun char => char == ',' || char == ']' || char == '\x7d')
          ∨ atFlowValue false here then
        if startsProperty cursor then
          return named properties (if properties.tag = some .text then textNode [] else empty, here)
        else none
      else
        match here.line with
        | '*' :: _ => alias? here
        | '[' :: _ => return named properties (← flowList? floor [] (here.advance 1) steps)
        | '\x7b' :: _ => return named properties (← flowTable? floor [] (here.advance 1) steps)
        | '"' :: _ | '\'' :: _ =>
            let (text, after) ← quoted? floor here
            return named properties (textNode text, after)
        | _ =>
            let (text, after) ← plain? true floor here
            return named properties (plainNode properties text, after)
termination_by structural steps => steps

/-- The value of a key between brackets, which may be left out. -/
def flowValue? (floor : Nat) (cursor : Cursor) : Nat → Read
  | 0 => none
  | steps + 1 => do
      let here ← flowContent? floor cursor
      if here.line.head?.any (fun char => char == ',' || char == ']' || char == '\x7d') then
        return (empty, here)
      else flowNode? floor here steps
termination_by structural steps => steps

/-- A list after its opening bracket, with the items so far. -/
def flowList? (floor : Nat) (items : List Tree) (cursor : Cursor) : Nat → Read
  | 0 => none
  | steps + 1 => do
      let here ← flowContent? floor cursor
      match here.line with
      | ']' :: _ => return (.list items, here.advance 1)
      | _ =>
          let (key, afterKey) ←
            if atFlowValue false here then some (empty, here) else flowNode? floor here steps
          let next ← flowContent? floor afterKey
          let (item, afterItem) ←
            if atFlowValue (startsJsonNode here) next then do
              let (value, after) ← flowValue? floor (next.advance 1) steps
              some (.table [(key, value)], after)
            else some (key, next)
          let stop ← flowContent? floor afterItem
          match stop.line with
          | ',' :: _ => flowList? floor (items ++ [item]) (stop.advance 1) steps
          | ']' :: _ => return (.list (items ++ [item]), stop.advance 1)
          | _ => none
termination_by structural steps => steps

/-- A table after its opening brace, with the entries so far. -/
def flowTable? (floor : Nat) (entries : List (Tree × Tree)) (cursor : Cursor) : Nat → Read
  | 0 => none
  | steps + 1 => do
      let here ← flowContent? floor cursor
      match here.line with
      | '\x7d' :: _ => return (.table entries, here.advance 1)
      | _ =>
          let (key, afterKey) ←
            if atFlowValue false here then some (empty, here) else flowNode? floor here steps
          let next ← flowContent? floor afterKey
          let (value, afterValue) ←
            if atFlowValue (startsJsonNode here) next then flowValue? floor (next.advance 1) steps
            else some (empty, next)
          let entries ← addEntry? entries key value
          let stop ← flowContent? floor afterValue
          match stop.line with
          | ',' :: _ => flowTable? floor entries (stop.advance 1) steps
          | '\x7d' :: _ => return (.table entries, stop.advance 1)
          | _ => none
termination_by structural steps => steps

end

/-! ## By indentation -/

/-- Whether a mark with a blank after it starts here. -/
def startsWithMark (mark : Char) (cursor : Cursor) : Bool :=
  match cursor.line with
  | char :: rest => char == mark && startsBlank rest
  | [] => false

/-- The key that starts here and ends with a colon in the same line, and the place after
the colon. -/
def key? (cursor : Cursor) : Read := do
  let (properties, here) ← properties? {} cursor 2
  let read ←
    match here.line with
    | '*' :: _ => alias? here
    | '"' :: _ | '\'' :: _ =>
        (quoted? 0 { here with below := [] }).map fun (text, after) => (textNode text, after)
    | _ =>
        if startsPlain false here.line then
          let run := trimEnd (plainRun false false here.line)
          some (plainNode properties run, here.advance run.length)
        else none
  let (key, after) := named properties read
  let colon := after.skipBlanks
  if startsWithMark ':' colon then
    some (key, { colon.advance 1 with below := cursor.below })
  else none

mutual

/-- A node whose content starts here, in its own line or after a mark. -/
def blockNode? (floor : Nat) (cursor : Cursor) : Nat → Read
  | 0 => none
  | steps + 1 =>
      if startsWithMark '-' cursor then blockList? cursor.column [] cursor steps
      else if startsWithMark '?' cursor ∨ (key? cursor).isSome then
        blockTable? cursor.column [] cursor steps
      else lineNode? floor cursor steps
termination_by structural steps => steps

/-- A node that starts in the middle of a line, so that it is no collection made by
indentation unless its content starts in a line below. -/
def lineNode? (floor : Nat) (cursor : Cursor) : Nat → Read
  | 0 => none
  | steps + 1 => do
      let (properties, here) ← properties? {} cursor 2
      if startsProperty cursor ∧ here.atLineEnd then
        let next ← here.nextContent? floor
        if next.atBoundary ∨ next.column < floor then
          return named properties (if properties.tag = some .text then textNode [] else empty, next)
        else return named properties (← blockNode? floor next steps)
      else
        match here.line with
        | '*' :: _ =>
            let (node, after) ← alias? here
            return (node, ← after.finishLine?)
        | '[' :: _ | '\x7b' :: _ =>
            let (node, after) ← flowNode? floor here steps
            return named properties (node, ← after.finishLine?)
        | '"' :: _ | '\'' :: _ =>
            let (text, after) ← quoted? floor here
            return named properties (textNode text, ← after.finishLine?)
        | '|' :: _ | '>' :: _ =>
            let (text, after) ← block? floor here
            return named properties (textNode text, after)
        | _ =>
            let (text, after) ← plain? false floor here
            return named properties (plainNode properties text, ← after.finishLine?)
termination_by structural steps => steps

/-- The items of a list at a column, after those so far. -/
def blockList? (column : Nat) (items : List Tree) (cursor : Cursor) : Nat → Read
  | 0 => none
  | steps + 1 =>
      if cursor.atBoundary ∨ cursor.column < column
          ∨ (cursor.column = column ∧ !startsWithMark '-' cursor) then
        some (.list items, cursor)
      else if cursor.column ≠ column then none
      else do
        let here := (cursor.advance 1).skipSpace
        let (item, after) ←
          if here.atLineEnd then blockBelow? column false here steps
          else blockNode? (column + 1) here steps
        blockList? column (items ++ [item]) (← after.nextContent? (column + 1)) steps
termination_by structural steps => steps

/-- The node below a mark or a colon whose line has no content: it stands further right
than the collection it belongs to. In a table a list may stand in the same column. -/
def blockBelow? (column : Nat) (inTable : Bool) (cursor : Cursor) : Nat → Read
  | 0 => none
  | steps + 1 => do
      let next ← cursor.nextContent? (column + 1)
      if next.atBoundary then return (empty, next)
      else if column < next.column then blockNode? (column + 1) next steps
      else if inTable ∧ next.column = column ∧ startsWithMark '-' next then
        blockList? column [] next steps
      else return (empty, next)
termination_by structural steps => steps

/-- The value after a colon. -/
def blockValue? (column : Nat) (cursor : Cursor) : Nat → Read
  | 0 => none
  | steps + 1 =>
      let here := cursor.skipSpace
      if here.atLineEnd then blockBelow? column true here steps
      else lineNode? (column + 1) here steps
termination_by structural steps => steps

/-- The entries of a table at a column, after those so far. -/
def blockTable? (column : Nat) (entries : List (Tree × Tree)) (cursor : Cursor) : Nat → Read
  | 0 => none
  | steps + 1 =>
      if cursor.atBoundary ∨ cursor.column < column then some (.table entries, cursor)
      else if cursor.column ≠ column then none
      else if startsWithMark '?' cursor then do
        let here := (cursor.advance 1).skipSpace
        let (key, afterKey) ←
          if here.atLineEnd then blockBelow? column false here steps
          else blockNode? (column + 1) here steps
        let next ← afterKey.nextContent? (column + 1)
        let (value, after) ←
          if next.column = column ∧ !next.atBoundary ∧ startsWithMark ':' next then
            let place := (next.advance 1).skipSpace
            if place.atLineEnd then blockBelow? column true place steps
            else blockNode? (column + 1) place steps
          else some (empty, next)
        let entries ← addEntry? entries key value
        blockTable? column entries (← after.nextContent? (column + 1)) steps
      else do
        let (key, afterKey) ← key? cursor
        let (value, after) ← blockValue? column afterKey steps
        let entries ← addEntry? entries key value
        blockTable? column entries (← after.nextContent? (column + 1)) steps
termination_by structural steps => steps

end

/-! ## Documents -/

/-- The node of a document whose content starts here or is left out. -/
def documentNode? (cursor : Cursor) (steps : Nat) : Read :=
  if cursor.atBoundary then some (empty, cursor) else blockNode? 0 cursor steps

/-- The documents from here on, after a document or before the first. -/
def documents? (isOpen : Bool) (cursor : Cursor) : Nat → Option (List Tree)
  | 0 => none
  | steps + 1 => do
      let here ← cursor.nextContent? 0
      if here.atEnd then some []
      else
        match here.column, here.line with
        | 0, '.' :: '.' :: '.' :: rest =>
            if startsBlank rest then documents? false (← (here.advance 3).finishLine?) steps
            else if isOpen then none
            else document? here steps
        | 0, '-' :: '-' :: '-' :: rest =>
            if startsBlank rest then
              let content := (here.advance 3).skipSpace
              let (node, after) ←
                if content.atLineEnd then documentNode? (← content.nextContent? 0) steps
                else lineNode? 0 content steps
              let others ← documents? true after steps
              some (node :: others)
            else if isOpen then none
            else document? here steps
        | 0, '%' :: _ => if isOpen then none else directives? here.skipLine steps
        | _, _ => if isOpen then none else document? here steps
where
  /-- A document without a marker, and those after it. -/
  document? (cursor : Cursor) (steps : Nat) : Option (List Tree) := do
    let (node, after) ← blockNode? 0 cursor steps
    let others ← documents? true after steps
    some (node :: others)
  /-- The directives in front of a document, which must have a marker. -/
  directives? (cursor : Cursor) (steps : Nat) : Option (List Tree) := do
    let next ← cursor.nextContent? 0
    if next.column = 0 ∧ (next.line.head? = some '%' ∨ next.line.take 3 = ['-', '-', '-']) then
      documents? false next steps
    else none

/-- The number of steps that suffice for a text: each character and each line end is passed
by a bounded number of them. -/
def stepsFor (text : List Char) : Nat := 8 * (text.length + 4)

/-- The documents of a text. -/
def parse? (text : String) : Option (List Tree) :=
  documents? false (Cursor.start text.toList) (stepsFor text.toList)

end Yaml

end OverpassQuery

import OverpassQuery.Data.Toml.Scalar
import OverpassQuery.Data.Toml.Table

/-!
# Reading TOML

A document is a list of lines: entries, and headers that say in which table the
entries after them are. A list in brackets may take several lines; a table in
braces stands in one.
-/

set_option autoImplicit false

namespace OverpassQuery

namespace Toml

/-! ## Keys -/

/-- Whether a character may stand in a key without quotes. -/
def isKeyChar (char : Char) : Bool := char.isAlphanum || char == '_' || char == '-'

/-- The step of a key at the start of a text, and what follows. -/
def step? (chars : List Char) : Option (String × List Char) :=
  if chars.head?.any fun char => char == '"' || char == '\'' then lineText? chars
  else
    match chars.takeWhile isKeyChar with
    | [] => none
    | step => some (String.ofList step, chars.drop step.length)

/-- The steps of a key between points, and what follows the blanks after it. The steps
allowed are as many as there are characters. -/
def keyWithin? : Nat → List Char → Option (List String × List Char)
  | 0, _ => none
  | steps + 1, chars => do
      let (step, after) ← step? (skipBlanks chars)
      match skipBlanks after with
      | '.' :: rest =>
          let (path, after) ← keyWithin? steps rest
          return (step :: path, after)
      | rest => return ([step], rest)

/-- The steps of a key, and what follows the blanks after it. -/
def key? (chars : List Char) : Option (List String × List Char) :=
  keyWithin? (chars.length + 1) chars

/-! ## Values -/

/-- What follows the blanks and the comment at the end of a line, still with the line break. -/
def lineEnd? (chars : List Char) : Option (List Char) :=
  match skipBlanks chars with
  | '#' :: rest =>
      let comment := rest.takeWhile fun char => char != '\n' && char != '\r'
      if comment.any isControl then none else some (rest.drop comment.length)
  | rest => some rest

/-- What follows blanks, comments and line breaks. The steps allowed are as many as there are
characters. -/
def contentWithin? : Nat → List Char → Option (List Char)
  | 0, chars => some chars
  | steps + 1, chars => do
      let rest ← lineEnd? chars
      match lineBreak? rest with
      | some below => contentWithin? steps below
      | none => return rest

/-- What follows blanks, comments and line breaks. -/
def content? (chars : List Char) : Option (List Char) := contentWithin? chars.length chars

mutual

/-- The value at the start of a text, and what follows. -/
def value? (chars : List Char) : Nat → Option (Data × List Char)
  | 0 => none
  | steps + 1 =>
      match chars with
      | '"' :: _ | '\'' :: _ => (text? chars).map fun (text, after) => (.text text, after)
      | '[' :: rest => items? [] rest steps
      | '\x7b' :: rest =>
          match skipBlanks rest with
          | '\x7d' :: after => some (.table [], after)
          | _ => inlineEntries? [] rest steps
      | _ =>
          let word := takeWord chars
          (wordValue? word).map fun value => (value, chars.drop word.length)

/-- A list after its opening bracket or a comma, with the items so far. -/
def items? (items : List Data) (chars : List Char) : Nat → Option (Data × List Char)
  | 0 => none
  | steps + 1 => do
      let here ← content? chars
      match here with
      | ']' :: after => return (.list items, after)
      | _ =>
          let (item, after) ← value? here steps
          match ← content? after with
          | ',' :: rest => items? (items ++ [item]) rest steps
          | ']' :: rest => return (.list (items ++ [item]), rest)
          | _ => none

/-- A table after its opening brace or a comma, with the entries so far. -/
def inlineEntries? (entries : Entries) (chars : List Char) : Nat → Option (Data × List Char)
  | 0 => none
  | steps + 1 => do
      let (path, afterKey) ← key? chars
      let (value, after) ← value? (skipBlanks (← after? '=' afterKey)) steps
      let entries ← atLast? true (fun key => addValue? key value) path entries
      match skipBlanks after with
      | ',' :: rest => inlineEntries? entries rest steps
      | '\x7d' :: rest => return (.table (entriesToData entries), rest)
      | _ => none

end

/-! ## Documents -/

/-- A document in the making: all its entries, and the table that entries are added to. -/
structure Draft where
  entries : Entries
  place : List String

/-- A draft with a table opened. -/
def Draft.openTable? (draft : Draft) (path : List String) : Option Draft :=
  (atLast? false Toml.openTable? path draft.entries).map fun entries => ⟨entries, path⟩

/-- A draft with a row added to a list of tables. -/
def Draft.addRow? (draft : Draft) (path : List String) : Option Draft :=
  (atLast? false Toml.addRow? path draft.entries).map fun entries => ⟨entries, path⟩

/-- A draft with a value added to the table that is open. -/
def Draft.addValue? (draft : Draft) (path : List String) (value : Data) : Option Draft := do
  let add := atLast? true (fun key => Toml.addValue? key value) path
  let entries ← changeAt? false add draft.place draft.entries
  return { draft with entries := entries }

/-- A draft with what the next line adds, and what follows that line's content. -/
def line? (draft : Draft) (chars : List Char) : Option (Draft × List Char) :=
  match chars with
  | '[' :: '[' :: rest => do
      let (path, after) ← key? rest
      let after ← after? ']' (← after? ']' after)
      return (← draft.addRow? path, after)
  | '[' :: rest => do
      let (path, after) ← key? rest
      let after ← after? ']' after
      return (← draft.openTable? path, after)
  | chars => do
      let (path, afterKey) ← key? chars
      let start := skipBlanks (← after? '=' afterKey)
      let (value, after) ← value? start (2 * start.length + 2)
      return (← draft.addValue? path value, after)

/-- The entries of a document from a line on. The steps allowed are as many as there are
characters. -/
def linesWithin? (draft : Draft) (chars : List Char) : Nat → Option Entries
  | 0 => none
  | steps + 1 => do
      match ← content? chars with
      | [] => return draft.entries
      | start =>
          let (draft, after) ← line? draft start
          let rest ← lineEnd? after
          if rest = [] then return draft.entries
          else linesWithin? draft (← lineBreak? rest) steps

/-- The table that a text holds. -/
def parse? (text : String) : Option Data := do
  let chars := text.toList
  let entries ← linesWithin? ⟨[], []⟩ chars (chars.length + 1)
  return .table (entriesToData entries)

end Toml

end OverpassQuery

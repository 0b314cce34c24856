import OverpassQuery.Data.Json.Lexer
import OverpassQuery.Data.Yaml.Cursor

/-!
# Texts of YAML documents

A text is written plainly, between quotes, or as a block of lines. Over several
lines, a plain or quoted text is folded: a line break becomes a space, and of
several breaks in a row the first is dropped. A block keeps its line breaks, or
folds them where neither line is indented further; its header says what becomes
of the breaks at its end.
-/

set_option autoImplicit false

namespace OverpassQuery

namespace Yaml

/-- What a break followed by a number of empty lines becomes. -/
def foldedBreak (emptyLines : Nat) : List Char :=
  if emptyLines = 0 then [' '] else List.replicate emptyLines '\n'

/-- A list of characters without the blanks at its end. -/
def trimEnd (chars : List Char) : List Char := (chars.reverse.dropWhile isBlank).reverse

/-- The number of lines without content at the start of a list, and the lines after them. -/
def dropEmptyLines : List (List Char) → Nat × List (List Char)
  | [] => (0, [])
  | line :: below =>
      if line.all isBlank then
        let (count, rest) := dropEmptyLines below
        (count + 1, rest)
      else (0, line :: below)

/-! ## Between quotes -/

/-- How a line of a quoted text ends. -/
inductive LineEnd where
  /-- At the closing quote, with what follows it. -/
  | closed (rest : List Char)
  | folded
  /-- After a backslash, so that the break does not count. -/
  | joined

/-- The character that a letter after a backslash stands for. -/
def escaped? (letter : Char) : Option Char :=
  match letter with
  | '0' => some '\x00'
  | 'a' => some '\x07'
  | 'b' => some '\x08'
  | 't' | '\t' => some '\t'
  | 'n' => some '\n'
  | 'v' => some '\x0b'
  | 'f' => some '\x0c'
  | 'r' => some '\r'
  | 'e' => some '\x1b'
  | ' ' | '"' | '/' | '\\' => some letter
  | 'N' => some '\u0085'
  | '_' => some '\u00a0'
  | 'L' => some '\u2028'
  | 'P' => some '\u2029'
  | _ => none

/-- The number of hexadecimal digits that a letter after a backslash announces. -/
def codeLength? (letter : Char) : Option Nat :=
  match letter with
  | 'x' => some 2
  | 'u' => some 4
  | 'U' => some 8
  | _ => none

/-- The character with a code, if there is one. -/
def charOfCode? (digits : List Char) : Option Char := do
  let values ← digits.mapM Json.hexValue?
  let code := values.foldl (fun total value => 16 * total + value) 0
  if code.isValidChar then some (Char.ofNat code) else none

/-- What follows a backslash: the character meant, and how many were read. -/
def escape? : List Char → Option (Char × Nat)
  | [] => none
  | letter :: rest =>
      match codeLength? letter with
      | none => (escaped? letter).map fun char => (char, 1)
      | some length =>
          if rest.length < length then none
          else (charOfCode? (rest.take length)).map fun char => (char, length + 1)

/-- The part of a double-quoted text in one line. The blanks before a folded break do not
count. The steps allowed are as many as the line has characters. -/
def doubleLineWithin? : Nat → List Char → List Char → Option (List Char × LineEnd)
  | 0, blanks, line =>
      match line with
      | '"' :: rest => some (blanks, .closed rest)
      | [] => some ([], .folded)
      | _ => none
  | steps + 1, blanks, line =>
      match line with
      | [] => some ([], .folded)
      | '"' :: rest => some (blanks, .closed rest)
      | ['\\'] => some (blanks, .joined)
      | '\\' :: rest => do
          let (char, length) ← escape? rest
          let (text, finish) ← doubleLineWithin? steps [] (rest.drop length)
          return (blanks ++ char :: text, finish)
      | char :: rest =>
          if isBlank char then doubleLineWithin? steps (blanks ++ [char]) rest
          else do
            let (text, finish) ← doubleLineWithin? steps [] rest
            return (blanks ++ char :: text, finish)

/-- The part of a double-quoted text in one line. -/
def doubleLine? (line : List Char) : Option (List Char × LineEnd) :=
  doubleLineWithin? line.length [] line

/-- The part of a single-quoted text in one line. A quote in it is written twice. -/
def singleLine (blanks : List Char) : List Char → List Char × LineEnd
  | [] => ([], .folded)
  | '\'' :: '\'' :: rest =>
      let (text, finish) := singleLine [] rest
      (blanks ++ '\'' :: text, finish)
  | char :: rest =>
      if char = '\'' then (blanks, .closed rest)
      else if isBlank char then singleLine (blanks ++ [char]) rest
      else
        let (text, finish) := singleLine [] rest
        (blanks ++ char :: text, finish)

/-- The part of a quoted text in one line. -/
def quotedLine? (quote : Char) (line : List Char) : Option (List Char × LineEnd) :=
  if quote = '"' then doubleLine? line else some (singleLine [] line)

/-- A quoted text from its second line on, over as many lines as are allowed. No line may
mark the end of a document or stand before a column. -/
def quotedBelow? (quote : Char) (floor : Nat) (anchors : List (List Char × Tree))
    (joined : Bool) : Nat → List (List Char) → Option (List Char × Cursor)
  | 0, _ => none
  | lines + 1, below =>
      match dropEmptyLines below with
      | (_, []) => none
      | (emptyLines, line :: below) => do
          let margin := (line.takeWhile isBlank).length
          if isMarker line ∨ margin + 1 < floor then none
          let content := line.drop margin
          let (text, finish) ← quotedLine? quote content
          let gap := if joined then List.replicate emptyLines '\n' else foldedBreak emptyLines
          match finish with
          | .closed rest =>
              return (gap ++ text,
                ⟨margin + (content.length - rest.length), rest, below, false, anchors⟩)
          | .folded =>
              let (more, after) ← quotedBelow? quote floor anchors false lines below
              return (gap ++ text ++ more, after)
          | .joined =>
              let (more, after) ← quotedBelow? quote floor anchors true lines below
              return (gap ++ text ++ more, after)

/-- The quoted text that starts here, and the place after it. -/
def quoted? (floor : Nat) (cursor : Cursor) : Option (List Char × Cursor) :=
  match cursor.line with
  | [] => none
  | quote :: line => do
      let (text, finish) ← quotedLine? quote line
      let lines := cursor.below.length
      match finish with
      | .closed rest => return (text, cursor.advance (cursor.line.length - rest.length))
      | .folded =>
          let (more, after) ← quotedBelow? quote floor cursor.anchors false lines cursor.below
          return (text ++ more, after)
      | .joined =>
          let (more, after) ← quotedBelow? quote floor cursor.anchors true lines cursor.below
          return (text ++ more, after)

/-! ## Plain -/

/-- A character that separates the parts of a collection in brackets. -/
def isFlowIndicator (char : Char) : Bool :=
  char == ',' || char == '[' || char == ']' || char == '\x7b' || char == '\x7d'

/-- Whether a colon before a text separates a key from its value. -/
def separatesAfter (inFlow : Bool) (rest : List Char) : Bool :=
  startsBlank rest || (inFlow && rest.head?.any isFlowIndicator)

/-- Whether a plain text can start with the first of some characters. -/
def startsPlain (inFlow : Bool) : List Char → Bool
  | [] => false
  | char :: rest =>
      if char = '-' ∨ char = '?' ∨ char = ':' then !separatesAfter inFlow rest
      else !(isBlank char || isFlowIndicator char
        || ['#', '&', '*', '!', '|', '>', '\'', '"', '%', '@', '`'].contains char)

/-- The part of a plain text in one line, with the blanks that follow it. -/
def plainRun (inFlow afterBlank : Bool) : List Char → List Char
  | [] => []
  | char :: rest =>
      if (char = ':' ∧ separatesAfter inFlow rest) ∨ (char = '#' ∧ afterBlank)
          ∨ (inFlow ∧ isFlowIndicator char) then []
      else char :: plainRun inFlow (isBlank char) rest

/-- The place after a number of characters of a line, without the blanks at their end. -/
def afterPlain (column : Nat) (line run : List Char) (below : List (List Char))
    (anchors : List (List Char × Tree)) : Cursor :=
  (⟨column, line, below, false, anchors⟩ : Cursor).advance (trimEnd run).length

/-- A plain text from its second line on. It goes on while the line before it was read to
its end, and the next is indented, has content, and does not start with a comment or a
separator. -/
def plainBelow? (inFlow : Bool) (floor : Nat) (here : Cursor) :
    Nat → List (List Char) → Option (List Char × Cursor)
  | 0, _ => some ([], here)
  | lines + 1, below =>
      if here.line.all isBlank then
        match dropEmptyLines below with
        | (_, []) => some ([], here)
        | (emptyLines, line :: below) =>
            let margin := (line.takeWhile isBlank).length
            let content := line.drop margin
            let run := plainRun inFlow true content
            if isMarker line ∨ (!inFlow ∧ margin < floor) ∨ run = [] then some ([], here)
            else if !inFlow ∧ Cursor.tabComesEarly line floor then none
            else do
              let next := afterPlain margin content run below here.anchors
              let (more, after) ← plainBelow? inFlow floor next lines below
              return (foldedBreak emptyLines ++ trimEnd run ++ more, after)
      else some ([], here)

/-- The plain text that starts here, and the place after it. -/
def plain? (inFlow : Bool) (floor : Nat) (cursor : Cursor) : Option (List Char × Cursor) := do
  if !startsPlain inFlow cursor.line then none
  let run := plainRun inFlow false cursor.line
  let next := afterPlain cursor.column cursor.line run cursor.below cursor.anchors
  let (more, after) ← plainBelow? inFlow floor next cursor.below.length cursor.below
  return (trimEnd run ++ more, after)

/-! ## Blocks of lines -/

/-- What becomes of the line breaks at the end of a block. -/
inductive Chomping where
  | clip
  | strip
  | keep

/-- The header of a block. -/
structure BlockHeader where
  isFolded : Bool
  chomping : Chomping
  /-- The indentation of the lines, counted from the collection around the block. -/
  indentation : Option Nat

/-- The marks of a block's header after the first, each kind at most once. -/
def blockMarks? (header : BlockHeader) : List Char → Option (BlockHeader × List Char)
  | '+' :: rest =>
      match rest with
      | digit :: more =>
          if digit.isDigit then
            if digit = '0' ∨ header.indentation.isSome then none
            else some (⟨header.isFolded, .keep, some (Scalar.digitValue digit)⟩, more)
          else some ({ header with chomping := .keep }, rest)
      | [] => some ({ header with chomping := .keep }, [])
  | '-' :: rest =>
      match rest with
      | digit :: more =>
          if digit.isDigit then
            if digit = '0' ∨ header.indentation.isSome then none
            else some (⟨header.isFolded, .strip, some (Scalar.digitValue digit)⟩, more)
          else some ({ header with chomping := .strip }, rest)
      | [] => some ({ header with chomping := .strip }, [])
  | digit :: rest =>
      if digit.isDigit then
        if digit = '0' then none
        else
          let indented := { header with indentation := some (Scalar.digitValue digit) }
          match rest with
          | '+' :: more => some ({ indented with chomping := .keep }, more)
          | '-' :: more => some ({ indented with chomping := .strip }, more)
          | rest => some (indented, rest)
      else some (header, digit :: rest)
  | [] => some (header, [])

/-- The header of a block, and what follows it in its line. -/
def blockHeader? : List Char → Option (BlockHeader × List Char)
  | '|' :: rest => blockMarks? ⟨false, .clip, none⟩ rest
  | '>' :: rest => blockMarks? ⟨true, .clip, none⟩ rest
  | _ => none

/-- The spaces at the start of a line. -/
def marginOf (line : List Char) : Nat := (line.takeWhile (· == ' ')).length

/-- The indentation of a block that does not state it: that of its first line with content,
but no less than that of an empty line before it or of the block itself. -/
def detectedIndentation (least : Nat) : List (List Char) → Nat
  | [] => least
  | line :: below =>
      if line.all (· == ' ') then detectedIndentation (max least (marginOf line)) below
      else max least (marginOf line)

/-- The lines of a block without their indentation, and the lines after the block. -/
def blockLines (indentation : Nat) : List (List Char) → List (List Char) × List (List Char)
  | [] => ([], [])
  | line :: below =>
      let content := line.drop indentation
      if indentation ≤ marginOf line ∨ line.all (· == ' ') then
        let (lines, rest) := blockLines indentation below
        (content :: lines, rest)
      else ([], line :: below)

/-- The text of the lines of a block after one that has content, up to the last that has. -/
def joinedLines (isFolded afterIndented : Bool) (emptyLines : Nat) : List (List Char) → List Char
  | [] => []
  | line :: rest =>
      if line = [] then joinedLines isFolded afterIndented (emptyLines + 1) rest
      else
        let indented := line.head?.any isBlank
        let gap :=
          if isFolded ∧ !afterIndented ∧ !indented then foldedBreak emptyLines
          else List.replicate (emptyLines + 1) '\n'
        gap ++ line ++ joinedLines isFolded indented 0 rest

/-- The text of the lines of a block. -/
def blockText (header : BlockHeader) (lines : List (List Char)) : List Char :=
  let leading := lines.takeWhile (· = [])
  let trailing := (lines.reverse.takeWhile (· = [])).length
  let body :=
    match lines.drop leading.length with
    | [] => []
    | first :: rest =>
        List.replicate leading.length '\n' ++ first
          ++ joinedLines header.isFolded (first.head?.any isBlank) 0 rest
  match header.chomping with
  | .strip => body
  | .clip => if body = [] then [] else body ++ ['\n']
  | .keep =>
      if body = [] then List.replicate trailing '\n'
      else body ++ List.replicate (trailing + 1) '\n'

/-- The block that starts here, and the place after it. -/
def block? (floor : Nat) (cursor : Cursor) : Option (List Char × Cursor) := do
  let (header, rest) ← blockHeader? cursor.line
  let _ ← (cursor.advance (cursor.line.length - rest.length)).finishLine?
  let indentation :=
    match header.indentation with
    | some columns => floor - 1 + columns
    | none => detectedIndentation (max floor 1) cursor.below
  let (lines, below) := blockLines indentation cursor.below
  return (blockText header lines, ⟨0, [], below, false, cursor.anchors⟩)

end Yaml

end OverpassQuery

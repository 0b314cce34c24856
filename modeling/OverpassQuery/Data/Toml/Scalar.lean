import OverpassQuery.Binary64.Text
import OverpassQuery.Calendar.Date
import OverpassQuery.Data.Json.Lexer
import OverpassQuery.Data.Value

/-!
# Scalars of TOML

Texts stand between one or three quotes of either kind; double quotes allow
escapes, and three quotes allow line breaks. Numbers may have underscores
between digits. A date, a time, or both count as a text in its normal form.
-/

set_option autoImplicit false

namespace OverpassQuery

namespace Toml

/-- A space or a tab. -/
def isBlank (char : Char) : Bool := char == ' ' || char == '\t'

/-- A text without the blanks at its start. -/
def skipBlanks (chars : List Char) : List Char := chars.dropWhile isBlank

/-- A text after a line break, if one stands at its start. -/
def lineBreak? : List Char → Option (List Char)
  | '\n' :: rest => some rest
  | '\r' :: '\n' :: rest => some rest
  | _ => none

/-- A character that may not stand in a text or a comment. -/
def isControl (char : Char) : Bool :=
  (char.toNat < 0x20 && char != '\t') || char.toNat == 0x7F

/-! ## Texts -/

/-- The character that a letter after a backslash stands for. -/
def escaped? (letter : Char) : Option Char :=
  match letter with
  | 'b' => some '\x08'
  | 't' => some '\t'
  | 'n' => some '\n'
  | 'f' => some '\x0c'
  | 'r' => some '\r'
  | '"' | '\\' => some letter
  | _ => none

/-- What follows a backslash: the character meant, and the text after it. -/
def escape? : List Char → Option (Char × List Char)
  | [] => none
  | letter :: rest =>
      if letter = 'u' ∨ letter = 'U' then do
        let length := if letter = 'u' then 4 else 8
        let values ← (rest.take length).mapM Json.hexValue?
        let code := values.foldl (fun total value => 16 * total + value) 0
        if rest.length < length ∨ !code.isValidChar then none
        return (Char.ofNat code, rest.drop length)
      else (escaped? letter).map fun char => (char, rest)

/-- The text after a backslash at the end of a line: the blanks and line breaks before the
next content are dropped. -/
def continued? (rest : List Char) : Option (List Char) :=
  (lineBreak? (skipBlanks rest)).map fun below =>
    below.dropWhile fun char => isBlank char || char == '\n' || char == '\r'

/-- A text up to its closing quotes, one or three of a kind, and what follows. The steps
allowed are as many as there are characters. -/
def quotedWithin? (quote : Char) (isMultiline : Bool) :
    Nat → List Char → Option (List Char × List Char)
  | 0, _ => none
  | steps + 1, chars => do
      let goOn (char : Char) (rest : List Char) : Option (List Char × List Char) :=
        (quotedWithin? quote isMultiline steps rest).map fun (text, after) => (char :: text, after)
      match chars with
      | [] => none
      | char :: rest =>
          if char = quote then
            let quotes := (chars.takeWhile (· == quote)).length
            if !isMultiline then return ([], rest)
            else if quotes < 3 then goOn char rest
            else if 5 < quotes then none
            else return (List.replicate (quotes - 3) quote, chars.drop quotes)
          else if char = '\\' ∧ quote = '"' then
            match if isMultiline then continued? rest else none with
            | some below => quotedWithin? quote isMultiline steps below
            | none =>
                let (meant, after) ← escape? rest
                goOn meant after
          else if isMultiline ∧ (lineBreak? chars).isSome then
            goOn '\n' ((lineBreak? chars).getD [])
          else if isControl char then none
          else goOn char rest

/-- A text in one line that starts with a quote, and what follows. -/
def lineText? : List Char → Option (String × List Char)
  | quote :: rest =>
      if quote = '"' ∨ quote = '\'' then
        (quotedWithin? quote false (rest.length + 1) rest).map fun (text, after) =>
          (String.ofList text, after)
      else none
  | [] => none

/-- A text that starts with a quote, and what follows. A line break directly after three
quotes does not count. -/
def text? (chars : List Char) : Option (String × List Char) :=
  match chars with
  | first :: second :: third :: rest =>
      if (first = '"' ∨ first = '\'') ∧ second = first ∧ third = first then
        let content := (lineBreak? rest).getD rest
        (quotedWithin? first true (content.length + 1) content).map fun (text, after) =>
          (String.ofList text, after)
      else lineText? chars
  | _ => lineText? chars

/-! ## Numbers -/

/-- Digits without the underscores between them. -/
def plainDigits? (isDigit : Char → Bool) (chars : List Char) : Option (List Char) :=
  let groups := chars.splitOn '_'
  if groups.all fun group => group ≠ [] && group.all isDigit then some groups.flatten else none

/-- Decimal digits without a leading zero, unless it is the only one. -/
def wholeDigits? (chars : List Char) : Option (List Char) := do
  let digits ← plainDigits? Char.isDigit chars
  if digits.head? = some '0' ∧ 1 < digits.length then none else some digits

/-- The value of a hexadecimal digit, zero for other characters. -/
def digitValue (digit : Char) : Nat := (Json.hexValue? digit).getD 0

/-- The whole number of a numeral with a mark for its base. -/
def markedNatural? (base : Nat) (chars : List Char) : Option Nat := do
  let digits ← plainDigits?
    (fun char => (Json.hexValue? char).any fun value => value < base) chars
  return digits.foldl (fun value digit => base * value + digitValue digit) 0

/-- A whole number of 64 bits. -/
def integer? (negative : Bool) (magnitude : Nat) : Option Data :=
  (Data.wordInteger? negative magnitude).map .integer

/-- A number with a fraction or an exponent. -/
def real? (sign unsigned : List Char) : Option Data := do
  let isMark (char : Char) : Bool := char == 'e' || char == 'E'
  let mantissa := unsigned.takeWhile fun char => !isMark char
  let exponent := unsigned.drop mantissa.length
  let whole ← wholeDigits? (mantissa.takeWhile (· ≠ '.'))
  let fraction ← match mantissa.dropWhile (· ≠ '.') with
    | [] => some []
    | _ :: digits => (plainDigits? Char.isDigit digits).map ('.' :: ·)
  let power ← match exponent with
    | [] => some []
    | _ :: signed =>
        let digits := (Decimal.splitSign signed).2
        (plainDigits? Char.isDigit digits).map fun digits =>
          'e' :: signed.take (signed.length - digits.length) ++ digits
  (Binary64.ofChars? (sign ++ whole ++ fraction ++ power)).map .real

/-- The number that a word spells. -/
def number? (word : List Char) : Option Data :=
  match word with
  | '0' :: 'x' :: digits => (markedNatural? 16 digits).bind (integer? false)
  | '0' :: 'o' :: digits => (markedNatural? 8 digits).bind (integer? false)
  | '0' :: 'b' :: digits => (markedNatural? 2 digits).bind (integer? false)
  | word =>
      let (negative, unsigned) := Decimal.splitSign word
      if unsigned = "inf".toList then some (.real (.infinite negative))
      else if unsigned = "nan".toList then some (.real .notANumber)
      else
        match wholeDigits? unsigned with
        | some digits => integer? negative (Decimal.ofDigits digits)
        | none => real? (if negative then ['-'] else []) unsigned

/-! ## Dates and times -/

/-- The number of a fixed count of digits at the start of a text, and what follows. -/
def fixedDigits? (count : Nat) (chars : List Char) : Option (Nat × List Char) :=
  let digits := chars.take count
  if digits.length = count ∧ digits.all Char.isDigit then
    some (Decimal.ofDigits digits, chars.drop count)
  else none

/-- A text after a certain character. -/
def after? (mark : Char) : List Char → Option (List Char)
  | char :: rest => if char = mark then some rest else none
  | [] => none

/-- The date at the start of a text, and what follows. -/
def date? (chars : List Char) : Option (List Char × List Char) := do
  let (year, rest) ← fixedDigits? 4 chars
  let (month, rest) ← fixedDigits? 2 (← after? '-' rest)
  let (day, rest) ← fixedDigits? 2 (← after? '-' rest)
  if (Date.mk year month day).isValid then some (chars.take 10, rest) else none

/-- The time of day at the start of a text, and what follows. A fraction has up to nine
digits that count, and no zeros at its end. -/
def time? (chars : List Char) : Option (List Char × List Char) := do
  let (hour, rest) ← fixedDigits? 2 chars
  let (minute, rest) ← fixedDigits? 2 (← after? ':' rest)
  let (second, rest) ← fixedDigits? 2 (← after? ':' rest)
  if 23 < hour ∨ 59 < minute ∨ 60 < second then none
  match rest with
  | '.' :: more =>
      let digits := more.takeWhile Char.isDigit
      if digits = [] then none
      let kept := ((digits.take 9).reverse.dropWhile (· = '0')).reverse
      return (chars.take 8 ++ (if kept = [] then [] else '.' :: kept), more.drop digits.length)
  | rest => return (chars.take 8, rest)

/-- The offset from universal time that is the whole of a text. -/
def offset? : List Char → Option (List Char)
  | [] => some []
  | [letter] => if letter = 'Z' ∨ letter = 'z' then some ['Z'] else none
  | sign :: rest => do
      let (hour, more) ← fixedDigits? 2 rest
      let (minute, more) ← fixedDigits? 2 (← after? ':' more)
      if (sign = '+' ∨ sign = '-') ∧ hour ≤ 23 ∧ minute ≤ 59 ∧ more = [] then some (sign :: rest)
      else none

/-- The normal form of a date, a time, or both. -/
def moment? (word : List Char) : Option Data := do
  match date? word with
  | some (date, []) => return .text (String.ofList date)
  | some (date, separator :: rest) =>
      if separator = 'T' ∨ separator = 't' ∨ separator = ' ' then
        let (time, rest) ← time? rest
        return .text (String.ofList (date ++ 'T' :: time ++ (← offset? rest)))
      else none
  | none =>
      let (time, rest) ← time? word
      if rest = [] then some (.text (String.ofList time)) else none

/-! ## Words -/

/-- Whether a character may stand in a word without quotes. -/
def isWordChar (char : Char) : Bool :=
  char.isAlphanum || char == '_' || char == '-' || char == '+' || char == '.' || char == ':'

/-- The word at the start of a text. One blank may stand between a date and a time. -/
def takeWord (chars : List Char) : List Char :=
  let word := chars.takeWhile isWordChar
  match date? word, chars.drop word.length with
  | some (_, []), ' ' :: next :: rest =>
      if next.isDigit then word ++ ' ' :: (next :: rest).takeWhile isWordChar else word
  | _, _ => word

/-- The value that a word spells. -/
def wordValue? (word : List Char) : Option Data :=
  if word = "true".toList then some (.boolean true)
  else if word = "false".toList then some (.boolean false)
  else (number? word).or (moment? word)

end Toml

end OverpassQuery

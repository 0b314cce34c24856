import OverpassQuery.Data.Json.Raw

/-!
# Tokens of a JSON text

Blanks between tokens are space, tab, line feed and carriage return. A string
may hold any octet but controls, an unescaped quote ends it, and after a
backslash stands one of the known escapes. A numeral has no leading zero and a
digit on each side of its point.
-/

set_option autoImplicit false

namespace OverpassQuery

namespace Json

/-- A blank between tokens. -/
def isBlank (char : Char) : Bool := char == ' ' || char == '\t' || char == '\n' || char == '\r'

/-- The value of a hexadecimal digit. -/
def hexValue? (char : Char) : Option Nat :=
  if char.isDigit then some (char.toNat - '0'.toNat)
  else if 'a' ≤ char ∧ char ≤ 'f' then some (char.toNat - 'a'.toNat + 10)
  else if 'A' ≤ char ∧ char ≤ 'F' then some (char.toNat - 'A'.toNat + 10)
  else none

/-- The value of four hexadecimal digits. -/
def hexWord? (first second third fourth : Char) : Option Nat := do
  return (((← hexValue? first) * 16 + (← hexValue? second)) * 16 + (← hexValue? third)) * 16
    + (← hexValue? fourth)

/-- The character that a letter after a backslash stands for. -/
def escaped? (letter : Char) : Option Char :=
  match letter with
  | '"' => some '"'
  | '\\' => some '\\'
  | '/' => some '/'
  | 'b' => some '\x08'
  | 'f' => some '\x0c'
  | 'n' => some '\n'
  | 'r' => some '\r'
  | 't' => some '\t'
  | _ => none

/-- The pieces of a string after its opening quote, and what follows its closing one. -/
def stringBody? : List Char → Option (List Piece × List Char)
  | [] => none
  | '"' :: rest => some ([], rest)
  | '\\' :: 'u' :: first :: second :: third :: fourth :: rest => do
      let unit ← hexWord? first second third fourth
      let (pieces, after) ← stringBody? rest
      return (.codeUnit unit :: pieces, after)
  | '\\' :: letter :: rest => do
      let char ← escaped? letter
      let (pieces, after) ← stringBody? rest
      return (.escape char :: pieces, after)
  | char :: rest =>
      if char = '\\' ∨ char.toNat < 0x20 then none
      else (stringBody? rest).map fun (pieces, after) => (.octet char :: pieces, after)

/-- The digits before a numeral's point: a single zero, or digits that do not start with one. -/
def wholeDigits : List Char → List Char × List Char
  | '0' :: rest => (['0'], rest)
  | chars => (chars.takeWhile Char.isDigit, chars.dropWhile Char.isDigit)

/-- One or more digits at the start of a text. -/
def digits? (chars : List Char) : Option (List Char × List Char) :=
  match chars.takeWhile Char.isDigit with
  | [] => none
  | digits => some (digits, chars.dropWhile Char.isDigit)

/-- The fraction of a numeral, if it has one; a point needs a digit after it. -/
def fraction? : List Char → Option (Option (List Char) × List Char)
  | '.' :: rest => (digits? rest).map fun (digits, after) => (some digits, after)
  | chars => some (none, chars)

/-- The exponent of a numeral, if it has one; the mark needs a digit after it. -/
def exponent? : List Char → Option (Option (Bool × List Char) × List Char)
  | mark :: rest =>
      if mark = 'e' ∨ mark = 'E' then
        let (negative, unsigned) := Decimal.splitSign rest
        (digits? unsigned).map fun (digits, after) => (some (negative, digits), after)
      else some (none, mark :: rest)
  | [] => some (none, [])

/-- The numeral at the start of a text that is not blank. -/
def numeral? (chars : List Char) : Option (Numeral × List Char) := do
  let (negative, unsigned) :=
    match chars with
    | '-' :: rest => (true, rest)
    | chars => (false, chars)
  let (whole, afterWhole) := wholeDigits unsigned
  if whole = [] then none
  let (fraction, afterFraction) ← fraction? afterWhole
  let (exponent, after) ← exponent? afterFraction
  return (⟨negative, whole, fraction, exponent⟩, after)

/-- The token at the start of a text that is not blank. -/
def firstToken? : List Char → Option (Token × List Char)
  | '[' :: rest => some (.openList, rest)
  | ']' :: rest => some (.closeList, rest)
  | '\x7b' :: rest => some (.openTable, rest)
  | '\x7d' :: rest => some (.closeTable, rest)
  | ':' :: rest => some (.colon, rest)
  | ',' :: rest => some (.comma, rest)
  | '"' :: rest => (stringBody? rest).map fun (pieces, after) => (.scalar (.text pieces), after)
  | 'n' :: 'u' :: 'l' :: 'l' :: rest => some (.scalar .null, rest)
  | 't' :: 'r' :: 'u' :: 'e' :: rest => some (.scalar (.boolean true), rest)
  | 'f' :: 'a' :: 'l' :: 's' :: 'e' :: rest => some (.scalar (.boolean false), rest)
  | chars => (numeral? chars).map fun (numeral, after) => (.scalar (.number numeral), after)

/-- The tokens of a text, if it consists of tokens and blanks. Each step takes at least
one character, so the steps allowed are as many as there are characters. -/
def tokensWithin? : Nat → List Char → Option (List Token)
  | 0, chars => if chars.all isBlank then some [] else none
  | steps + 1, chars =>
      match chars.dropWhile isBlank with
      | [] => some []
      | char :: more => do
          let (token, rest) ← firstToken? (char :: more)
          let tokens ← tokensWithin? steps rest
          return token :: tokens

/-- The octets of a byte string, each as the character with the same code. -/
def octets (bytes : Bytes) : List Char := bytes.map fun byte => Char.ofNat byte.toNat

/-- The tokens of a byte string. -/
def tokens? (bytes : Bytes) : Option (List Token) := tokensWithin? bytes.length (octets bytes)

end Json

end OverpassQuery

import OverpassQuery.Binary64.Text
import OverpassQuery.Data.Value

/-!
# Trees of YAML documents

The nodes of a document, in which any node may be a key. What a plain scalar
means depends on its text alone, unless it has a tag. Whole numbers take 64
bits; what is larger is read as a double-precision number. Such numbers are kept
as they are written, because as keys they are told apart by their text.

A document can be used as structured data when all its keys are texts, numbers
or truth values. Infinities and what is not a number have no value as data.
-/

set_option autoImplicit false

namespace OverpassQuery

namespace Yaml

/-- A node without parts. -/
inductive Scalar where
  | null
  | boolean (value : Bool)
  | integer (value : Int)
  | real (numeral : String)
  | text (value : String)
  deriving DecidableEq

/-- A node. -/
inductive Tree where
  | scalar (value : Scalar)
  | list (items : List Tree)
  | table (entries : List (Tree × Tree))
  deriving Inhabited

/-- What a tag says about a plain scalar. -/
inductive Tag where
  | boolean
  | integer
  | real
  | null
  /-- Every other tag makes a text. -/
  | text
  deriving DecidableEq

/-! ## Plain scalars -/

namespace Scalar

/-- The value of a digit in bases up to sixteen. -/
def digitValue (digit : Char) : Nat :=
  if digit.isDigit then digit.toNat - '0'.toNat else digit.toLower.toNat - 'a'.toNat + 10

/-- Whether a character is a digit in a base up to sixteen. -/
def isDigitIn (base : Nat) (digit : Char) : Bool :=
  (digit.isDigit || digit.isAlpha) && digitValue digit < base

/-- The whole number of 64 bits that a signed numeral spells. -/
def wordInteger? (base : Nat) (chars : List Char) : Option Int :=
  let (negative, digits) := Decimal.splitSign chars
  if digits ≠ [] ∧ digits.all (isDigitIn base) then
    Data.wordInteger? negative
      (digits.foldl (fun value digit => base * value + digitValue digit) 0)
  else none

/-- The infinities and what is not a number, as they are written. -/
def nonFinite : List String :=
  [".inf", ".Inf", ".INF", "+.inf", "+.Inf", "+.INF", "-.inf", "-.Inf", "-.INF",
    ".nan", ".NaN", ".NAN"]

/-- Whether a plain scalar is a double-precision number. -/
def isReal (chars : List Char) : Bool :=
  nonFinite.contains (String.ofList chars)
    || (chars.any Char.isDigit && (Binary64.ofChars? chars).isSome)

/-- The whole number of a numeral with a mark for its base or a plus sign in front. -/
def markedInteger? : List Char → Option Int
  | '0' :: 'x' :: digits => wordInteger? 16 digits
  | '0' :: 'o' :: digits => wordInteger? 8 digits
  | '+' :: numeral => wordInteger? 10 numeral
  | _ => none

/-- What a plain scalar without a tag means. -/
def ofPlain (chars : List Char) : Scalar :=
  let text := String.ofList chars
  match markedInteger? chars with
  | some value => .integer value
  | none =>
      if text = "" ∨ text = "~" ∨ text = "null" then .null
      else if text = "true" then .boolean true
      else if text = "false" then .boolean false
      else
        match wordInteger? 10 chars with
        | some value => .integer value
        | none => if isReal chars then .real text else .text text

/-- What a plain scalar with a tag means; null if its text does not suit the tag. -/
def ofTagged (tag : Tag) (chars : List Char) : Scalar :=
  let text := String.ofList chars
  match tag with
  | .boolean =>
      if text = "true" then .boolean true
      else if text = "false" then .boolean false
      else .null
  | .integer => ((wordInteger? 10 chars).map .integer).getD .null
  | .real => if isReal chars then .real text else .null
  | .null => .null
  | .text => .text text

example : ofPlain "0x10".toList = .integer 16 := by decide +kernel
example : ofPlain "+-5".toList = .integer (-5) := by decide +kernel
example : ofPlain "1e3".toList = .real "1e3" := by decide +kernel
example : ofPlain "inf".toList = .text "inf" := by decide +kernel

/-- The text of a key. -/
def keyText? : Scalar → Option String
  | .null => none
  | .boolean value => some (if value then "true" else "false")
  | .integer value => some (toString value)
  | .real numeral => some numeral
  | .text value => some value

/-- A scalar as data. -/
def toData? : Scalar → Option Data
  | .null => some .null
  | .boolean value => some (.boolean value)
  | .integer value => some (.integer value)
  | .real numeral => (Binary64.ofText? numeral).map .real
  | .text value => some (.text value)

end Scalar

/-! ## Trees -/

namespace Tree

/-- The scalar that a key is, if it is one. -/
def scalar? : Tree → Option Scalar
  | .scalar value => some value
  | _ => none

/-- Whether a scalar is a key already. -/
def hasKey (entries : List (Tree × Tree)) (key : Tree) : Bool :=
  key.scalar?.isSome && entries.any fun entry => entry.1.scalar? = key.scalar?

mutual

/-- A node as data. -/
def toData? : Tree → Option Data
  | .scalar value => value.toData?
  | .list items => (itemsToData? items).map .list
  | .table entries => (entriesToData? entries).map .table

/-- The items of a list as data. -/
def itemsToData? : List Tree → Option (List Data)
  | [] => some []
  | item :: rest => do
      let value ← toData? item
      let values ← itemsToData? rest
      return value :: values

/-- The entries of a table as data. -/
def entriesToData? : List (Tree × Tree) → Option (List (String × Data))
  | [] => some []
  | (key, item) :: rest => do
      let key ← key.scalar?.bind Scalar.keyText?
      let value ← toData? item
      let entries ← entriesToData? rest
      return (key, value) :: entries

end

end Tree

end Yaml

end OverpassQuery

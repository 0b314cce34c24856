import OverpassQuery.Data.Json.Numeral
import OverpassQuery.Text.Utf8

/-!
# Raw JSON

The tree of a JSON text before its strings and numbers are looked at. A reader
that ignores a part of a text leaves that part raw: its strings need not be well
formed, its numbers may be too large, and it may be nested to any depth.
`RawJson.toData?` makes the value of a tree that has none of these faults.

The text is read as octets, each held as the character with the same code.
-/

set_option autoImplicit false

namespace OverpassQuery

namespace Json

/-- A piece of a string: an octet, an escaped character, or an escaped code unit. -/
inductive Piece where
  | octet (char : Char)
  | escape (char : Char)
  | codeUnit (value : Nat)
  deriving DecidableEq

/-- A value without parts. -/
inductive Scalar where
  | null
  | boolean (value : Bool)
  | number (numeral : Numeral)
  | text (pieces : List Piece)
  deriving DecidableEq

/-- A token of a JSON text. -/
inductive Token where
  | openList
  | closeList
  | openTable
  | closeTable
  | colon
  | comma
  | scalar (scalar : Scalar)
  deriving DecidableEq

/-- The tree of a JSON text. -/
inductive RawJson where
  | scalar (scalar : Scalar)
  | list (items : List RawJson)
  | table (entries : List (List Piece × RawJson))

/-! ## Strings -/

/-- The first code unit of a pair. -/
def isHighSurrogate (unit : Nat) : Bool := 0xD800 ≤ unit && unit < 0xDC00

/-- The second code unit of a pair. -/
def isLowSurrogate (unit : Nat) : Bool := 0xDC00 ≤ unit && unit < 0xE000

/-- The character of a code point as UTF-8. -/
def codePointBytes (code : Nat) : Bytes := String.utf8EncodeChar (Char.ofNat code)

/-- The bytes of a string; a code unit that is half of a pair must stand in one. -/
def pieceBytes? : List Piece → Option Bytes
  | [] => some []
  | .octet char :: rest => (pieceBytes? rest).map (UInt8.ofNat char.toNat :: ·)
  | .escape char :: rest => (pieceBytes? rest).map (codePointBytes char.toNat ++ ·)
  | .codeUnit unit :: rest =>
      if isHighSurrogate unit then
        match rest with
        | .codeUnit second :: rest =>
            if isLowSurrogate second then
              (pieceBytes? rest).map
                (codePointBytes (0x10000 + (unit - 0xD800) * 0x400 + (second - 0xDC00)) ++ ·)
            else none
        | _ => none
      else if isLowSurrogate unit then none
      else (pieceBytes? rest).map (codePointBytes unit ++ ·)

/-- The text of a string, if it is well formed. -/
def pieceText? (pieces : List Piece) : Option String := (pieceBytes? pieces).bind Utf8.decode?

/-- The value of a scalar. -/
def Scalar.value? : Scalar → Option Data
  | .null => some .null
  | .boolean value => some (.boolean value)
  | .number numeral => numeral.value?
  | .text pieces => (pieceText? pieces).map .text

/-! ## Values -/

namespace RawJson

mutual

/-- The value of a tree with at most the given number of containers inside one another. -/
def toData? (depth : Nat) : RawJson → Option Data
  | .scalar leaf => leaf.value?
  | .list items => if depth = 0 then none else (itemsToData? (depth - 1) items).map .list
  | .table entries => if depth = 0 then none else (entriesToData? (depth - 1) entries).map .table

/-- The values of the items of a list. -/
def itemsToData? (depth : Nat) : List RawJson → Option (List Data)
  | [] => some []
  | item :: rest => do
      let value ← toData? depth item
      let values ← itemsToData? depth rest
      return value :: values

/-- The keys and values of the entries of a table. -/
def entriesToData? (depth : Nat) : List (List Piece × RawJson) → Option (List (String × Data))
  | [] => some []
  | (key, item) :: rest => do
      let key ← pieceText? key
      let value ← toData? depth item
      let entries ← entriesToData? depth rest
      return (key, value) :: entries

end

end RawJson

end Json

end OverpassQuery

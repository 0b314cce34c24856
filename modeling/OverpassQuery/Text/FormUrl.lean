import OverpassQuery.Text.Utf8

/-!
# Form-encoded query parameters

The `application/x-www-form-urlencoded` spelling of names and values: letters,
digits and `* - . _` stand for themselves, a blank is written `+`, and every
other byte of the UTF-8 form is `%` with two upper-case hexadecimal digits.
-/

set_option autoImplicit false

namespace OverpassQuery

namespace FormUrl

/-- The upper-case hexadecimal digit of a value below sixteen. -/
def hexDigit (value : Nat) : Char :=
  if value < 10 then Char.ofNat ('0'.toNat + value) else Char.ofNat ('A'.toNat + (value - 10))

/-- A byte as `%` and two hexadecimal digits. -/
def percentChars (byte : UInt8) : List Char :=
  ['%', hexDigit (byte.toNat / 16), hexDigit (byte.toNat % 16)]

/-- Whether a byte is the code of a character that stands for itself. -/
def isPlain (byte : UInt8) : Bool :=
  let char := Char.ofNat byte.toNat
  byte.toNat < 0x80 && (char.isAlphanum || char == '*' || char == '-' || char == '.' || char == '_')

/-- The spelling of one byte. -/
def byteChars (byte : UInt8) : List Char :=
  if byte = 0x20 then ['+']
  else if isPlain byte then [Char.ofNat byte.toNat]
  else percentChars byte

/-- The spelling of a text. -/
def encode (text : String) : String :=
  String.ofList ((Utf8.encode text).flatMap byteChars)

/-- The spelling of a list of parameters, in order. -/
def encodePairs (pairs : List (String × String)) : String :=
  "&".intercalate (pairs.map fun (name, value) => encode name ++ "=" ++ encode value)

example : encode "Melbourne, Victoria" = "Melbourne%2C+Victoria" := by decide +kernel
example : encode "é" = "%C3%A9" := by decide +kernel

end FormUrl

end OverpassQuery

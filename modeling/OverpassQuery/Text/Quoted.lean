import OverpassQuery.Text.Hidden

/-!
# Quoted spellings in messages

A text between double quotes, as error messages show it: a quote and a backslash
are escaped by a backslash, line feed, carriage return, tab and NUL by their
letters, and every other character that is not shown as itself by its code point
in lower-case hexadecimal between braces.
-/

set_option autoImplicit false

namespace OverpassQuery

namespace Text

/-- The spelling of one character between double quotes. -/
def shownChars (char : Char) : List Char :=
  if char = '"' then ['\\', '"']
  else if char = '\\' then ['\\', '\\']
  else if char = '\n' then ['\\', 'n']
  else if char = '\r' then ['\\', 'r']
  else if char = '\t' then ['\\', 't']
  else if char = '\x00' then ['\\', '0']
  else if isHidden char then ['\\', 'u', '\x7b'] ++ Nat.toDigits 16 char.toNat ++ ['\x7d']
  else [char]

/-- A text between double quotes. -/
def quoted (text : String) : String :=
  "\"" ++ String.ofList (text.toList.flatMap shownChars) ++ "\""

example : quoted "a\"b'\u0301" = "\"a\\\"b'\\u\x7b301\x7d\"" := by decide +kernel

end Text

end OverpassQuery

/-!
# Bytes and text

Text as UTF-8 bytes, and bytes as text. Decoding never fails: each longest piece
that cannot be continued to a character is replaced by one U+FFFD. The decoder
is a machine that takes one byte at a time (`Utf8.step`); between bytes it holds
what it has read of an unfinished character.

A byte string is well formed exactly when encoding its decoding gives it back,
which is how `Utf8.decode?` recognizes it.
-/

set_option autoImplicit false

namespace OverpassQuery

/-- A string of bytes. -/
abbrev Bytes := List UInt8

namespace Utf8

/-! ## Encoding -/

/-- The bytes of a text. -/
def encode (text : String) : Bytes := text.toList.flatMap String.utf8EncodeChar

@[simp] theorem encode_append (first second : String) :
    encode (first ++ second) = encode first ++ encode second := by
  simp [encode]

/-! ## Decoding -/

/-- What has been read of an unfinished character: the bits so far, how many bytes are
still needed, and the least and greatest value that the next of them may have. -/
structure Unfinished where
  bits : Nat
  needed : Nat
  least : Nat
  greatest : Nat
  deriving DecidableEq

/-- The state between two bytes: at a boundary, or inside a character. -/
abbrev State := Option Unfinished

/-- The character that stands for bytes that are none. -/
def replacement : Char := '\uFFFD'

/-- The outcome of a byte at a boundary: a character of its own, the start of a longer
one, or a byte that starts none. -/
def lead (byte : UInt8) : List Char × State :=
  let value := byte.toNat
  if value < 0x80 then ([Char.ofNat value], none)
  else if value < 0xC2 then ([replacement], none)
  else if value < 0xE0 then ([], some ⟨value - 0xC0, 1, 0x80, 0xBF⟩)
  else if value < 0xF0 then
    ([], some ⟨value - 0xE0, 2, if value = 0xE0 then 0xA0 else 0x80,
      if value = 0xED then 0x9F else 0xBF⟩)
  else if value < 0xF5 then
    ([], some ⟨value - 0xF0, 3, if value = 0xF0 then 0x90 else 0x80,
      if value = 0xF4 then 0x8F else 0xBF⟩)
  else ([replacement], none)

/-- The outcome of one byte. A byte that does not continue the unfinished character ends
it as one replacement and is read again at a boundary. -/
def step : State → UInt8 → List Char × State
  | none, byte => lead byte
  | some unfinished, byte =>
      let value := byte.toNat
      if unfinished.least ≤ value ∧ value ≤ unfinished.greatest then
        let bits := unfinished.bits * 64 + (value - 0x80)
        if unfinished.needed = 1 then ([Char.ofNat bits], none)
        else ([], some ⟨bits, unfinished.needed - 1, 0x80, 0xBF⟩)
      else
        let (chars, state) := lead byte
        (replacement :: chars, state)

/-- The characters of the bytes that follow a state. -/
def decodeFrom : State → Bytes → List Char
  | none, [] => []
  | some _, [] => [replacement]
  | state, byte :: rest =>
      let (chars, next) := step state byte
      chars ++ decodeFrom next rest

/-- The text of a byte string, with U+FFFD for what is not well formed. -/
def decodeLossy (bytes : Bytes) : String := String.ofList (decodeFrom none bytes)

/-- The text of a well-formed byte string. -/
def decode? (bytes : Bytes) : Option String :=
  let text := decodeLossy bytes
  if encode text = bytes then some text else none

example : decodeLossy (encode "é日😀") = "é日😀" := by decide +kernel
example : decodeLossy [0xE2, 0x82, 0x41] = "\uFFFDA" := by decide +kernel
example : decodeLossy [0xED, 0xA0, 0x80] = "\uFFFD\uFFFD\uFFFD" := by decide +kernel

/-! ## Searching -/

/-- Whether a list of characters occurs contiguously in another. -/
def occursIn (needle : List Char) : List Char → Bool
  | [] => needle.isEmpty
  | char :: rest => needle.isPrefixOf (char :: rest) || occursIn needle rest

/-- Whether the decoding of a byte string contains a text. -/
def contains (bytes : Bytes) (needle : String) : Bool :=
  occursIn needle.toList (decodeFrom none bytes)

end Utf8

end OverpassQuery

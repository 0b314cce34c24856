import Mathlib.Algebra.Group.Nat.Defs
import OverpassQuery.Text.Utf8

/-!
# Lossy decoding, one piece at a time

Bytes that are no text have a decoding all the same. They fall into pieces from left to right,
and each piece stands for one character (`Utf8.Decoded`). A piece is the bytes of a character,
or a part that belongs to no character, which stands for U+FFFD. Such a part is as long as
possible (`Utf8.IllFormed`): some character begins with it, but none does with the byte that
follows as well; where no character begins with even one byte, the part is this byte.

The relation mentions only the bytes of characters. The decoder knows none of them as a whole:
it sees one byte at a time, and keeps the bits so far and the bounds of the next byte. What it
holds is always the common beginning of the characters of one interval (`Utf8.Holds`), so each
byte completes a character, goes on, or shows that no character continues this way
(`Utf8.step_cases`).

The decoder gives the characters of the pieces and nothing else (`Utf8.decodeFrom_eq_iff`).
-/

set_option autoImplicit false

namespace OverpassQuery

namespace Utf8

open String (utf8EncodeChar)

/-! ## The bytes of a character -/

/-- The last bytes of a character, each with six of its bits. -/
def continuation (value : Nat) : Nat → Bytes
  | 0 => []
  | count + 1 => UInt8.ofNat (value / 64 ^ count % 64 + 0x80) :: continuation value count

theorem length_continuation (value count : Nat) : (continuation value count).length = count := by
  induction count with
  | zero => rfl
  | succ count ih => rw [continuation, List.length_cons, ih]

/-- The numbers of the characters with so many bytes after the first. -/
def InRow : Nat → Nat → Prop
  | 0, value => value < 0x80
  | 1, value => 0x80 ≤ value ∧ value < 0x800
  | 2, value => 0x800 ≤ value ∧ value < 0x10000
  | 3, value => 0x10000 ≤ value ∧ value < 0x110000
  | _, _ => False

/-- What a first byte adds to the first bits of a character with so many further bytes. -/
def mark : Nat → Nat
  | 0 => 0
  | 1 => 0xC0
  | 2 => 0xE0
  | _ => 0xF0

theorem isValidChar_toNat (char : Char) : char.toNat.isValidChar := char.valid

theorem exists_inRow (char : Char) : ∃ count, InRow count char.toNat := by
  have valid := isValidChar_toNat char
  unfold Nat.isValidChar at valid
  by_cases one : char.toNat < 0x80
  · exact ⟨0, one⟩
  by_cases two : char.toNat < 0x800
  · exact ⟨1, by omega, two⟩
  by_cases three : char.toNat < 0x10000
  · exact ⟨2, by omega, three⟩
  · exact ⟨3, by omega, by omega⟩

/-- **A character is written as its first bits, marked with the number of further bytes, and
its last bits in these.** -/
theorem utf8EncodeChar_eq {char : Char} {count : Nat} (row : InRow count char.toNat) :
    utf8EncodeChar char
      = UInt8.ofNat (char.toNat / 64 ^ count + mark count) :: continuation char.toNat count := by
  have number : char.val.toNat = char.toNat := rfl
  unfold utf8EncodeChar
  simp only [number]
  match count, row with
  | 0, row =>
      rw [InRow] at row
      rw [if_pos (by omega), Nat.pow_zero, Nat.div_one]
      rfl
  | 1, row =>
      rw [InRow] at row
      rw [if_neg (by omega), if_pos (by omega),
        Nat.mod_eq_of_lt (show char.toNat / 64 < 32 by omega)]
      simp [continuation, mark]
  | 2, row =>
      rw [InRow] at row
      rw [if_neg (by omega), if_neg (by omega), if_pos (by omega),
        Nat.mod_eq_of_lt (show char.toNat / 4096 < 16 by omega)]
      simp [continuation, mark]
  | 3, row =>
      rw [InRow] at row
      rw [if_neg (by omega), if_neg (by omega), if_neg (by omega),
        Nat.mod_eq_of_lt (show char.toNat / 262144 < 8 by omega)]
      simp [continuation, mark]

/-- Some character begins with these bytes. -/
def BeginsChar (bytes : Bytes) : Prop := ∃ char, bytes <+: utf8EncodeChar char

/-- What begins a character begins one as far as it is cut short. -/
theorem BeginsChar.of_append {first second : Bytes} (begins : BeginsChar (first ++ second)) :
    BeginsChar first := by
  obtain ⟨char, onto⟩ := begins
  exact ⟨char, (List.prefix_append first second).trans onto⟩

/-! ## Pieces -/

/-- A part of a byte string that belongs to no character, with what follows it. It is as long as
it can be. -/
structure IllFormed (part rest : Bytes) : Prop where
  /-- A character begins with it, unless it is a byte with which none begins. -/
  begins : BeginsChar part ∧ part ≠ [] ∨ ∃ byte, part = [byte]
  incomplete : ∀ char, utf8EncodeChar char ≠ part
  longest : ∀ byte ∈ rest.head?, ¬ BeginsChar (part ++ [byte])

/-- The characters that the pieces of a byte string stand for. -/
inductive Decoded : Bytes → List Char → Prop where
  | nil : Decoded [] []
  | char (char : Char) {rest : Bytes} {chars : List Char} (follows : Decoded rest chars) :
      Decoded (utf8EncodeChar char ++ rest) (char :: chars)
  | illFormed {part rest : Bytes} {chars : List Char} (broken : IllFormed part rest)
      (follows : Decoded rest chars) : Decoded (part ++ rest) (replacement :: chars)

/-! ## What the decoder holds -/

/-- The least number that an unfinished character may still become. -/
def Unfinished.lowest (unfinished : Unfinished) : Nat :=
  (unfinished.bits * 64 + (unfinished.least - 0x80)) * 64 ^ (unfinished.needed - 1)

/-- The number after the greatest that an unfinished character may still become. -/
def Unfinished.beyond (unfinished : Unfinished) : Nat :=
  (unfinished.bits * 64 + (unfinished.greatest - 0x80) + 1) * 64 ^ (unfinished.needed - 1)

/-- The bytes read of an unfinished character. The characters that begin with them are those of
an interval, and the bytes they still need are their last ones. -/
structure Holds (held : Bytes) (unfinished : Unfinished) : Prop where
  needed_bounds : 1 ≤ unfinished.needed ∧ unfinished.needed ≤ 3
  next_bounds : 0x80 ≤ unfinished.least ∧ unfinished.least ≤ unfinished.greatest ∧
    unfinished.greatest ≤ 0xBF
  isValidChar : ∀ value, unfinished.lowest ≤ value → value < unfinished.beyond →
    value.isValidChar
  complete : ∀ char : Char, unfinished.lowest ≤ char.toNat → char.toNat < unfinished.beyond →
    utf8EncodeChar char = held ++ continuation char.toNat unfinished.needed
  within : ∀ char, held <+: utf8EncodeChar char →
    unfinished.lowest ≤ char.toNat ∧ char.toNat < unfinished.beyond

/-- What has been read since the last boundary. -/
def Reading (held : Bytes) : State → Prop
  | none => held = []
  | some unfinished => Holds held unfinished

theorem Holds.encoded {held : Bytes} {unfinished : Unfinished} (holds : Holds held unfinished)
    {char : Char} (begins : held <+: utf8EncodeChar char) :
    utf8EncodeChar char = held ++ continuation char.toNat unfinished.needed :=
  holds.complete char (holds.within char begins).1 (holds.within char begins).2

theorem exists_char {value : Nat} (valid : value.isValidChar) :
    ∃ char : Char, char.toNat = value := ⟨.ofNatAux value valid, rfl⟩

theorem InRow.first_lt {count value : Nat} (row : InRow count value) :
    value / 64 ^ count + mark count < 256 := by
  match count, row with
  | 0, row => simp only [InRow, mark] at row ⊢; omega
  | 1, row => simp only [InRow, mark] at row ⊢; omega
  | 2, row => simp only [InRow, mark] at row ⊢; omega
  | 3, row => simp only [InRow, mark] at row ⊢; omega

/-- **The first byte of a character** shows its first bits and the number of further bytes. -/
theorem first_of_singleton {byte : UInt8} {char : Char}
    (begins : [byte] <+: utf8EncodeChar char) :
    byte.toNat = char.toNat ∧ char.toNat < 0x80 ∨
    byte.toNat = char.toNat / 64 + 0xC0 ∧ 0x80 ≤ char.toNat ∧ char.toNat < 0x800 ∨
    byte.toNat = char.toNat / 4096 + 0xE0 ∧ 0x800 ≤ char.toNat ∧ char.toNat < 0x10000 ∨
    byte.toNat = char.toNat / 262144 + 0xF0 ∧ 0x10000 ≤ char.toNat ∧ char.toNat < 0x110000 := by
  obtain ⟨count, row⟩ := exists_inRow char
  rw [utf8EncodeChar_eq row, List.cons_prefix_cons] at begins
  have first : byte.toNat = char.toNat / 64 ^ count + mark count := by
    rw [begins.1, UInt8.toNat_ofNat_of_lt' row.first_lt]
  match count, row with
  | 0, row => simp only [InRow, mark] at row first; omega
  | 1, row => simp only [InRow, mark] at row first; omega
  | 2, row => simp only [InRow, mark] at row first; omega
  | 3, row => simp only [InRow, mark] at row first; omega

/-- A first byte is held when the interval is that of the characters which it may begin. -/
theorem Holds.of_first {byte : UInt8} {unfinished : Unfinished}
    (needed_bounds : 1 ≤ unfinished.needed ∧ unfinished.needed ≤ 3)
    (next_bounds : 0x80 ≤ unfinished.least ∧ unfinished.least ≤ unfinished.greatest ∧
      unfinished.greatest ≤ 0xBF)
    (interval : ∀ value, unfinished.lowest ≤ value → value < unfinished.beyond →
      value.isValidChar ∧ InRow unfinished.needed value ∧
        value / 64 ^ unfinished.needed + mark unfinished.needed = byte.toNat)
    (within : ∀ char, [byte] <+: utf8EncodeChar char →
      unfinished.lowest ≤ char.toNat ∧ char.toNat < unfinished.beyond) :
    Holds [byte] unfinished where
  needed_bounds := needed_bounds
  next_bounds := next_bounds
  isValidChar value from_lowest to_beyond := (interval value from_lowest to_beyond).1
  complete char from_lowest to_beyond := by
    obtain ⟨-, row, first⟩ := interval char.toNat from_lowest to_beyond
    rw [utf8EncodeChar_eq row, first, UInt8.ofNat_toNat]
    rfl
  within := within

theorem holds_first_of_two {byte : UInt8} (low : 0xC2 ≤ byte.toNat) (high : byte.toNat < 0xE0) :
    Holds [byte] ⟨byte.toNat - 0xC0, 1, 0x80, 0xBF⟩ := by
  refine .of_first (by simp) (by simp) ?_ ?_
  · intro value from_lowest to_beyond
    simp only [Unfinished.lowest, Unfinished.beyond, Nat.isValidChar, InRow, mark] at *
    omega
  · intro char begins
    have := first_of_singleton begins
    simp only [Unfinished.lowest, Unfinished.beyond]
    omega

/-- The next byte is bounded below after `E0`, as fewer bytes would do, and above after `ED`,
where the surrogates begin. -/
theorem holds_first_of_three {byte : UInt8} (low : 0xE0 ≤ byte.toNat)
    (high : byte.toNat < 0xF0) :
    Holds [byte] ⟨byte.toNat - 0xE0, 2, if byte.toNat = 0xE0 then 0xA0 else 0x80,
      if byte.toNat = 0xED then 0x9F else 0xBF⟩ := by
  refine .of_first (by simp) ?_ ?_ ?_
  · simp only
    split <;> split <;> omega
  · intro value from_lowest to_beyond
    simp only [Unfinished.lowest, Unfinished.beyond, Nat.isValidChar, InRow, mark] at *
    split at from_lowest <;> split at to_beyond <;> omega
  · intro char begins
    have := first_of_singleton begins
    have valid := isValidChar_toNat char
    simp only [Unfinished.lowest, Unfinished.beyond, Nat.isValidChar] at *
    split <;> split <;> omega

/-- The next byte is bounded below after `F0`, as fewer bytes would do, and above after `F4`,
where the characters end. -/
theorem holds_first_of_four {byte : UInt8} (low : 0xF0 ≤ byte.toNat)
    (high : byte.toNat < 0xF5) :
    Holds [byte] ⟨byte.toNat - 0xF0, 3, if byte.toNat = 0xF0 then 0x90 else 0x80,
      if byte.toNat = 0xF4 then 0x8F else 0xBF⟩ := by
  refine .of_first (by simp) ?_ ?_ ?_
  · simp only
    split <;> split <;> omega
  · intro value from_lowest to_beyond
    simp only [Unfinished.lowest, Unfinished.beyond, Nat.isValidChar, InRow, mark] at *
    split at from_lowest <;> split at to_beyond <;> omega
  · intro char begins
    have := first_of_singleton begins
    simp only [Unfinished.lowest, Unfinished.beyond]
    split <;> split <;> omega

/-! ## One byte -/

/-- The outcome of a byte that breaks off what has been read: U+FFFD for the bytes so far, after
which the byte is read at a boundary, or for the byte itself at a boundary. -/
def broken : State → UInt8 → List Char × State
  | none, _ => ([replacement], none)
  | some _, byte => (replacement :: (lead byte).1, (lead byte).2)

/-- What a byte does after the bytes read: it completes a character, which is the only one to
begin so; it leaves a character unfinished; or no character goes on with it. -/
inductive Takes (held : Bytes) (state : State) (byte : UInt8) : Prop where
  | completes (char : Char) (encoded : utf8EncodeChar char = held ++ [byte])
      (only : ∀ other, held ++ [byte] <+: utf8EncodeChar other → other = char)
      (done : step state byte = ([char], none))
  | continues (unfinished : Unfinished) (holds : Holds (held ++ [byte]) unfinished)
      (done : step state byte = ([], some unfinished))
  | breaks (none : ¬ BeginsChar (held ++ [byte])) (done : step state byte = broken state byte)

/-- No character begins with a continuation byte, nor with a byte that could only write a number
in more bytes than it needs or one that is too large. -/
theorem not_beginsChar_stray {byte : UInt8} (low : 0x80 ≤ byte.toNat)
    (stray : byte.toNat < 0xC2 ∨ 0xF5 ≤ byte.toNat) : ¬ BeginsChar [byte] := by
  rintro ⟨char, begins⟩
  have := first_of_singleton begins
  omega

/-- A byte below 128 is a character by itself. -/
theorem utf8EncodeChar_of_lt {char : Char} (ascii : char.toNat < 0x80) :
    utf8EncodeChar char = [UInt8.ofNat char.toNat] := by
  have row : InRow 0 char.toNat := ascii
  rw [utf8EncodeChar_eq row, Nat.pow_zero, Nat.div_one]
  rfl

theorem takes_first (byte : UInt8) : Takes [] none byte := by
  by_cases one : byte.toNat < 0x80
  · have valid : byte.toNat.isValidChar := .inl (by omega)
    obtain ⟨char, number⟩ := exists_char valid
    refine .completes char ?_ ?_ ?_
    · rw [utf8EncodeChar_of_lt (number ▸ one), number, UInt8.ofNat_toNat]
      rfl
    · intro other begins
      have := first_of_singleton begins
      apply Char.toNat_inj.mp
      omega
    · rw [step, lead, if_pos one, ← number, Char.ofNat_toNat]
  by_cases stray : byte.toNat < 0xC2
  · refine .breaks (not_beginsChar_stray (by omega) (.inl stray)) ?_
    rw [step, lead, broken, if_neg one, if_pos stray]
  by_cases two : byte.toNat < 0xE0
  · refine .continues _ (holds_first_of_two (by omega) two) ?_
    rw [step, lead, if_neg one, if_neg stray, if_pos two]
  by_cases three : byte.toNat < 0xF0
  · refine .continues _ (holds_first_of_three (by omega) three) ?_
    rw [step, lead, if_neg one, if_neg stray, if_neg two, if_pos three]
  by_cases four : byte.toNat < 0xF5
  · refine .continues _ (holds_first_of_four (by omega) four) ?_
    rw [step, lead, if_neg one, if_neg stray, if_neg two, if_neg three, if_pos four]
  · refine .breaks (not_beginsChar_stray (by omega) (.inr (by omega))) ?_
    rw [step, lead, broken, if_neg one, if_neg stray, if_neg two, if_neg three, if_neg four]

/-- The interval in terms of the bits up to the next byte. -/
theorem Unfinished.mem_interval_iff (unfinished : Unfinished) (value : Nat) :
    unfinished.lowest ≤ value ∧ value < unfinished.beyond ↔
      unfinished.bits * 64 + (unfinished.least - 0x80) ≤ value / 64 ^ (unfinished.needed - 1) ∧
        value / 64 ^ (unfinished.needed - 1)
          ≤ unfinished.bits * 64 + (unfinished.greatest - 0x80) := by
  have pos : 0 < 64 ^ (unfinished.needed - 1) := Nat.pow_pos (by decide)
  rw [Unfinished.lowest, Unfinished.beyond, ← Nat.le_div_iff_mul_le pos,
    ← Nat.div_lt_iff_lt_mul pos, Nat.lt_succ_iff]

/-- **The next byte of a character that is held** carries its next six bits. -/
theorem Holds.next_iff {held : Bytes} {unfinished : Unfinished} (holds : Holds held unfinished)
    {byte : UInt8} {char : Char} :
    held ++ [byte] <+: utf8EncodeChar char ↔
      (unfinished.least ≤ byte.toNat ∧ byte.toNat ≤ unfinished.greatest) ∧
        char.toNat / 64 ^ (unfinished.needed - 1)
          = unfinished.bits * 64 + (byte.toNat - 0x80) := by
  obtain ⟨atLeastOne, -⟩ := holds.needed_bounds
  obtain ⟨least, ordered, greatest⟩ := holds.next_bounds
  have split (inside : unfinished.lowest ≤ char.toNat ∧ char.toNat < unfinished.beyond) :
      held ++ [byte] <+: utf8EncodeChar char ↔
        byte.toNat = char.toNat / 64 ^ (unfinished.needed - 1) % 64 + 0x80 := by
    obtain ⟨more, succ⟩ := Nat.exists_eq_add_of_le' atLeastOne
    rw [holds.complete char inside.1 inside.2, List.prefix_append_right_inj, succ, continuation,
      List.cons_prefix_cons, and_iff_left List.nil_prefix, ← UInt8.toNat_inj,
      UInt8.toNat_ofNat_of_lt'
        (Nat.lt_of_lt_of_le (Nat.add_lt_add_right (Nat.mod_lt _ (by decide)) _) (by decide)),
      Nat.add_sub_cancel]
  constructor
  · intro begins
    have inside := holds.within char ((List.prefix_append _ _).trans begins)
    have read := (split inside).mp begins
    rw [unfinished.mem_interval_iff] at inside
    omega
  · rintro ⟨next, bits⟩
    have inside := (unfinished.mem_interval_iff char.toNat).mpr (by omega)
    exact (split inside).mpr (by omega)

theorem Holds.isValidChar_of_next {held : Bytes} {unfinished : Unfinished}
    (holds : Holds held unfinished) {byte : UInt8} {value : Nat}
    (next : unfinished.least ≤ byte.toNat ∧ byte.toNat ≤ unfinished.greatest)
    (bits : value / 64 ^ (unfinished.needed - 1)
      = unfinished.bits * 64 + (byte.toNat - 0x80)) : value.isValidChar := by
  obtain ⟨least, ordered, greatest⟩ := holds.next_bounds
  have inside := (unfinished.mem_interval_iff value).mpr (by omega)
  exact holds.isValidChar value inside.1 inside.2

/-- There is a character that begins with what is held. -/
theorem Holds.beginsChar {held : Bytes} {unfinished : Unfinished}
    (holds : Holds held unfinished) : BeginsChar held := by
  obtain ⟨least, ordered, greatest⟩ := holds.next_bounds
  have pos : 0 < 64 ^ (unfinished.needed - 1) := Nat.pow_pos (by decide)
  have nonempty : unfinished.lowest < unfinished.beyond :=
    Nat.mul_lt_mul_of_pos_right (by omega) pos
  obtain ⟨char, number⟩ := exists_char (holds.isValidChar _ (Nat.le_refl _) nonempty)
  refine ⟨char, ?_⟩
  rw [holds.complete char (by omega) (by omega)]
  exact List.prefix_append held _

/-- What is unfinished after one more byte. -/
def Unfinished.after (unfinished : Unfinished) (byte : UInt8) : Unfinished :=
  ⟨unfinished.bits * 64 + (byte.toNat - 0x80), unfinished.needed - 1, 0x80, 0xBF⟩

@[simp] theorem Unfinished.bits_after (unfinished : Unfinished) (byte : UInt8) :
    (unfinished.after byte).bits = unfinished.bits * 64 + (byte.toNat - 0x80) := rfl

@[simp] theorem Unfinished.needed_after (unfinished : Unfinished) (byte : UInt8) :
    (unfinished.after byte).needed = unfinished.needed - 1 := rfl

@[simp] theorem Unfinished.least_after (unfinished : Unfinished) (byte : UInt8) :
    (unfinished.after byte).least = 0x80 := rfl

@[simp] theorem Unfinished.greatest_after (unfinished : Unfinished) (byte : UInt8) :
    (unfinished.after byte).greatest = 0xBF := rfl

theorem Unfinished.mem_interval_after {unfinished : Unfinished} (more : 2 ≤ unfinished.needed)
    (byte : UInt8) (value : Nat) :
    (unfinished.after byte).lowest ≤ value ∧ value < (unfinished.after byte).beyond ↔
      value / 64 ^ (unfinished.needed - 1) = unfinished.bits * 64 + (byte.toNat - 0x80) := by
  obtain ⟨needed, two⟩ := Nat.exists_eq_add_of_le' more
  have power : value / 64 ^ (needed + 1) = value / 64 ^ needed / 64 := by
    rw [Nat.pow_succ, Nat.div_div_eq_div_mul]
  simp only [mem_interval_iff, bits_after, needed_after, least_after, greatest_after, two,
    Nat.add_one_sub_one, power]
  omega

/-- **A character that is held takes a byte in bounds.** -/
theorem Holds.after {held : Bytes} {unfinished : Unfinished} (holds : Holds held unfinished)
    (more : 2 ≤ unfinished.needed) {byte : UInt8}
    (next : unfinished.least ≤ byte.toNat ∧ byte.toNat ≤ unfinished.greatest) :
    Holds (held ++ [byte]) (unfinished.after byte) where
  needed_bounds := by
    have := holds.needed_bounds
    rw [Unfinished.needed_after]
    omega
  next_bounds := by simp
  isValidChar value from_lowest to_beyond :=
    holds.isValidChar_of_next next
      ((Unfinished.mem_interval_after more byte value).mp ⟨from_lowest, to_beyond⟩)
  complete char from_lowest to_beyond := by
    have bits := (Unfinished.mem_interval_after more byte char.toNat).mp ⟨from_lowest, to_beyond⟩
    have begins : held ++ [byte] <+: utf8EncodeChar char := holds.next_iff.mpr ⟨next, bits⟩
    have spelled := holds.encoded ((List.prefix_append _ _).trans begins)
    obtain ⟨needed, succ⟩ := Nat.exists_eq_add_of_le' holds.needed_bounds.1
    rw [succ, continuation] at spelled
    rw [spelled, List.prefix_append_right_inj, List.cons_prefix_cons] at begins
    rw [spelled, ← begins.1, Unfinished.needed_after, succ, Nat.add_sub_cancel, List.append_assoc,
      List.cons_append, List.nil_append]
  within char begins :=
    (Unfinished.mem_interval_after more byte char.toNat).mpr (holds.next_iff.mp begins).2

/-- What a byte does to a character that is held. -/
theorem Holds.takes {held : Bytes} {unfinished : Unfinished} (holds : Holds held unfinished)
    (byte : UInt8) : Takes held (some unfinished) byte := by
  by_cases next : unfinished.least ≤ byte.toNat ∧ byte.toNat ≤ unfinished.greatest
  · by_cases last : unfinished.needed = 1
    · have only : ∀ other : Char, held ++ [byte] <+: utf8EncodeChar other ↔
          other.toNat = unfinished.bits * 64 + (byte.toNat - 0x80) := by
        intro other
        rw [holds.next_iff, and_iff_right next, last, Nat.sub_self, Nat.pow_zero, Nat.div_one]
      obtain ⟨char, number⟩ := exists_char
        (holds.isValidChar_of_next next (by rw [last, Nat.sub_self, Nat.pow_zero, Nat.div_one]))
      have begins := (only char).mpr number
      refine .completes char ?_ ?_ ?_
      · have spelled := holds.encoded ((List.prefix_append _ _).trans begins)
        refine (begins.eq_of_length ?_).symm
        rw [spelled, List.length_append, List.length_append, length_continuation, last]
        rfl
      · intro other begins'
        exact Char.toNat_inj.mp (((only other).mp begins').trans number.symm)
      · rw [step, if_pos next, if_pos last, ← number, Char.ofNat_toNat]
    · have more : 2 ≤ unfinished.needed := by
        have := holds.needed_bounds
        omega
      refine .continues _ (holds.after more next) ?_
      simp only [step, if_pos next, if_neg last]
      rfl
  · refine .breaks ?_ ?_
    · rintro ⟨char, begins⟩
      exact next (holds.next_iff.mp begins).1
    · rw [step, if_neg next, broken]

/-- **A byte completes a character, leaves one unfinished, or breaks off what has been read.** -/
theorem step_cases {held : Bytes} {state : State} (reading : Reading held state) (byte : UInt8) :
    Takes held state byte := by
  cases state with
  | none =>
      obtain rfl : held = [] := reading
      exact takes_first byte
  | some unfinished => exact Holds.takes reading byte

/-! ## Pieces of the decoding -/

theorem decodeFrom_cons (state : State) (byte : UInt8) (rest : Bytes) :
    decodeFrom state (byte :: rest)
      = (step state byte).1 ++ decodeFrom (step state byte).2 rest := by
  cases state with
  | none => rfl
  | some unfinished => rfl

/-- The bytes of a character are read as this character, wherever in it the decoder is. -/
theorem decodeFrom_char {char : Char} {more : Bytes} (rest : Bytes) (nonempty : more ≠ [])
    {held : Bytes} {state : State} (reading : Reading held state)
    (whole : utf8EncodeChar char = held ++ more) :
    decodeFrom state (more ++ rest) = char :: decodeFrom none rest := by
  -- On the bytes that are left of the character; the state holds those that were read.
  induction more generalizing held state with
  | nil => exact absurd rfl nonempty
  | cons byte more ih =>
      have begins : held ++ [byte] <+: utf8EncodeChar char := by
        rw [whole, List.prefix_append_right_inj]
        exact List.prefix_append [byte] more
      rw [List.cons_append, decodeFrom_cons]
      cases step_cases reading byte with
      | completes other encoded only done =>
          obtain rfl := only char begins
          obtain rfl : more = [] := by
            rw [whole, List.append_cancel_left_eq] at encoded
            exact (List.cons.inj encoded).2
          rw [done]
          rfl
      | continues unfinished holds done =>
          rw [done, List.nil_append]
          refine ih ?_ holds (by rw [whole, List.append_assoc]; rfl)
          rintro rfl
          have spelled := holds.encoded begins
          rw [whole, List.self_eq_append_right] at spelled
          have := congrArg List.length spelled
          rw [length_continuation] at this
          exact absurd this (by have := holds.needed_bounds; simp; omega)
      | breaks none done => exact absurd ⟨char, begins⟩ none

/-- The beginning of a character that goes no further is read as U+FFFD, wherever in it the
decoder is. -/
theorem decodeFrom_beginning {part rest : Bytes} (broke : IllFormed part rest)
    (begins : BeginsChar part) {more : Bytes} {held : Bytes} {state : State}
    (reading : Reading held state) (whole : part = held ++ more) (nonempty : part ≠ []) :
    decodeFrom state (more ++ rest) = replacement :: decodeFrom none rest := by
  induction more generalizing held state with
  | nil =>
      rw [List.append_nil] at whole
      subst whole
      cases state with
      | none => exact absurd reading nonempty
      | some unfinished =>
          cases rest with
          | nil => rfl
          | cons byte rest =>
              have never : ¬ BeginsChar (part ++ [byte]) := broke.longest byte rfl
              rw [List.nil_append, decodeFrom_cons]
              cases step_cases reading byte with
              | completes char encoded only done =>
                  exact absurd ⟨char, encoded ▸ List.prefix_rfl⟩ never
              | continues unfinished' holds done => exact absurd holds.beginsChar never
              | breaks none done =>
                  rw [done, decodeFrom_cons]
                  rfl
  | cons byte more ih =>
      have taken : held ++ [byte] <+: part := by
        rw [whole, List.prefix_append_right_inj]
        exact List.prefix_append [byte] more
      rw [List.cons_append, decodeFrom_cons]
      cases step_cases reading byte with
      | completes char encoded only done =>
          obtain ⟨other, onto⟩ := begins
          obtain rfl := only other (taken.trans onto)
          exact absurd ((encoded ▸ taken).eq_of_length_le onto.length_le) (broke.incomplete _)
      | continues unfinished holds done =>
          rw [done, List.nil_append]
          exact ih holds (by rw [whole, List.append_assoc]; rfl)
      | breaks none done =>
          obtain ⟨other, onto⟩ := begins
          exact absurd ⟨other, taken.trans onto⟩ none

/-- An ill-formed part is read as U+FFFD. -/
theorem decodeFrom_illFormed {part rest : Bytes} (broke : IllFormed part rest) :
    decodeFrom none (part ++ rest) = replacement :: decodeFrom none rest := by
  rcases broke.begins with ⟨begins, nonempty⟩ | ⟨byte, rfl⟩
  · exact decodeFrom_beginning broke begins (show Reading [] none from rfl) rfl nonempty
  · rw [List.cons_append, List.nil_append, decodeFrom_cons]
    cases takes_first byte with
    | completes char encoded only done => exact absurd encoded (broke.incomplete char)
    | continues unfinished holds done =>
        rw [← decodeFrom_cons, ← List.singleton_append]
        have atBoundary : Reading [] none := rfl
        exact decodeFrom_beginning broke holds.beginsChar atBoundary rfl (by simp)
    | breaks none done =>
        rw [done]
        rfl

/-! ## The pieces of a byte string -/

/-- The beginning of a character goes on up to the longest one. -/
theorem exists_longest {part : Bytes} (rest : Bytes) (begins : BeginsChar part) :
    ∃ more after, part ++ rest = part ++ more ++ after ∧ BeginsChar (part ++ more) ∧
      ∀ byte ∈ after.head?, ¬ BeginsChar (part ++ more ++ [byte]) := by
  induction rest generalizing part with
  | nil => exact ⟨[], [], by simp, by simpa using begins, nofun⟩
  | cons byte rest ih =>
      by_cases further : BeginsChar (part ++ [byte])
      · obtain ⟨more, after, split, longer, longest⟩ := ih further
        refine ⟨byte :: more, after, ?_, ?_, ?_⟩
        · simpa using split
        · simpa using longer
        · simpa using longest
      · refine ⟨[], byte :: rest, by simp, by simpa using begins, ?_⟩
        rintro _ ⟨⟩
        simpa using further

/-- What does not start with a character starts with an ill-formed part. -/
theorem exists_illFormed {byte : UInt8} {rest : Bytes}
    (noChar : ∀ char, ¬ utf8EncodeChar char <+: byte :: rest) :
    ∃ part after, byte :: rest = part ++ after ∧ part ≠ [] ∧ IllFormed part after := by
  by_cases begins : BeginsChar [byte]
  · obtain ⟨more, after, split, longer, longest⟩ := exists_longest rest begins
    have nonempty : [byte] ++ more ≠ [] := by simp
    refine ⟨[byte] ++ more, after, split, nonempty, .inl ⟨longer, nonempty⟩, ?_, longest⟩
    intro char complete
    exact noChar char ⟨after, by rw [complete, ← split]; rfl⟩
  · refine ⟨[byte], rest, rfl, by simp, .inr ⟨byte, rfl⟩, ?_, ?_⟩
    · intro char complete
      exact begins ⟨char, complete ▸ List.prefix_rfl⟩
    · intro next _ further
      exact begins further.of_append

/-- Every byte string falls into pieces. -/
theorem exists_decoded (bytes : Bytes) : ∃ chars, Decoded bytes chars := by
  match bytes with
  | [] => exact ⟨[], .nil⟩
  | byte :: more =>
      by_cases starts : ∃ char, utf8EncodeChar char <+: byte :: more
      · obtain ⟨char, rest, split⟩ := starts
        have pos := List.length_pos_iff.mpr (String.utf8EncodeChar_ne_nil (c := char))
        have shorter : rest.length < (byte :: more).length := by
          rw [← split, List.length_append]
          omega
        obtain ⟨chars, follows⟩ := exists_decoded rest
        exact ⟨char :: chars, split ▸ .char char follows⟩
      · obtain ⟨part, rest, split, nonempty, broke⟩ := exists_illFormed (not_exists.mp starts)
        have pos := List.length_pos_iff.mpr nonempty
        have shorter : rest.length < (byte :: more).length := by
          rw [split, List.length_append]
          omega
        obtain ⟨chars, follows⟩ := exists_decoded rest
        exact ⟨replacement :: chars, split ▸ .illFormed broke follows⟩
termination_by bytes.length
decreasing_by all_goals exact shorter

theorem Decoded.decodeFrom_eq {bytes : Bytes} {chars : List Char} (decoded : Decoded bytes chars) :
    decodeFrom none bytes = chars := by
  induction decoded with
  | nil => rfl
  | char char follows ih =>
      rw [decodeFrom_char _ String.utf8EncodeChar_ne_nil (show Reading [] none from rfl) rfl, ih]
  | illFormed broke follows ih => rw [decodeFrom_illFormed broke, ih]

/-- **The decoder gives one character for each piece:** the character whose bytes it is, or U+FFFD
for a part that belongs to none and is as long as possible. -/
theorem decodeFrom_eq_iff {bytes : Bytes} {chars : List Char} :
    decodeFrom none bytes = chars ↔ Decoded bytes chars := by
  constructor
  · rintro rfl
    obtain ⟨chars, decoded⟩ := exists_decoded bytes
    rwa [decoded.decodeFrom_eq]
  · exact Decoded.decodeFrom_eq

end Utf8

end OverpassQuery

import Mathlib.Data.List.Infix
import Mathlib.Data.Set.Function
import OverpassQuery.Proofs.Submission.Rounds
import OverpassQuery.Proofs.Text.Decoding

/-!
# Occurrences of a text in bytes

Whether the engine is busy is read off a phrase in the body of an answer, and the body need not
be a text. It is decoded first, with U+FFFD for what is none, and the phrase is looked for in
the result.

For a phrase of characters below 128 this is the same as to look for its bytes in the body. A
cut of the body around the bytes of the phrase is decoded to a cut of the text around the phrase,
and each cut of the text comes from one cut of the body (`Utf8.bijOn_occurrences`). No
occurrence comes into being where an ill-formed part is replaced, none is lost next to one, and
no two become one.

A byte below 128 is a piece of its own, whatever stands before it, and the other pieces have
neither such a byte (`Utf8.IllFormed.high`) nor such a character. So pieces are put together
there (`Utf8.Decoded.append_char`) and taken apart (`Utf8.Decoded.exists_cut`).
-/

set_option autoImplicit false

namespace OverpassQuery

namespace Utf8

open String (utf8EncodeChar)

/-! ## Pieces without a byte below 128 -/

theorem le_of_mem_continuation {value count : Nat} :
    ∀ byte ∈ continuation value count, 0x80 ≤ byte.toNat := by
  induction count with
  | zero => nofun
  | succ count ih =>
      rw [continuation, List.forall_mem_cons]
      refine ⟨?_, ih⟩
      have small : value / 64 ^ count % 64 < 64 := Nat.mod_lt _ (by decide)
      rw [UInt8.toNat_ofNat_of_lt' (show _ < 256 by omega)]
      omega

/-- The bytes of a character from 128 on are from 128 on. -/
theorem le_of_mem_utf8EncodeChar {char : Char} (high : 0x80 ≤ char.toNat) :
    ∀ byte ∈ utf8EncodeChar char, 0x80 ≤ byte.toNat := by
  obtain ⟨count, row⟩ := exists_inRow char
  rw [utf8EncodeChar_eq row, List.forall_mem_cons]
  refine ⟨?_, le_of_mem_continuation⟩
  rw [UInt8.toNat_ofNat_of_lt' row.first_lt]
  match count, row with
  | 0, row => exact absurd row (by rw [InRow]; omega)
  | 1, row => simp only [mark]; omega
  | 2, row => simp only [mark]; omega
  | 3, row => simp only [mark]; omega

/-- After the first byte of a character come bytes from 128 on. -/
theorem BeginsChar.le_of_append {part : Bytes} {byte : UInt8} (nonempty : part ≠ [])
    (begins : BeginsChar (part ++ [byte])) : 0x80 ≤ byte.toNat := by
  obtain ⟨char, onto⟩ := begins
  have high : 0x80 ≤ char.toNat := by
    by_contra low
    have short := onto.length_le
    rw [utf8EncodeChar_of_lt (by omega), List.length_append] at short
    have := List.length_pos_iff.mpr nonempty
    simp only [List.length_singleton] at short
    omega
  exact le_of_mem_utf8EncodeChar high byte (onto.subset (by simp))

theorem IllFormed.nonempty {part rest : Bytes} (broke : IllFormed part rest) : part ≠ [] := by
  rcases broke.begins with ⟨-, nonempty⟩ | ⟨byte, rfl⟩
  · exact nonempty
  · exact List.cons_ne_nil _ _

/-- **An ill-formed part has no byte below 128,** since such a byte is a character. -/
theorem IllFormed.high {part rest : Bytes} (broke : IllFormed part rest) :
    ∀ byte ∈ part, 0x80 ≤ byte.toNat := by
  rcases broke.begins with ⟨⟨char, onto⟩, nonempty⟩ | ⟨byte, rfl⟩
  · by_cases low : char.toNat < 0x80
    · have whole : utf8EncodeChar char = part := by
        refine (onto.eq_of_length_le ?_).symm
        rw [utf8EncodeChar_of_lt low]
        exact List.length_pos_iff.mpr nonempty
      exact absurd whole (broke.incomplete char)
    · exact fun byte occurs => le_of_mem_utf8EncodeChar (by omega) byte (onto.subset occurs)
  · rw [List.forall_mem_singleton]
    by_contra low
    have valid : byte.toNat.isValidChar := .inl (by omega)
    obtain ⟨char, number⟩ := exists_char valid
    refine broke.incomplete char ?_
    rw [utf8EncodeChar_of_lt (by omega), number, UInt8.ofNat_toNat]

/-- A part stays ill-formed when what follows is cut short. -/
theorem IllFormed.of_append {part rest more : Bytes} (broke : IllFormed part (rest ++ more)) :
    IllFormed part rest where
  begins := broke.begins
  incomplete := broke.incomplete
  longest byte next := by
    refine broke.longest byte ?_
    cases rest with
    | nil => cases next
    | cons head rest => exact next

/-- A part stays ill-formed when a byte below 128 comes after what follows. -/
theorem IllFormed.append {part rest : Bytes} (broke : IllFormed part rest) {byte : UInt8}
    (low : byte.toNat < 0x80) (more : Bytes) : IllFormed part (rest ++ byte :: more) where
  begins := broke.begins
  incomplete := broke.incomplete
  longest next first := by
    cases rest with
    | nil =>
        cases first
        intro further
        have := further.le_of_append broke.nonempty
        omega
    | cons head rest => exact broke.longest next first

/-! ## Pieces put together and taken apart -/

/-- **A character below 128 goes between any two byte strings,** and their pieces stay as they
were. -/
theorem Decoded.append_char {before after : Bytes} {chars rest : List Char}
    (decoded : Decoded before chars) {char : Char} (low : char.toNat < 0x80)
    (follows : Decoded after rest) :
    Decoded (before ++ (utf8EncodeChar char ++ after)) (chars ++ char :: rest) := by
  induction decoded with
  | nil => exact .char char follows
  | @char other more chars _ ih =>
      rw [List.append_assoc]
      exact .char other ih
  | @illFormed part more chars broke _ ih =>
      rw [List.append_assoc]
      refine .illFormed ?_ ih
      rw [utf8EncodeChar_of_lt low]
      refine broke.append ?_ after
      rw [UInt8.toNat_ofNat_of_lt' (show _ < 256 by omega)]
      exact low

/-- **A character below 128 in the decoding stands where its byte stands.** -/
theorem Decoded.exists_cut {bytes : Bytes} {before after : List Char} {char : Char}
    (low : char.toNat < 0x80) (decoded : Decoded bytes (before ++ char :: after)) :
    ∃ first second, bytes = first ++ (utf8EncodeChar char ++ second) ∧ Decoded first before ∧
      Decoded second after := by
  -- The induction is on the pieces, so the place of the character has to vary with them.
  generalize whole : before ++ char :: after = chars at decoded
  induction decoded generalizing before with
  | nil => cases before <;> cases whole
  | @char other rest chars follows ih =>
      cases before with
      | nil =>
          obtain ⟨rfl, rfl⟩ := List.cons.inj whole
          exact ⟨[], rest, rfl, .nil, follows⟩
      | cons head before =>
          obtain ⟨rfl, split⟩ := List.cons.inj whole
          obtain ⟨first, second, rfl, firstDecoded, secondDecoded⟩ := ih split
          refine ⟨utf8EncodeChar head ++ first, second, ?_, .char head firstDecoded, secondDecoded⟩
          rw [List.append_assoc]
  | @illFormed part rest chars broke follows ih =>
      cases before with
      | nil =>
          obtain ⟨rfl, -⟩ := List.cons.inj whole
          exact absurd low (by decide)
      | cons head before =>
          obtain ⟨rfl, split⟩ := List.cons.inj whole
          obtain ⟨first, second, rfl, firstDecoded, secondDecoded⟩ := ih split
          refine ⟨part ++ first, second, ?_, .illFormed broke.of_append firstDecoded, secondDecoded⟩
          rw [List.append_assoc]

/-- The bytes of a text are read as the text. -/
theorem Decoded.chars_append {bytes : Bytes} {rest : List Char} (decoded : Decoded bytes rest)
    (chars : List Char) : Decoded (chars.flatMap utf8EncodeChar ++ bytes) (chars ++ rest) := by
  induction chars with
  | nil => exact decoded
  | cons char chars ih =>
      rw [List.flatMap_cons, List.append_assoc]
      exact .char char ih

/-- What is read as characters below 128 begins with their bytes. -/
theorem Decoded.exists_rest {chars : List Char} (low : ∀ char ∈ chars, char.toNat < 0x80)
    {bytes : Bytes} {rest : List Char} (decoded : Decoded bytes (chars ++ rest)) :
    ∃ second, bytes = chars.flatMap utf8EncodeChar ++ second ∧ Decoded second rest := by
  induction chars generalizing bytes with
  | nil => exact ⟨bytes, rfl, decoded⟩
  | cons char chars ih =>
      rw [List.forall_mem_cons] at low
      have decoded : Decoded bytes ([] ++ char :: (chars ++ rest)) := decoded
      obtain ⟨first, second, rfl, firstDecoded, follows⟩ := decoded.exists_cut low.1
      cases firstDecoded
      obtain ⟨second, rfl, secondDecoded⟩ := ih low.2 follows
      refine ⟨second, ?_, secondDecoded⟩
      rw [List.flatMap_cons, List.append_assoc, List.nil_append]

/-! ## Occurrences -/

theorem decoded_decodeLossy (bytes : Bytes) : Decoded bytes (decodeLossy bytes).toList := by
  rw [decodeLossy, String.toList_ofList]
  exact decodeFrom_eq_iff.mp rfl

theorem Decoded.decodeLossy_eq {bytes : Bytes} {text : String}
    (decoded : Decoded bytes text.toList) : decodeLossy bytes = text := by
  rw [decodeLossy, decoded.decodeFrom_eq, String.ofList_toList]

variable {needle : String}

/-- A text of one or more characters below 128 begins with one. -/
theorem exists_low_cons (nonempty : needle ≠ "") (low : ∀ char ∈ needle.toList, char.toNat < 0x80) :
    ∃ char chars, needle.toList = char :: chars ∧ char.toNat < 0x80 ∧
      ∀ other ∈ chars, other.toNat < 0x80 := by
  obtain ⟨char, chars, spelled⟩ := List.exists_cons_of_ne_nil
    (show needle.toList ≠ [] by simpa using nonempty)
  rw [spelled, List.forall_mem_cons] at low
  exact ⟨char, chars, spelled, low⟩

/-- **An occurrence of the bytes of a text is decoded to an occurrence of the text,** between the
decodings of what stands before it and after it. -/
theorem decodeLossy_append_encode (nonempty : needle ≠ "")
    (low : ∀ char ∈ needle.toList, char.toNat < 0x80) (before after : Bytes) :
    decodeLossy (before ++ encode needle ++ after)
      = decodeLossy before ++ needle ++ decodeLossy after := by
  obtain ⟨char, chars, spelled, lowChar, -⟩ := exists_low_cons nonempty low
  apply Decoded.decodeLossy_eq
  have follows := (decoded_decodeLossy after).chars_append chars
  have decoded := (decoded_decodeLossy before).append_char lowChar follows
  rw [encode, String.toList_append, String.toList_append, spelled, List.flatMap_cons]
  simpa using decoded

/-- What is decoded to an occurrence of a text is an occurrence of its bytes. -/
theorem exists_bytes_of_decodeLossy_eq (nonempty : needle ≠ "")
    (low : ∀ char ∈ needle.toList, char.toNat < 0x80) {bytes : Bytes} {before after : String}
    (same : decodeLossy bytes = before ++ needle ++ after) :
    ∃ first second, bytes = first ++ encode needle ++ second ∧ decodeLossy first = before ∧
      decodeLossy second = after := by
  obtain ⟨char, chars, spelled, lowChar, lowChars⟩ := exists_low_cons nonempty low
  have decoded := decoded_decodeLossy bytes
  rw [same, String.toList_append, String.toList_append, spelled, List.append_assoc,
    List.cons_append] at decoded
  obtain ⟨first, rest, rfl, firstDecoded, follows⟩ := decoded.exists_cut lowChar
  obtain ⟨second, rfl, secondDecoded⟩ := follows.exists_rest lowChars
  refine ⟨first, second, ?_, firstDecoded.decodeLossy_eq, secondDecoded.decodeLossy_eq⟩
  rw [encode, spelled, List.flatMap_cons]
  simp only [List.append_assoc]

/-- A byte below 128 lengthens the decoding of what stands before it. -/
theorem decodeLossy_ne_of_char {char : Char} (low : char.toNat < 0x80) (before after : Bytes) :
    decodeLossy (before ++ (utf8EncodeChar char ++ after)) ≠ decodeLossy before := by
  intro same
  have decoded := (decoded_decodeLossy before).append_char low (decoded_decodeLossy after)
  have longer := congrArg List.length decoded.decodeFrom_eq
  rw [decoded_decodeLossy _ |>.decodeFrom_eq, same, List.length_append, List.length_cons] at longer
  omega

/-- Of two occurrences with the same text before them neither is before the other. -/
theorem eq_nil_of_decodeLossy_eq (nonempty : needle ≠ "")
    (low : ∀ char ∈ needle.toList, char.toNat < 0x80) {before between after after' : Bytes}
    (same : encode needle ++ after = between ++ (encode needle ++ after'))
    (sameText : decodeLossy (before ++ between) = decodeLossy before) : between = [] := by
  obtain ⟨char, chars, spelled, lowChar, -⟩ := exists_low_cons nonempty low
  cases between with
  | nil => rfl
  | cons byte more =>
      -- What is between begins with the first byte of the text, which counts as a character.
      rw [encode, spelled, List.flatMap_cons, utf8EncodeChar_of_lt lowChar] at same
      obtain ⟨rfl, -⟩ := List.cons.inj same
      rw [← List.singleton_append, ← utf8EncodeChar_of_lt lowChar] at sameText
      exact absurd sameText (decodeLossy_ne_of_char lowChar before more)

/-- **Decoding matches the occurrences of bytes and text one to one.** -/
theorem bijOn_occurrences (nonempty : needle ≠ "")
    (low : ∀ char ∈ needle.toList, char.toNat < 0x80) (bytes : Bytes) :
    Set.BijOn (Prod.map decodeLossy decodeLossy)
      {cut : Bytes × Bytes | cut.1 ++ encode needle ++ cut.2 = bytes}
      {cut : String × String | cut.1 ++ needle ++ cut.2 = decodeLossy bytes} := by
  refine ⟨?_, ?_, ?_⟩
  · rintro ⟨before, after⟩ rfl
    exact (decodeLossy_append_encode nonempty low before after).symm
  · rintro ⟨before, after⟩ whole ⟨before', after'⟩ whole' sameTexts
    obtain ⟨sameBefore, -⟩ := Prod.mk.inj sameTexts
    have same : before ++ (encode needle ++ after) = before' ++ (encode needle ++ after') := by
      rw [← List.append_assoc, ← List.append_assoc]
      exact whole.trans (Eq.symm whole')
    obtain rfl : before = before' := by
      rcases List.append_eq_append_iff.mp same with ⟨between, rfl, rest⟩ | ⟨between, rfl, rest⟩
      · rw [eq_nil_of_decodeLossy_eq nonempty low rest sameBefore.symm, List.append_nil]
      · rw [eq_nil_of_decodeLossy_eq nonempty low rest sameBefore, List.append_nil]
    rw [List.append_cancel_left (List.append_cancel_left same)]
  · rintro ⟨before, after⟩ whole
    obtain ⟨first, second, rfl, rfl, rfl⟩ :=
      exists_bytes_of_decodeLossy_eq nonempty low (Eq.symm whole)
    exact ⟨(first, second), rfl, rfl⟩

/-- **A text of characters below 128 is in the decoding when its bytes are in the bytes.** -/
theorem contains_iff_infix (nonempty : needle ≠ "")
    (low : ∀ char ∈ needle.toList, char.toNat < 0x80) (bytes : Bytes) :
    contains bytes needle = true ↔ encode needle <:+: bytes := by
  rw [contains_iff]
  constructor
  · rintro ⟨before, after, whole⟩
    have same : decodeLossy bytes = String.ofList before ++ needle ++ String.ofList after := by
      apply String.toList_inj.mp
      simp only [String.toList_append, String.toList_ofList, whole]
    obtain ⟨first, second, rfl, -, -⟩ := exists_bytes_of_decodeLossy_eq nonempty low same
    exact ⟨first, second, rfl⟩
  · rintro ⟨first, second, rfl⟩
    refine ⟨(decodeLossy first).toList, (decodeLossy second).toList, ?_⟩
    rw [decodeLossy_append_encode nonempty low, String.toList_append, String.toList_append]

end Utf8

/-! ## The busy engine -/

theorem rateLimitMarker_low : ∀ char ∈ rateLimitMarker.toList, char.toNat < 0x80 := by
  simp [rateLimitMarker]

/-- A refusal is busy when the bytes of the phrase are in its body. -/
theorem Response.isBusy_iff_infix (response : Response) :
    response.isBusy = true ↔
      response.status ≠ 200 ∧ Utf8.encode rateLimitMarker <:+: response.body := by
  rw [isBusy, Bool.and_eq_true, bne_iff_ne,
    Utf8.contains_iff_infix (by decide) rateLimitMarker_low]

/-- **Busy detection is exact on arbitrary bytes.** A body is decoded with one U+FFFD for each
part that belongs to no character and is as long as possible. This decoding matches the
occurrences of a text of one or more characters below 128 one to one with those of its bytes, so
the text is found when its bytes are in the body one after another. Therefore a probe reports
a busy engine exactly for an answer other than 200 with the bytes of the phrase in its body, and
any other answer counts as available. -/
theorem Client.busy_by_bytes (body : Bytes) (needle : String) (nonempty : needle ≠ "")
    (low : ∀ char ∈ needle.toList, char.toNat < 0x80) :
    (∀ text : String, Utf8.decodeLossy body = text ↔ Utf8.Decoded body text.toList) ∧
    (Utf8.contains body needle = true ↔ Utf8.encode needle <:+: body) ∧
    Set.BijOn (Prod.map Utf8.decodeLossy Utf8.decodeLossy)
      {cut : Bytes × Bytes | cut.1 ++ Utf8.encode needle ++ cut.2 = body}
      {cut : String × String | cut.1 ++ needle ++ cut.2 = Utf8.decodeLossy body} ∧
    ∀ {m : Type → Type} [Monad m] (client : Client m),
      client.probe = do
        match ← client.transport.status with
        | .error error => return .error (.transport error)
        | .ok response =>
            if response.status ≠ 200 ∧ Utf8.encode rateLimitMarker <:+: response.body then
              return .error (.rateLimited response.text)
            else return .ok () := by
  refine ⟨fun text => ⟨?_, Utf8.Decoded.decodeLossy_eq⟩,
    Utf8.contains_iff_infix nonempty low body, Utf8.bijOn_occurrences nonempty low body, ?_⟩
  · rintro rfl
    exact Utf8.decoded_decodeLossy body
  intro m _ client
  unfold probe
  congr 1
  funext outcome
  cases outcome with
  | error error => rfl
  | ok response =>
      rw [availability]
      by_cases busy : response.isBusy
      · rw [if_pos busy]
        simp only [if_pos ((Response.isBusy_iff_infix response).mp busy)]
      · rw [if_neg busy]
        simp only [if_neg fun said => busy ((Response.isBusy_iff_infix response).mpr said)]

/-- A word is found between a character cut short and a byte that is none, and it is not found
when half a surrogate stands in it. -/
theorem Client.busy_by_torn_bytes :
    "after" ≠ "" ∧ (∀ char ∈ "after".toList, char.toNat < 0x80) ∧
      Utf8.contains [0xE2, 0x82, 0x61, 0x66, 0x74, 0x65, 0x72, 0xC0] "after" = true ∧
      Utf8.contains [0x61, 0x66, 0x74, 0xED, 0xA0, 0x65, 0x72] "after" = false := by
  have nonempty : "after" ≠ "" := by decide
  have low : ∀ char ∈ "after".toList, char.toNat < 0x80 := by simp
  refine ⟨nonempty, low, ?_, ?_⟩
  · exact (busy_by_bytes _ "after" nonempty low).2.1.mpr (by decide +kernel)
  · refine Bool.eq_false_iff.mpr fun found => ?_
    exact absurd ((busy_by_bytes _ "after" nonempty low).2.1.mp found) (by decide +kernel)

end OverpassQuery

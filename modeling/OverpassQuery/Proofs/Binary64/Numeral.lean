import OverpassQuery.Geography
import OverpassQuery.Proofs.Binary64.DecimalRank
import OverpassQuery.Proofs.Text.SelfDelimiting

/-!
# Numerals that are read back

A numeral has digits in front of its point and possibly after it (`Numeral`). Positional notation
writes a decimal as a numeral of the same ratio (`Decimal.exists_numeral`), and zeros after the
last digit of a fraction keep the ratio (`Numeral.sameRatio_padded`). A numeral is read as the
decimal of its digits (`Numeral.ofChars?_chars`). This is in general another decimal than the one
that was written, but decimals of the same ratio have the same rank.

So a finite number is read back from its characters, and from those of its coordinate, with its
sign (`Binary64.ofChars?_toChars`, `Binary64.ofChars?_coordinateChars`). Integers are read back
from their text too (`Decimal.integerOfChars?_toString`).
-/

set_option autoImplicit false

namespace OverpassQuery

/-- Digits in front of a point, at least one, and digits after it. -/
structure Numeral where
  whole : List Char
  fraction : List Char
  whole_ne_nil : whole ≠ []
  isDigit_of_mem : ∀ char ∈ whole ++ fraction, char.isDigit = true

/-! ## Digits -/

namespace Decimal

theorem ofDigits_eq (digits : List Char) : ofDigits digits = Nat.ofDigitChars 10 digits 0 := rfl

@[simp] theorem ofDigits_toDigits (value : Nat) : ofDigits (Nat.toDigits 10 value) = value :=
  Nat.ofDigitChars_ten_toDigits

theorem ofDigits_append_zeros (digits : List Char) (zeros : Nat) :
    ofDigits (digits ++ List.replicate zeros '0') = ofDigits digits * 10 ^ zeros := by
  rw [ofDigits_eq, Nat.ofDigitChars_append, Nat.ofDigitChars_replicate_zero, Nat.mul_comm]
  rfl

theorem ofDigits_zeros_append (zeros : Nat) (digits : List Char) :
    ofDigits (List.replicate zeros '0' ++ digits) = ofDigits digits := by
  rw [ofDigits_eq, Nat.ofDigitChars_append, Nat.ofDigitChars_replicate_zero, Nat.mul_zero]
  rfl

theorem isDigit_of_mem_toDigits {value : Nat} :
    ∀ char ∈ Nat.toDigits 10 value, char.isDigit = true :=
  fun _ occurs => Nat.isDigit_of_mem_toDigits (by decide) (by decide) occurs

theorem isDigit_of_mem_zeros {zeros : Nat} :
    ∀ char ∈ List.replicate zeros '0', char.isDigit = true := by
  intro char occurs
  rw [(List.mem_replicate.mp occurs).2]
  rfl

/-- What begins with a digit has no sign. -/
theorem splitSign_of_isDigit {chars : List Char}
    (digit : ∀ char ∈ chars.head?, char.isDigit = true) : splitSign chars = (false, chars) := by
  unfold splitSign
  split
  · cases digit '-' rfl
  · cases digit '+' rfl
  · rfl

/-- **An integer is read back from its text.** -/
theorem integerOfChars?_toString (value : Int) :
    integerOfChars? (toString value).toList = some value := by
  have magnitude : ∀ value : Nat, naturalOfDigits? (Nat.toDigits 10 value) = some value := by
    intro value
    have digits : (Nat.toDigits 10 value).all Char.isDigit = true :=
      List.all_eq_true.mpr isDigit_of_mem_toDigits
    rw [naturalOfDigits?, if_pos ⟨Nat.toDigits_ne_nil, digits⟩, ofDigits_toDigits]
  rw [Int.toString_eq_repr]
  cases value with
  | ofNat value =>
      rw [Int.repr, Nat.toList_repr, integerOfChars?, splitSign_of_isDigit
        fun char first => isDigit_of_mem_toDigits char (List.mem_of_mem_head? first)]
      simp [magnitude]
  | negSucc value =>
      have minus : "-".toList = ['-'] := rfl
      have signed : splitSign (['-'] ++ Nat.toDigits 10 (value + 1))
          = (true, Nat.toDigits 10 (value + 1)) := rfl
      rw [Int.repr, String.toList_append, Nat.toList_repr, minus, integerOfChars?, signed]
      simp only [magnitude]
      rfl

/-! ## Decimals of the same ratio -/

/-- Two decimals that are the same ratio. -/
def SameRatio (decimal decimal' : Decimal) : Prop :=
  decimal.numerator * decimal'.denominator = decimal'.numerator * decimal.denominator

/-- What a decimal is nearest to does not depend on its form. -/
theorem SameRatio.nearest {decimal decimal' : Decimal} {rank : Nat}
    (same : decimal.SameRatio decimal')
    (near : Binary64.Nearest rank decimal'.numerator decimal'.denominator) :
    Binary64.Nearest rank decimal.numerator decimal.denominator := by
  refine Binary64.nearest_of_scaled decimal.denominator_pos decimal'.denominator_pos ?_ near.above
    near.below near.inside
  unfold SameRatio at same
  generalize Binary64.one = one
  calc 2 * (decimal.numerator * one) * decimal'.denominator
      = 2 * one * (decimal.numerator * decimal'.denominator) := by ring
    _ = 2 * one * (decimal'.numerator * decimal.denominator) := by rw [same]
    _ = 2 * (decimal'.numerator * one) * decimal.denominator := by ring

/-- Every decimal of the ratio of the shortest one has the same rank. -/
theorem SameRatio.rank_eq {decimal : Decimal} {rank : Nat} (inRange : rank < finiteRanks)
    (same : decimal.SameRatio (Binary64.shortest rank)) : decimal.rank = rank := by
  rcases Nat.eq_zero_or_pos rank with rfl | positive
  · have zero : decimal.coefficient = 0 := by
      have shortest : Binary64.shortest 0 = ⟨0, 0⟩ := rfl
      unfold SameRatio at same
      rw [shortest] at same
      have : decimal.coefficient * 10 ^ decimal.exponent.toNat = 0 := by
        simpa [numerator, denominator] using same
      exact (Nat.mul_eq_zero.mp this).resolve_right
        (Nat.pos_iff_ne_zero.mp (Nat.pow_pos (by decide)))
    simp [Decimal.rank, zero]
  · exact Decimal.rank_eq (same.nearest (Binary64.nearest_shortest positive)) positive inRange

end Decimal

/-! ## Numerals -/

namespace Numeral

/-- The characters of a numeral; the point stands only in front of a digit. -/
def chars (numeral : Numeral) : List Char :=
  numeral.whole ++ if numeral.fraction = [] then [] else '.' :: numeral.fraction

/-- The decimal of the digits of a numeral. -/
def decimal (numeral : Numeral) : Decimal :=
  ⟨Decimal.ofDigits (numeral.whole ++ numeral.fraction), -numeral.fraction.length⟩

theorem numerator_decimal (numeral : Numeral) :
    numeral.decimal.numerator = Decimal.ofDigits (numeral.whole ++ numeral.fraction) := by
  simp [decimal, Decimal.numerator]

theorem denominator_decimal (numeral : Numeral) :
    numeral.decimal.denominator = 10 ^ numeral.fraction.length := by
  simp [decimal, Decimal.denominator]

theorem isDigit_of_mem_whole (numeral : Numeral) :
    ∀ char ∈ numeral.whole, char.isDigit = true :=
  fun char occurs => numeral.isDigit_of_mem char (List.mem_append_left _ occurs)

theorem isDigit_of_mem_fraction (numeral : Numeral) :
    ∀ char ∈ numeral.fraction, char.isDigit = true :=
  fun char occurs => numeral.isDigit_of_mem char (List.mem_append_right _ occurs)

/-- The first character of a numeral is a digit. -/
theorem exists_digit_eq_chars (numeral : Numeral) :
    ∃ digit rest, digit.isDigit = true ∧ numeral.chars = digit :: rest := by
  obtain ⟨digit, rest, whole⟩ := List.exists_cons_of_ne_nil numeral.whole_ne_nil
  refine ⟨digit, rest ++ if numeral.fraction = [] then [] else '.' :: numeral.fraction, ?_, ?_⟩
  · exact numeral.isDigit_of_mem_whole digit (by simp [whole])
  · rw [chars, whole, List.cons_append]

/-! ### Reading a numeral -/

/-- **A numeral is read as the decimal of its digits.** -/
theorem ofChars?_chars (numeral : Numeral) :
    Decimal.ofChars? numeral.chars = some numeral.decimal := by
  have stops : ∀ char ∈ (if numeral.fraction = [] then [] else '.' :: numeral.fraction).head?,
      char.isDigit = false := by
    split
    · exact nofun
    · exact fun _ point => Option.mem_some.mp point ▸ rfl
  have whole := takeWhile_append_of_stops numeral.isDigit_of_mem_whole stops
  have afterWhole := dropWhile_append_of_stops numeral.isDigit_of_mem_whole stops
  unfold Decimal.ofChars?
  simp only [chars, whole, afterWhole]
  by_cases none : numeral.fraction = []
  · simp [none, numeral.whole_ne_nil, decimal, Decimal.exponentOfChars?]
  · have fraction : numeral.fraction.takeWhile Char.isDigit = numeral.fraction :=
      List.takeWhile_eq_self_iff.mpr numeral.isDigit_of_mem_fraction
    have afterFraction : numeral.fraction.dropWhile Char.isDigit = [] :=
      List.dropWhile_eq_nil_iff.mpr numeral.isDigit_of_mem_fraction
    simp [none, fraction, afterFraction, decimal, Decimal.exponentOfChars?]

/-! ### Padding a numeral -/

/-- A numeral with zeros appended until two digits follow its point. -/
def padded (numeral : Numeral) : Numeral where
  whole := numeral.whole
  fraction := numeral.fraction ++ List.replicate (2 - numeral.fraction.length) '0'
  whole_ne_nil := numeral.whole_ne_nil
  isDigit_of_mem := by
    rw [← List.append_assoc]
    exact List.forall_mem_append.mpr ⟨numeral.isDigit_of_mem, Decimal.isDigit_of_mem_zeros⟩

theorem two_le_length_fraction_padded (numeral : Numeral) :
    2 ≤ numeral.padded.fraction.length := by
  rw [padded, List.length_append, List.length_replicate]
  omega

/-- Padding keeps the ratio. -/
theorem sameRatio_padded {numeral : Numeral} {decimal : Decimal}
    (same : numeral.decimal.SameRatio decimal) : numeral.padded.decimal.SameRatio decimal := by
  unfold Decimal.SameRatio at *
  rw [numerator_decimal, denominator_decimal] at *
  generalize zeros : 2 - numeral.fraction.length = count
  have digits : Decimal.ofDigits (numeral.padded.whole ++ numeral.padded.fraction)
      = Decimal.ofDigits (numeral.whole ++ numeral.fraction) * 10 ^ count := by
    show Decimal.ofDigits (numeral.whole
      ++ (numeral.fraction ++ List.replicate (2 - numeral.fraction.length) '0')) = _
    rw [← List.append_assoc, zeros, Decimal.ofDigits_append_zeros]
  have places : 10 ^ numeral.padded.fraction.length
      = 10 ^ numeral.fraction.length * 10 ^ count := by
    rw [padded, List.length_append, List.length_replicate, zeros, pow_add]
  rw [digits, places, Nat.mul_right_comm, same, Nat.mul_assoc]

/-- Padding is done after the last digit, whatever stands in front of the numeral. -/
theorem padFraction_append_chars (numeral : Numeral) {front : List Char} (noPoint : '.' ∉ front) :
    padFraction (front ++ numeral.chars) = front ++ numeral.padded.chars := by
  have before : ∀ char ∈ front ++ numeral.whole, decide (char ≠ '.') = true := by
    refine List.forall_mem_append.mpr ⟨fun char occurs => ?_, fun char occurs => ?_⟩
    · exact decide_eq_true (ne_of_mem_of_not_mem occurs noPoint)
    · refine decide_eq_true ?_
      rintro rfl
      cases numeral.isDigit_of_mem_whole '.' occurs
  have padding : numeral.padded.fraction ≠ [] :=
    List.ne_nil_of_length_pos (Nat.lt_of_lt_of_le (by decide) numeral.two_le_length_fraction_padded)
  rw [padFraction, chars, chars, if_neg padding, ← List.append_assoc,
    List.dropWhile_append_of_pos before]
  by_cases none : numeral.fraction = []
  · simp [none, padded]
  · simp [none, padded]

end Numeral

/-! ## The numeral of a decimal -/

/-- **Positional notation writes a decimal as a numeral of the same ratio.** -/
theorem Decimal.exists_numeral (decimal : Decimal) :
    ∃ numeral : Numeral,
      numeral.chars = decimal.positional ∧ numeral.decimal.SameRatio decimal := by
  obtain ⟨coefficient, exponent⟩ := decimal
  cases exponent with
  | ofNat zeros =>
      let digits := Nat.toDigits 10 coefficient ++ List.replicate zeros '0'
      refine ⟨⟨digits, [], ?_, ?_⟩, ?_, ?_⟩
      · exact List.append_ne_nil_of_left_ne_nil Nat.toDigits_ne_nil _
      · rw [List.append_nil]
        exact List.forall_mem_append.mpr ⟨isDigit_of_mem_toDigits, isDigit_of_mem_zeros⟩
      · simp [Numeral.chars, positional, digits]
      · simp only [SameRatio, Numeral.numerator_decimal, Numeral.denominator_decimal]
        simp [digits, ofDigits_append_zeros, numerator, denominator]
  | negSucc places =>
      let digits := Nat.toDigits 10 coefficient
      let padded := List.replicate (places + 2 - digits.length) '0' ++ digits
      have length : places + 2 ≤ padded.length := by
        simp only [padded, List.length_append, List.length_replicate]
        omega
      have isDigit_of_mem : ∀ char ∈ padded, char.isDigit = true :=
        List.forall_mem_append.mpr ⟨isDigit_of_mem_zeros, isDigit_of_mem_toDigits⟩
      have fraction : (padded.drop (padded.length - (places + 1))).length = places + 1 := by
        rw [List.length_drop]
        omega
      refine ⟨⟨padded.take (padded.length - (places + 1)),
        padded.drop (padded.length - (places + 1)), ?_, ?_⟩, ?_, ?_⟩
      · refine List.ne_nil_of_length_pos ?_
        rw [List.length_take]
        omega
      · rw [List.take_append_drop]
        exact isDigit_of_mem
      · have nonempty : padded.drop (padded.length - (places + 1)) ≠ [] :=
          List.ne_nil_of_length_pos (by omega)
        rw [Numeral.chars, if_neg nonempty]
        rfl
      · have value : ofDigits padded = coefficient := by
          rw [ofDigits_zeros_append, ofDigits_toDigits]
        simp only [SameRatio, Numeral.numerator_decimal, Numeral.denominator_decimal,
          List.take_append_drop, fraction, value]
        simp [numerator, denominator]

/-! ## Numbers -/

namespace Binary64

theorem toLower_of_isDigit {char : Char} (digit : char.isDigit = true) : char.toLower = char := by
  have low : ¬ (char.val ≥ 'A'.val ∧ char.val ≤ 'Z'.val) := by
    intro letter
    simp only [Char.isDigit, Bool.and_eq_true, decide_eq_true_eq] at digit
    exact absurd (UInt32.le_trans letter.1 digit.2) (by decide)
  exact dif_neg low

/-- A numeral with a sign is read as the number of its decimal. -/
theorem ofChars?_signChars_append (negative : Bool) (numeral : Numeral) :
    ofChars? (signChars negative ++ numeral.chars) = some (ofDecimal negative numeral.decimal) := by
  obtain ⟨digit, rest, isDigit, begins⟩ := numeral.exists_digit_eq_chars
  have signed : Decimal.splitSign (signChars negative ++ numeral.chars)
      = (negative, numeral.chars) := by
    cases negative with
    | true => rfl
    | false =>
        refine Decimal.splitSign_of_isDigit fun char first => ?_
        rw [signChars, if_neg (by decide), List.nil_append, begins] at first
        exact Option.mem_some.mp first ▸ isDigit
  have noName : ∀ {letter : Char} {letters : List Char}, letter.isDigit = false →
      numeral.chars.map Char.toLower ≠ letter :: letters := by
    intro letter letters notDigit same
    rw [begins, List.map_cons, toLower_of_isDigit isDigit] at same
    rw [(List.cons.inj same).1] at isDigit
    exact Bool.false_ne_true (notDigit.symm.trans isDigit)
  have notInfinite : ¬ (numeral.chars.map Char.toLower = "inf".toList
      ∨ numeral.chars.map Char.toLower = "infinity".toList) := by
    rintro (same | same)
    · exact noName rfl same
    · exact noName rfl same
  have notNothing : numeral.chars.map Char.toLower ≠ "nan".toList := noName rfl
  simp only [ofChars?, signed, if_neg notInfinite, if_neg notNothing, numeral.ofChars?_chars,
    Option.map_some]

/-- **A finite number has a numeral of its own ratio.** -/
theorem exists_numeral {number : Binary64} (finite : number.isFinite = true) :
    ∃ (negative : Bool) (numeral : Numeral),
      number.toChars = signChars negative ++ numeral.chars ∧
      number.coordinateChars = signChars negative ++ numeral.padded.chars ∧
      ofDecimal negative numeral.decimal = number ∧
      ofDecimal negative numeral.padded.decimal = number := by
  cases number with
  | finite negative rank =>
      obtain ⟨numeral, chars, same⟩ := Decimal.exists_numeral (shortest rank)
      have noPoint : '.' ∉ signChars negative := by
        cases negative with
        | false => decide
        | true => decide
      have written :
          (Binary64.finite negative rank).toChars = signChars negative ++ numeral.chars := by
        rw [chars]
        rfl
      refine ⟨negative, numeral, written, ?_, ?_, ?_⟩
      · rw [coordinateChars, if_pos finite, written, numeral.padFraction_append_chars noPoint]
      · rw [ofDecimal, same.rank_eq rank.isLt, ofRank_of_lt negative rank.isLt]
      · rw [ofDecimal, (Numeral.sameRatio_padded same).rank_eq rank.isLt,
          ofRank_of_lt negative rank.isLt]
  | infinite negative => cases finite
  | notANumber => cases finite

/-- A coordinate has at least two digits after its point. -/
theorem exists_numeral_coordinateChars {number : Binary64} (finite : number.isFinite = true) :
    ∃ (negative : Bool) (numeral : Numeral),
      number.coordinateChars = signChars negative ++ numeral.chars ∧
        2 ≤ numeral.fraction.length := by
  obtain ⟨negative, numeral, -, written, -, -⟩ := exists_numeral finite
  exact ⟨negative, numeral.padded, written, numeral.two_le_length_fraction_padded⟩

/-- **A finite number is read back from its characters.** -/
theorem ofChars?_toChars {number : Binary64} (finite : number.isFinite = true) :
    ofChars? number.toChars = some number := by
  obtain ⟨negative, numeral, written, -, back, -⟩ := exists_numeral finite
  rw [written, ofChars?_signChars_append, back]

/-- **A finite number is read back from its coordinate.** -/
theorem ofChars?_coordinateChars {number : Binary64} (finite : number.isFinite = true) :
    ofChars? number.coordinateChars = some number := by
  obtain ⟨negative, numeral, -, written, -, back⟩ := exists_numeral finite
  rw [written, ofChars?_signChars_append, back]

end Binary64

end OverpassQuery

import OverpassQuery.Proofs.Binary64.Numeral

/-!
# The padding of coordinates

A coordinate has one point and after it nothing but digits, two or more (`HasTwoPlaces`). The text
of a finite number may have no point, or a point with a single digit after it. What it lacks is
appended: the point with two zeros, or one zero (`Numeral.padding`).

No shorter padding would do, whatever its characters are (`Numeral.length_padding_le`). In
particular, a text that has two places is a coordinate as it stands.

The padding does not change the number. Its zeros stand behind the last digit of a fraction, so the
number is read back from its coordinate with its sign, and no other number has this coordinate
(`Binary64.coordinate_keeps_number`).
-/

set_option autoImplicit false

namespace OverpassQuery

/-- There is one point, and two digits or more are all that follows it. -/
def HasTwoPlaces (chars : List Char) : Prop :=
  ∃ front fraction, chars = front ++ '.' :: fraction ∧ '.' ∉ front ∧
    (∀ char ∈ fraction, char.isDigit = true) ∧ 2 ≤ fraction.length

/-- The front of a text has no part in what begins with the point. -/
theorem dropWhile_append_of_noPoint {front : List Char} (noPoint : '.' ∉ front)
    (rest : List Char) : (front ++ rest).dropWhile (· ≠ '.') = rest.dropWhile (· ≠ '.') :=
  List.dropWhile_append_of_pos fun _ occurs => decide_eq_true (ne_of_mem_of_not_mem occurs noPoint)

/-- From the point on there are three characters at least. -/
theorem HasTwoPlaces.three_le_length {chars : List Char} (places : HasTwoPlaces chars) :
    3 ≤ (chars.dropWhile (· ≠ '.')).length := by
  obtain ⟨front, fraction, rfl, noPoint, -, long⟩ := places
  rw [dropWhile_append_of_noPoint noPoint]
  show 2 + 1 ≤ fraction.length + 1
  exact Nat.add_le_add_right long 1

namespace Numeral

variable {numeral : Numeral} {front : List Char}

/-! ## What a numeral lacks -/

/-- What a numeral lacks to two digits after its point. -/
def padding (numeral : Numeral) : List Char :=
  if numeral.fraction = [] then ".00".toList
  else List.replicate (2 - numeral.fraction.length) '0'

theorem chars_padded (numeral : Numeral) :
    numeral.padded.chars = numeral.chars ++ numeral.padding := by
  have fraction_ne_nil : numeral.padded.fraction ≠ [] :=
    List.ne_nil_of_length_pos (Nat.lt_of_lt_of_le (by decide) numeral.two_le_length_fraction_padded)
  rw [chars, chars, padding, if_neg fraction_ne_nil]
  by_cases none : numeral.fraction = []
  · simp [none, padded]
  · simp [none, padded]

theorem padding_eq_or (numeral : Numeral) :
    numeral.padding = ".00".toList ∨ ∃ zeros, numeral.padding = List.replicate zeros '0' := by
  unfold padding
  split
  · exact .inl rfl
  · exact .inr ⟨_, rfl⟩

theorem point_not_mem_whole (numeral : Numeral) : '.' ∉ numeral.whole := by
  intro occurs
  cases numeral.isDigit_of_mem_whole '.' occurs

theorem point_not_mem_append_whole (noPoint : '.' ∉ front) : '.' ∉ front ++ numeral.whole :=
  List.not_mem_append noPoint numeral.point_not_mem_whole

/-! ## Two places -/

/-- A numeral has two places when its fraction has two digits. -/
theorem hasTwoPlaces_append_chars (noPoint : '.' ∉ front) (long : 2 ≤ numeral.fraction.length) :
    HasTwoPlaces (front ++ numeral.chars) := by
  have fraction_ne_nil : numeral.fraction ≠ [] :=
    List.ne_nil_of_length_pos (Nat.lt_of_lt_of_le (by decide) long)
  refine ⟨front ++ numeral.whole, numeral.fraction, ?_, point_not_mem_append_whole noPoint,
    numeral.isDigit_of_mem_fraction, long⟩
  rw [chars, if_neg fraction_ne_nil, List.append_assoc]

/-- **Nothing shorter than the padding gives a numeral two places.** -/
theorem length_padding_le {other : List Char} (noPoint : '.' ∉ front)
    (places : HasTwoPlaces (front ++ numeral.chars ++ other)) :
    numeral.padding.length ≤ other.length := by
  have long := places.three_le_length
  unfold padding
  by_cases none : numeral.fraction = []
  · -- The point and all that follows it are in what is appended.
    rw [chars, if_pos none, List.append_nil,
      dropWhile_append_of_noPoint (point_not_mem_append_whole noPoint)] at long
    rw [if_pos none]
    exact long.trans (List.length_dropWhile_le _ _)
  · rw [chars, if_neg none, ← List.append_assoc, List.append_assoc,
      dropWhile_append_of_noPoint (point_not_mem_append_whole noPoint)] at long
    have : 2 + 1 ≤ (numeral.fraction ++ other).length + 1 := long
    rw [if_neg none, List.length_replicate]
    rw [List.length_append] at this
    omega

end Numeral

namespace Binary64

/-! ## Coordinates -/

variable {number : Binary64}

theorem point_not_mem_signChars (negative : Bool) : '.' ∉ signChars negative := by
  cases negative with
  | false => decide
  | true => decide

/-- **A coordinate is the text of the number with the least padding.** The text of a finite
number is a sign and a numeral. Its coordinate has zeros appended, after a point if the text has
none, and thereby two places. Nothing shorter would do, and a text that has two places already is
not changed. The coordinate is read back as the same number, with the sign of a zero, and is the
coordinate of no other finite number. -/
theorem coordinate_keeps_number (finite : number.isFinite = true) :
    (∃ (negative : Bool) (numeral : Numeral),
        number.text.toList = signChars negative ++ numeral.chars) ∧
      (∃ padding : List Char,
        number.coordinateText.toList = number.text.toList ++ padding ∧
        (padding = ".00".toList ∨ ∃ zeros, padding = List.replicate zeros '0') ∧
        HasTwoPlaces number.coordinateText.toList ∧
        ∀ other, HasTwoPlaces (number.text.toList ++ other) → padding.length ≤ other.length) ∧
      (HasTwoPlaces number.text.toList → number.coordinateText = number.text) ∧
      ofText? number.coordinateText = some number ∧
      ∀ other : Binary64, other.isFinite = true →
        other.coordinateText = number.coordinateText → other = number := by
  obtain ⟨negative, numeral, text, padded, -, -⟩ := exists_numeral finite
  have noPoint := point_not_mem_signChars negative
  have read_back : ∀ {other : Binary64}, other.isFinite = true →
      ofText? other.coordinateText = some other := by
    intro other finite
    rw [ofText?, coordinateText, String.toList_ofList, ofChars?_coordinateChars finite]
  have written : number.text.toList = signChars negative ++ numeral.chars := by
    rw [Binary64.text, String.toList_ofList, text]
  have appended : number.coordinateText.toList = number.text.toList ++ numeral.padding := by
    rw [coordinateText, String.toList_ofList, padded, numeral.chars_padded, written,
      List.append_assoc]
  have least : ∀ other, HasTwoPlaces (number.text.toList ++ other) →
      numeral.padding.length ≤ other.length := by
    intro other places
    rw [written] at places
    exact Numeral.length_padding_le noPoint places
  refine ⟨⟨negative, numeral, written⟩,
    ⟨numeral.padding, appended, numeral.padding_eq_or, ?_, least⟩, ?_, read_back finite, ?_⟩
  · rw [coordinateText, String.toList_ofList, padded]
    exact Numeral.hasTwoPlaces_append_chars noPoint numeral.two_le_length_fraction_padded
  · intro places
    have nothing : numeral.padding = [] := by
      refine List.length_eq_zero_iff.mp (Nat.le_zero.mp (least [] ?_))
      rwa [List.append_nil]
    rw [nothing, List.append_nil] at appended
    exact String.toList_inj.mp appended
  · intro other otherFinite same
    have sameNumber := read_back otherFinite
    rw [same, read_back finite] at sameNumber
    exact (Option.some.inj sameNumber).symm

/-- The negative zero, whose text has no point. -/
theorem coordinate_keeps_negative_zero :
    let number : Binary64 := .finite true ⟨0, by decide⟩
    number.isFinite = true ∧ number.text = "-0" ∧ number.coordinateText = "-0.00" ∧
      ofText? number.coordinateText = some number ∧
      ∀ other : Binary64, other.isFinite = true → other.coordinateText = "-0.00" →
        other = number := by
  intro number
  have finite : number.isFinite = true := rfl
  have padded : number.coordinateText = "-0.00" := by decide +kernel
  obtain ⟨-, -, -, back, only⟩ := coordinate_keeps_number finite
  rw [padded] at only
  exact ⟨finite, by decide +kernel, padded, back, only⟩

end Binary64

end OverpassQuery

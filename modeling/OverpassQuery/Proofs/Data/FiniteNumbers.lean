import OverpassQuery.Data.Json.Reader
import OverpassQuery.Proofs.Binary64.Range

/-!
# Numbers of JSON are finite

JSON has no numeral for what is not finite, but the numerals it has may be too large. Such a
numeral has no value, and a text with one is refused. So all numbers of a value that is read from
JSON are finite (`Json.allFinite_of_parse?`).

The digits that are kept of a numeral make a number of 64 bits, far from overflow. A product with a
power of ten is checked for overflow. A quotient is not, and need not be: the number before
was in range (`Json.scale?_lt`).
-/

set_option autoImplicit false

namespace OverpassQuery

namespace Data

/-- All numbers in a value are finite. -/
inductive AllFinite : Data → Prop where
  | null : AllFinite .null
  | boolean (value : Bool) : AllFinite (.boolean value)
  | integer (value : Int) (finite : (Binary64.ofInt value).isFinite = true) :
      AllFinite (.integer value)
  | real (value : Binary64) (finite : value.isFinite = true) : AllFinite (.real value)
  | text (value : String) : AllFinite (.text value)
  | list {items : List Data} (each : ∀ item ∈ items, AllFinite item) : AllFinite (.list items)
  | table {entries : List (String × Data)} (each : ∀ entry ∈ entries, AllFinite entry.2) :
      AllFinite (.table entries)

theorem AllFinite.of_mem {items : List Data} (finite : (Data.list items).AllFinite) :
    ∀ item ∈ items, item.AllFinite := by
  cases finite with
  | list each => exact each

theorem AllFinite.of_lookup? {entries : List (String × Data)} {key : String} {value : Data}
    (finite : (Data.table entries).AllFinite) (found : lookup? entries key = some value) :
    value.AllFinite := by
  cases finite with
  | table each =>
      obtain ⟨entry, member, rfl⟩ := lookup?_mem found
      exact each entry member

theorem AllFinite.isFinite_of_number? {value : Data} {number : Binary64} (finite : value.AllFinite)
    (read : value.number? = some number) : number.isFinite = true := by
  cases finite with
  | integer value finite =>
      cases read
      exact finite
  | real value finite =>
      cases read
      exact finite
  | _ => cases read

end Data

theorem Binary64.isFinite_ofRank {rank : Nat} (negative : Bool) (inRange : rank < finiteRanks) :
    (ofRank negative rank).isFinite = true := by
  rw [ofRank_of_lt negative inRange]
  rfl

namespace Json

open Binary64 (Moderate)

/-! ## Numerals -/

/-- The digits that are kept make a number of 64 bits. -/
theorem accumulate_le_maxWord {value : Nat} (small : value ≤ maxWord) (digits : List Char) :
    (accumulate value digits).1 ≤ maxWord := by
  induction digits generalizing value with
  | nil => exact small
  | cons digit rest ih =>
      simp only [accumulate]
      split
      · rename_i holds
        exact ih holds
      · exact small

theorem moderate_of_le_maxWord {value : Nat} (small : value ≤ maxWord) :
    Moderate (Binary64.rankOfNat value) :=
  Binary64.moderate_rankOfNat (Nat.lt_of_le_of_lt small (by decide))

theorem isFinite_ofInt {value : Int} (small : value.natAbs ≤ maxWord) :
    (Binary64.ofInt value).isFinite = true :=
  Binary64.isFinite_ofRank _ (moderate_of_le_maxWord small).lt_finiteRanks

theorem natAbs_of_wordInteger? {negative : Bool} {magnitude : Nat} {value : Int}
    (signed : Data.wordInteger? negative magnitude = some value) : value.natAbs = magnitude := by
  unfold Data.wordInteger? at signed
  split at signed
  · cases signed
    cases negative with
    | false => exact Int.natAbs_natCast magnitude
    | true => exact (Int.natAbs_neg _).trans (Int.natAbs_natCast magnitude)
  · split at signed
    · cases signed
      exact (Int.natAbs_neg _).trans (Int.natAbs_natCast magnitude)
    · cases signed

theorem two_le_pow_ten {exponent : Nat} (positive : exponent ≠ 0) : 2 ≤ Nat.pow 10 exponent :=
  (by decide : 2 ≤ 10).trans (Nat.le_self_pow positive 10)

/-- **Scaling by a power of ten ends in range, or is refused.** -/
theorem scale?_lt {rank scaled : Nat} {exponent : Int} (moderate : Moderate rank)
    (done : scale? rank exponent = some scaled) : scaled < finiteRanks := by
  fun_induction scale? rank exponent with
  | case1 rank exponent near power upward product inRange => exact Option.some.inj done ▸ inRange
  | case2 => cases done
  | case3 rank exponent near power downward =>
      cases done
      exact (moderate.quotientRank (two_le_pow_ten (by omega))).lt_finiteRanks
  | case4 exponent =>
      cases done
      decide
  | case5 => cases done
  | case6 rank exponent far nonzero downward ih =>
      exact ih (moderate.quotientRank (two_le_pow_ten (by decide))) done

namespace Numeral

theorem isFinite_of_real? {numeral : Numeral} {number : Binary64}
    (read : numeral.real? = some number) : number.isFinite = true := by
  simp only [real?, Option.map_eq_some_iff] at read
  obtain ⟨rank, ranked, rfl⟩ := read
  refine Binary64.isFinite_ofRank _ ?_
  split at ranked
  · split at ranked
    · cases ranked
    · cases ranked
      decide
  · refine scale?_lt (moderate_of_le_maxWord (accumulate_le_maxWord ?_ _)) ranked
    exact accumulate_le_maxWord (Nat.zero_le _) _

theorem allFinite_of_value? {numeral : Numeral} {value : Data}
    (read : numeral.value? = some value) : value.AllFinite := by
  have small : (accumulate 0 numeral.whole).1 ≤ maxWord := accumulate_le_maxWord (Nat.zero_le _) _
  simp only [value?] at read
  generalize (accumulate 0 numeral.whole).1 = magnitude at *
  split at read
  · split at read
    · cases read
      exact .integer _ (isFinite_ofInt small)
    · split at read
      · cases read
        exact .real _ rfl
      · split at read
        · rename_i word signed
          cases read
          exact .integer _ (isFinite_ofInt (natAbs_of_wordInteger? signed ▸ small))
        · cases read
          have inRange := (moderate_of_le_maxWord small).lt_finiteRanks
          exact .real _ (Binary64.isFinite_ofRank true inRange)
  · obtain ⟨number, real, rfl⟩ := Option.map_eq_some_iff.mp read
    exact .real number (isFinite_of_real? real)

end Numeral

/-! ## Values -/

namespace RawJson

theorem allFinite_of_scalar {leaf : Scalar} {value : Data} (read : leaf.value? = some value) :
    value.AllFinite := by
  cases leaf with
  | null =>
      cases read
      exact .null
  | boolean truth =>
      cases read
      exact .boolean truth
  | number numeral => exact Numeral.allFinite_of_value? read
  | text pieces =>
      obtain ⟨text, -, rfl⟩ := Option.map_eq_some_iff.mp read
      exact .text text

mutual

theorem allFinite_of_toData? {depth : Nat} {value : Data} :
    ∀ raw : RawJson, toData? depth raw = some value → value.AllFinite
  | .scalar leaf, read => by
      rw [toData?] at read
      exact allFinite_of_scalar read
  | .list items, read => by
      rw [toData?] at read
      split at read
      · cases read
      · obtain ⟨values, each, rfl⟩ := Option.map_eq_some_iff.mp read
        exact .list (allFinite_of_itemsToData? items each)
  | .table entries, read => by
      rw [toData?] at read
      split at read
      · cases read
      · obtain ⟨values, each, rfl⟩ := Option.map_eq_some_iff.mp read
        exact .table (allFinite_of_entriesToData? entries each)

theorem allFinite_of_itemsToData? {depth : Nat} {values : List Data} :
    ∀ items : List RawJson, itemsToData? depth items = some values →
      ∀ value ∈ values, value.AllFinite
  | [], read => by
      cases read
      exact nofun
  | item :: rest, read => by
      simp only [itemsToData?, Option.bind_eq_bind, Option.bind_eq_some_iff, pure,
        Option.some.injEq] at read
      obtain ⟨value, first, others, more, rfl⟩ := read
      exact List.forall_mem_cons.mpr
        ⟨allFinite_of_toData? item first, allFinite_of_itemsToData? rest more⟩

theorem allFinite_of_entriesToData? {depth : Nat} {values : List (String × Data)} :
    ∀ entries : List (List Piece × RawJson), entriesToData? depth entries = some values →
      ∀ entry ∈ values, entry.2.AllFinite
  | [], read => by
      cases read
      exact nofun
  | (key, item) :: rest, read => by
      simp only [entriesToData?, Option.bind_eq_bind, Option.bind_eq_some_iff, pure,
        Option.some.injEq] at read
      obtain ⟨name, -, value, first, others, more, rfl⟩ := read
      exact List.forall_mem_cons.mpr
        ⟨allFinite_of_toData? item first, allFinite_of_entriesToData? rest more⟩

end

end RawJson

/-- **All numbers of a value that is read from JSON are finite.** -/
theorem allFinite_of_parse? {bytes : Bytes} {value : Data} (read : parse? bytes = some value) :
    value.AllFinite := by
  obtain ⟨raw, -, valued⟩ := Option.bind_eq_some_iff.mp read
  exact RawJson.allFinite_of_toData? raw valued

end Json

end OverpassQuery

import Mathlib.Data.List.Infix
import OverpassQuery.Proofs.Text.SelfDelimiting
import OverpassQuery.TagPredicate

/-!
# The text of predicates

A predicate is written with its key and value between quotes as they are, so a quote inside
may be taken for the closing one. It is not, unless the character after it is one that may
follow the closing quote: a bracket, and after a key also the first character of a
comparison. A predicate without such quotes is legible (`TagPredicate.Legible`).

Legible predicates are self-delimiting (`TagPredicate.Legible.selfDelimiting`), so a list of
them is determined by its text (`TagPredicate.eq_and_rest_eq_of_texts`).
-/

set_option autoImplicit false

namespace OverpassQuery

/-! ## Symbols of comparisons -/

namespace Comparison

theorem eq_of_symbol_eq {first second : Comparison}
    (same : first.symbol.toList = second.symbol.toList) : first = second := by
  cases first <;> cases second <;> simp_all [symbol]

theorem quote_not_mem_symbol (comparison : Comparison) : '"' ∉ comparison.symbol.toList := by
  cases comparison <;> decide

/-- The characters that may follow the closing quote of a key. -/
def afterKey : List Char := [']', '=', '!', '~']

theorem symbol_eq_cons (comparison : Comparison) :
    ∃ char rest, comparison.symbol.toList = char :: rest ∧ char ∈ afterKey ∧ char ≠ ']' := by
  cases comparison with
  | equal => exact ⟨'=', [], rfl, by decide⟩
  | unequal => exact ⟨'!', ['='], rfl, by decide⟩
  | regexMatch => exact ⟨'~', [], rfl, by decide⟩
  | regexMismatch => exact ⟨'!', ['~'], rfl, by decide⟩

end Comparison

/-! ## Legible predicates -/

/-- No quote stands directly before one of the given characters. -/
def NoQuoteBefore (ends : List Char) (text : String) : Prop :=
  ∀ char ∈ ends, ¬ ['"', char] <:+: text.toList

instance (ends : List Char) (text : String) : Decidable (NoQuoteBefore ends text) :=
  List.decidableBAll (fun char => ¬ ['"', char] <:+: text.toList) ends

theorem eq_and_rest_eq_of_noQuoteBefore {ends : List Char} (unquoted : '"' ∉ ends)
    {first second : String} (firstFree : NoQuoteBefore ends first)
    (secondFree : NoQuoteBefore ends second) {char char' : Char} (ending : char ∈ ends)
    (ending' : char' ∈ ends) {rest rest' : List Char}
    (same : first.toList ++ '"' :: char :: rest = second.toList ++ '"' :: char' :: rest') :
    first = second ∧ char :: rest = char' :: rest' := by
  obtain ⟨equal, follows⟩ :=
    eq_and_rest_eq_of_cut_before unquoted firstFree secondFree ending ending' same
  exact ⟨String.toList_inj.mp equal, follows⟩

namespace TagPredicate

/-- No quote in key or value can be taken for the closing one. -/
def Legible : TagPredicate → Prop
  | .present key => NoQuoteBefore Comparison.afterKey key
  | .absent key => NoQuoteBefore [']'] key
  | .compares key _ value => NoQuoteBefore Comparison.afterKey key ∧ NoQuoteBefore [']'] value

instance : DecidablePred Legible
  | .present _ => inferInstanceAs (Decidable (NoQuoteBefore _ _))
  | .absent _ => inferInstanceAs (Decidable (NoQuoteBefore _ _))
  | .compares .. => inferInstanceAs (Decidable (_ ∧ _))

theorem toList_text_present (key : String) :
    (present key).text.toList = '[' :: '"' :: (key.toList ++ ['"', ']']) := by
  simp [text]

theorem toList_text_absent (key : String) :
    (absent key).text.toList = '[' :: '!' :: '"' :: (key.toList ++ ['"', ']']) := by
  simp [text]

theorem toList_text_compares (key : String) (comparison : Comparison) (value : String) :
    (compares key comparison value).text.toList
      = '[' :: '"' :: (key.toList
          ++ '"' :: (comparison.symbol.toList ++ '"' :: (value.toList ++ ['"', ']']))) := by
  simp [text]

/-- The key of a comparison is not the key of a condition without a value. -/
theorem present_ne_compares {key key' value : String} {comparison : Comparison}
    (legible : (present key).Legible) (legible' : (compares key' comparison value).Legible)
    {rest rest' : List Char} :
    (present key).text.toList ++ rest ≠ (compares key' comparison value).text.toList ++ rest' := by
  intro same
  obtain ⟨char, symbol, written, ending, distinct⟩ := comparison.symbol_eq_cons
  simp only [toList_text_present, toList_text_compares, written, List.cons_append,
    List.append_assoc, List.nil_append, List.cons.injEq, true_and] at same
  obtain ⟨_, follows⟩ := eq_and_rest_eq_of_noQuoteBefore (by decide) legible legible'.1
    (by decide) ending same
  exact distinct (List.cons.inj follows).1.symm

/-- **Legible predicates are self-delimiting.** -/
theorem Legible.selfDelimiting {predicate : TagPredicate} (legible : predicate.Legible) :
    SelfDelimiting (fun predicate => predicate.text.toList) Legible predicate := by
  intro other legible' rest rest' same
  cases predicate with
  | present key =>
      cases other with
      | present key' =>
          simp only [toList_text_present, List.cons_append, List.append_assoc, List.nil_append,
            List.cons.injEq, true_and] at same
          obtain ⟨rfl, follows⟩ := eq_and_rest_eq_of_noQuoteBefore (by decide) legible legible'
            (by decide) (by decide) same
          exact ⟨rfl, (List.cons.inj follows).2⟩
      | absent key' => simp [toList_text_present, toList_text_absent] at same
      | compares key' comparison value => exact absurd same (present_ne_compares legible legible')
  | absent key =>
      cases other with
      | absent key' =>
          simp only [toList_text_absent, List.cons_append, List.append_assoc, List.nil_append,
            List.cons.injEq, true_and] at same
          obtain ⟨rfl, follows⟩ := eq_and_rest_eq_of_noQuoteBefore (by decide) legible legible'
            (by decide) (by decide) same
          exact ⟨rfl, (List.cons.inj follows).2⟩
      | present key' => simp [toList_text_present, toList_text_absent] at same
      | compares key' comparison value => simp [toList_text_absent, toList_text_compares] at same
  | compares key comparison value =>
      cases other with
      | present key' => exact absurd same.symm (present_ne_compares legible' legible)
      | absent key' => simp [toList_text_absent, toList_text_compares] at same
      | compares key' comparison' value' =>
          obtain ⟨char, symbol, written, ending, _⟩ := comparison.symbol_eq_cons
          obtain ⟨char', symbol', written', ending', _⟩ := comparison'.symbol_eq_cons
          simp only [toList_text_compares, List.cons_append, List.append_assoc, List.nil_append,
            List.cons.injEq, true_and, written, written'] at same
          obtain ⟨rfl, afterKey⟩ := eq_and_rest_eq_of_noQuoteBefore (by decide) legible.1
            legible'.1 ending ending' same
          have symbols : comparison.symbol.toList ++ '"' :: (value.toList ++ '"' :: ']' :: rest)
              = comparison'.symbol.toList ++ '"' :: (value'.toList ++ '"' :: ']' :: rest') := by
            rw [written, written']
            exact afterKey
          obtain ⟨symbols, afterSymbol⟩ := eq_and_rest_eq_of_cut
            comparison.quote_not_mem_symbol comparison'.quote_not_mem_symbol symbols
          obtain rfl := Comparison.eq_of_symbol_eq symbols
          obtain ⟨rfl, afterValue⟩ := eq_and_rest_eq_of_noQuoteBefore (by decide) legible.2
            legible'.2 (by decide) (by decide) afterSymbol
          exact ⟨rfl, (List.cons.inj afterValue).2⟩

theorem beginsWith_bracket :
    BeginsWith (· = '[') fun predicate : TagPredicate => predicate.text.toList := by
  intro predicate
  cases predicate with
  | present key => exact ⟨'[', _, toList_text_present key, rfl⟩
  | absent key => exact ⟨'[', _, toList_text_absent key, rfl⟩
  | compares key comparison value => exact ⟨'[', _, toList_text_compares key comparison value, rfl⟩

/-- **Lists of legible predicates are determined by their texts,** before what begins no
predicate. -/
theorem eq_and_rest_eq_of_texts {first second : List TagPredicate}
    (firstLegible : ∀ predicate ∈ first, predicate.Legible)
    (secondLegible : ∀ predicate ∈ second, predicate.Legible) {rest rest' : List Char}
    (stops : Stops (· = '[') rest) (stops' : Stops (· = '[') rest')
    (same : first.flatMap (fun predicate => predicate.text.toList) ++ rest
      = second.flatMap (fun predicate => predicate.text.toList) ++ rest') :
    first = second ∧ rest = rest' :=
  flatMap_eq_and_rest_eq_of_append_eq beginsWith_bracket
    (fun predicate held => (firstLegible predicate held).selfDelimiting) secondLegible stops stops'
    same

end TagPredicate

end OverpassQuery

import OverpassQuery.Proofs.Statement.Phrases
import OverpassQuery.Proofs.Statement.PredicateText
import OverpassQuery.TagList.Parser

/-!
# Predicates of a tag list, printed in a query

Between the quotes of a tag list a person may write any characters, a quote by an escape. In
a query the key and the value stand between quotes without escapes. So two tag lists may be
read as different lists of predicates that are printed alike: a key that was written by the
person as one word is another key and a further clause for the engine, or a comparison
(`TagList.quoted_key_prints_as_clauses`).

Keys and values that contain quotes are not the cause as such. Selections that are printed
alike have the same predicates if no quote stands where the closing one might stand
(`ElementStatement.predicates_eq_of_text_eq`), as in a value that quotes a word.
-/

set_option autoImplicit false

namespace OverpassQuery

/-- **Legible predicates are determined by the text of their selection.** -/
theorem ElementStatement.predicates_eq_of_text_eq {elementType : ElementType}
    {filter : Option ElementFilter} {first second : List TagPredicate}
    (firstLegible : ∀ predicate ∈ first, predicate.Legible)
    (secondLegible : ∀ predicate ∈ second, predicate.Legible)
    (same : (make elementType first filter).text = (make elementType second filter).text) :
    first = second := by
  have stops : ∀ clause : Option String, Stops (· = '[') (Phrase.clauseChars clause ++ [';']) := by
    rintro (_ | clause) char ⟨⟩
    · decide
    · decide
  have written := congrArg String.toList same
  simp only [make, Statement.toList_render_element, Phrase.chars] at written
  exact (TagPredicate.eq_and_rest_eq_of_texts firstLegible secondLegible (stops _) (stops _)
    (List.append_cancel_left written)).1

/-- A value that quotes a word, and a key that ends with a quote. -/
def quotation : List TagPredicate :=
  [.compares "inscription" .equal "the \"Old\" mill", .absent "12\""]

theorem ElementStatement.quotation_of_text :
    TagList.parse "\"inscription\" = \"the \\\"Old\\\" mill\" & !\"12\\\"\"" = .ok quotation ∧
      (∀ predicate ∈ quotation, predicate.Legible) ∧
      (make .way quotation none).text
        = "way[\"inscription\"=\"the \"Old\" mill\"][!\"12\"\"];" ∧
      quotation = [.compares "inscription" .equal "the \"Old\" mill", .absent "12\""] := by
  have legible : ∀ predicate ∈ quotation, predicate.Legible := by decide
  have same : (make .way quotation none).text = (make .way
      [.compares "inscription" .equal "the \"Old\" mill", .absent "12\""] none).text := by
    rw [quotation]
  exact ⟨by cbv, legible, by decide +kernel, predicates_eq_of_text_eq legible legible same⟩

namespace TagList

/-- **A quoted key may print as two clauses, or as a comparison.** -/
theorem quoted_key_prints_as_clauses :
    (parse "\"a\\\"][\\\"b\"" = .ok [.present "a\"][\"b"] ∧
        parse "\"a\"&\"b\"" = .ok [.present "a", .present "b"] ∧
        (ElementStatement.make .way [.present "a\"][\"b"] none).text = "way[\"a\"][\"b\"];" ∧
        (ElementStatement.make .way [.present "a", .present "b"] none).text
          = "way[\"a\"][\"b\"];" ∧
        [TagPredicate.present "a\"][\"b"] ≠ [.present "a", .present "b"]) ∧
      parse "\"a\\\"=\\\"b\"" = .ok [.present "a\"=\"b"] ∧
      parse "\"a\"=\"b\"" = .ok [.compares "a" .equal "b"] ∧
      (ElementStatement.make .way [.present "a\"=\"b"] none).text = "way[\"a\"=\"b\"];" ∧
      (ElementStatement.make .way [.compares "a" .equal "b"] none).text
        = "way[\"a\"=\"b\"];" ∧
      [TagPredicate.present "a\"=\"b"] ≠ [.compares "a" .equal "b"] :=
  ⟨⟨by cbv, by cbv, by decide +kernel, by decide +kernel, by decide⟩,
    by cbv, by cbv, by decide +kernel, by decide +kernel, by decide⟩

end TagList

end OverpassQuery

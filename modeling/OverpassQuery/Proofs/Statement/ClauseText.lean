import OverpassQuery.Proofs.Binary64.Numeral
import OverpassQuery.Proofs.Filter.Faults

/-!
# Characters of filter clauses

A finite number is written with digits, a minus sign and a point
(`Binary64.isNumeral_of_mem_toChars`), and so is its coordinate. Clauses are put together from
numerals, keywords, delimiters and the name of a set, so a complete filter has a clause of a
few kinds of characters (`FilterCondition.isClauseChar_of_mem_clause`). The one exception is
the parenthesis that the clause of a membership brings along. In particular, no clause
contains the semicolon that ends a selection (`FilterCondition.semicolon_not_mem_clause`).
-/

set_option autoImplicit false

namespace OverpassQuery

/-! ## Numerals -/

/-- The characters of numerals. -/
def isNumeral (char : Char) : Bool := char.isDigit || char = '-' || char = '.'

theorem isNumeral_of_isDigit {char : Char} (digit : char.isDigit = true) :
    isNumeral char = true := by
  simp [isNumeral, digit]

theorem Numeral.isNumeral_of_mem_chars (numeral : Numeral) :
    ∀ char ∈ numeral.chars, isNumeral char = true := by
  refine List.forall_mem_append.mpr ⟨fun char occurs => ?_, ?_⟩
  · exact isNumeral_of_isDigit (numeral.isDigit_of_mem_whole char occurs)
  · split
    · exact nofun
    · refine List.forall_mem_cons.mpr ⟨rfl, fun char occurs => ?_⟩
      exact isNumeral_of_isDigit (numeral.isDigit_of_mem_fraction char occurs)

namespace Binary64

theorem isNumeral_of_mem_signed (negative : Bool) (numeral : Numeral) :
    ∀ char ∈ signChars negative ++ numeral.chars, isNumeral char = true := by
  refine List.forall_mem_append.mpr ⟨?_, numeral.isNumeral_of_mem_chars⟩
  cases negative with
  | false => exact nofun
  | true => exact List.forall_mem_singleton.mpr rfl

/-- **A finite number is written with digits, a minus sign and a point.** -/
theorem isNumeral_of_mem_toChars {number : Binary64} (finite : number.isFinite = true) :
    ∀ char ∈ number.toChars, isNumeral char = true := by
  obtain ⟨negative, numeral, written, -⟩ := exists_numeral finite
  rw [written]
  exact isNumeral_of_mem_signed negative numeral

theorem isNumeral_of_mem_coordinateText {number : Binary64} (finite : number.isFinite = true) :
    ∀ char ∈ number.coordinateText.toList, isNumeral char = true := by
  obtain ⟨negative, numeral, written, -⟩ := exists_numeral_coordinateChars finite
  rw [coordinateText, String.toList_ofList, written]
  exact isNumeral_of_mem_signed negative numeral

end Binary64

theorem isNumeral_of_mem_coordinates {numbers : List Binary64}
    (finite : ∀ number ∈ numbers, number.isFinite = true) :
    ∀ word ∈ numbers.map Binary64.coordinateText, ∀ char ∈ word.toList, isNumeral char = true :=
  List.forall_mem_map.mpr fun number occurs =>
    Binary64.isNumeral_of_mem_coordinateText (finite number occurs)

theorem isNumeral_of_mem_id (id : Int) : ∀ char ∈ (toString id).toList, isNumeral char = true := by
  have magnitude : ∀ value : Nat, ∀ char ∈ Nat.toDigits 10 value, isNumeral char = true :=
    fun _ char occurs => isNumeral_of_isDigit (Decimal.isDigit_of_mem_toDigits char occurs)
  rw [Int.toString_eq_repr]
  cases id with
  | ofNat value =>
      rw [Int.repr, Nat.toList_repr]
      exact magnitude value
  | negSucc value =>
      rw [Int.repr, String.toList_append, Nat.toList_repr]
      exact List.forall_mem_append.mpr ⟨List.forall_mem_singleton.mpr rfl, magnitude value.succ⟩

/-! ## Coordinates of rings and boxes -/

/-- The coordinates of a ring in engine order. -/
def Ring.engineCoordinates (ring : Ring) : List Binary64 :=
  ring.engineOrder.flatMap fun (latitude, longitude) => [latitude, longitude]

theorem Ring.coordinateText_eq (ring : Ring) (delimiter : String) :
    ring.coordinateText delimiter
      = delimiter.intercalate (ring.engineCoordinates.map Binary64.coordinateText) := by
  rw [coordinateText, engineCoordinates, List.map_flatMap]
  rfl

theorem Ring.isFinite_of_mem_engineCoordinates {ring : Ring} (complete : ring.Complete) :
    ∀ number ∈ ring.engineCoordinates, number.isFinite = true := by
  intro number occurs
  simp only [engineCoordinates, engineOrder, List.mem_flatMap, List.mem_map, List.mem_cons,
    List.not_mem_nil, or_false] at occurs
  obtain ⟨_, ⟨point, member, rfl⟩, rfl | rfl⟩ := occurs
  · exact (complete.2 point member).2
  · exact (complete.2 point member).1

theorem BoundingBox.isFinite_of_mem_edges {box : BoundingBox}
    (complete : (FilterCondition.boundingBox box).Complete) :
    ∀ edge ∈ box.edges, edge.isFinite = true := by
  obtain ⟨south, west, north, east⟩ := complete
  simp [edges, south, west, north, east]

/-! ## Clauses -/

/-- What holds of the characters of a delimiter and of all words holds of the characters of
the words joined by the delimiter. -/
theorem forall_mem_intercalate {kind : Char → Prop} {delimiter : String}
    (delimiting : ∀ char ∈ delimiter.toList, kind char) {words : List String}
    (texts : ∀ word ∈ words, ∀ char ∈ word.toList, kind char) :
    ∀ char ∈ (delimiter.intercalate words).toList, kind char := by
  induction words with
  | nil =>
      rw [String.intercalate_nil]
      exact nofun
  | cons word words ih =>
      rw [List.forall_mem_cons] at texts
      cases words with
      | nil =>
          rw [String.intercalate_singleton]
          exact texts.1
      | cons next words =>
          rw [String.intercalate_cons_cons, String.toList_append, String.toList_append]
          exact List.forall_mem_append.mpr
            ⟨List.forall_mem_append.mpr ⟨texts.1, delimiting⟩, ih texts.2⟩

/-- The characters of clauses, memberships apart. -/
def isClauseChar (char : Char) : Bool :=
  char.isAlphanum || ['-', '.', ',', ':', ' ', '"', '_'].contains char

/-- A text of such characters. -/
def IsClauseText (text : String) : Prop := ∀ char ∈ text.toList, isClauseChar char = true

instance (text : String) : Decidable (IsClauseText text) := List.decidableBAll _ text.toList

/-- A name of letters, digits and underscores. -/
def IsSetName (name : String) : Prop :=
  name ≠ "" ∧ ∀ char ∈ name.toList, char.isAlphanum = true ∨ char = '_'

instance (name : String) : Decidable (IsSetName name) :=
  have := List.decidableBAll (fun char : Char => char.isAlphanum = true ∨ char = '_') name.toList
  inferInstanceAs (Decidable (_ ∧ _))

theorem IsClauseText.append {first second : String} (firstText : IsClauseText first)
    (secondText : IsClauseText second) : IsClauseText (first ++ second) := by
  unfold IsClauseText
  rw [String.toList_append]
  exact List.forall_mem_append.mpr ⟨firstText, secondText⟩

theorem IsClauseText.intercalate {delimiter : String} (delimiting : IsClauseText delimiter)
    {words : List String} (texts : ∀ word ∈ words, IsClauseText word) :
    IsClauseText (delimiter.intercalate words) :=
  forall_mem_intercalate delimiting texts

theorem isClauseText_of_isNumeral {text : String}
    (numeral : ∀ char ∈ text.toList, isNumeral char = true) : IsClauseText text := by
  intro char occurs
  have kinds := numeral char occurs
  simp only [isNumeral, Bool.or_eq_true, decide_eq_true_eq] at kinds
  rcases kinds with (digit | rfl) | rfl
  · simp [isClauseChar, Char.isAlphanum, digit]
  · rfl
  · rfl

theorem IsSetName.isClauseText {name : String} (named : IsSetName name) : IsClauseText name := by
  intro char occurs
  rcases named.2 char occurs with alphanumeric | rfl
  · simp [isClauseChar, alphanumeric]
  · rfl

/-- Coordinates are joined to a text of clauses. -/
theorem isClauseText_joined {numbers : List Binary64}
    (finite : ∀ number ∈ numbers, number.isFinite = true) {delimiter : String}
    (delimiting : IsClauseText delimiter) :
    IsClauseText (delimiter.intercalate (numbers.map Binary64.coordinateText)) :=
  delimiting.intercalate fun word occurs =>
    isClauseText_of_isNumeral (isNumeral_of_mem_coordinates finite word occurs)

theorem Ring.isClauseText_coordinateText {ring : Ring} (complete : ring.Complete)
    (delimiter : String) (delimiting : IsClauseText delimiter) :
    IsClauseText (ring.coordinateText delimiter) := by
  rw [coordinateText_eq]
  exact isClauseText_joined (isFinite_of_mem_engineCoordinates complete) delimiting

theorem isClauseText_idsText (ids : List Int) : IsClauseText (FilterCondition.idsText ids) := by
  refine IsClauseText.intercalate (by decide) fun word occurs => ?_
  obtain ⟨id, _, rfl⟩ := List.mem_map.mp occurs
  exact isClauseText_of_isNumeral (isNumeral_of_mem_id id)

namespace FilterCondition

/-- The set that a condition names, if it names one. -/
def inputSet? : FilterCondition → Option String
  | .around _ _ inputSet => inputSet
  | _ => none

/-- The part of the clause of an `around` that follows the name of the set. -/
def aroundArguments (radius : Binary64) (ring : Ring) : String :=
  ":" ++ (radius.text ++ ("," ++ ring.coordinateText ","))

theorem clause_around_none (radius : Binary64) (ring : Ring) :
    (around radius ring none).clause = "around" ++ aroundArguments radius ring := by
  simp only [clause, aroundArguments, String.append_assoc]

theorem clause_around_some (radius : Binary64) (ring : Ring) (name : String) :
    (around radius ring (some name)).clause
      = "around." ++ name ++ aroundArguments radius ring := by
  simp only [clause, aroundArguments, String.append_assoc]

theorem isClauseText_aroundArguments {radius : Binary64} {ring : Ring}
    (finite : radius.isFinite = true) (complete : ring.Complete) :
    IsClauseText (aroundArguments radius ring) := by
  have radiusText : IsClauseText radius.text := by
    refine isClauseText_of_isNumeral ?_
    rw [Binary64.text, String.toList_ofList]
    exact Binary64.isNumeral_of_mem_toChars finite
  have coordinates := Ring.isClauseText_coordinateText complete "," (by decide)
  exact IsClauseText.append (by decide)
    (radiusText.append (IsClauseText.append (by decide) coordinates))

/-- **Where the characters of a clause come from.** The clause of a complete condition has the
characters of clauses, the closing parenthesis that a membership brings along, and those of the
name of a set. -/
theorem origin_of_mem_clause {condition : FilterCondition} (complete : condition.Complete) :
    ∀ char ∈ condition.clause.toList,
      isClauseChar char = true ∨ (char = ')' ∧ ∃ direction, condition = .recurse direction) ∨
        ∃ name ∈ condition.inputSet?, char ∈ name.toList := by
  have plain : IsClauseText condition.clause → ∀ char ∈ condition.clause.toList,
      isClauseChar char = true ∨ (char = ')' ∧ ∃ direction, condition = .recurse direction) ∨
        ∃ name ∈ condition.inputSet?, char ∈ name.toList :=
    fun text char occurs => .inl (text char occurs)
  cases condition with
  | boundingBox box =>
      have edges : IsClauseText (",".intercalate (box.edges.map Binary64.coordinateText)) :=
        isClauseText_joined (BoundingBox.isFinite_of_mem_edges complete) (by decide)
      exact plain edges
  | recurse direction =>
      have symbol : IsClauseText direction.symbol := by
        cases direction with
        | ways => decide
        | relations => decide
        | backNodes => decide
        | backWays => decide
        | backRelations => decide
      rw [clause, String.toList_append]
      refine List.forall_mem_append.mpr ⟨fun char occurs => .inl (symbol char occurs), ?_⟩
      exact List.forall_mem_singleton.mpr (.inr (.inl ⟨rfl, direction, rfl⟩))
  | id ids => exact plain (IsClauseText.append (by decide) (isClauseText_idsText ids))
  | area ids => exact plain (IsClauseText.append (by decide) (isClauseText_idsText ids))
  | polygon ring =>
      have coordinates := Ring.isClauseText_coordinateText complete " " (by decide)
      exact plain ((IsClauseText.append (by decide) coordinates).append (by decide))
  | around radius ring inputSet =>
      obtain ⟨positions, finite⟩ := complete
      have arguments := isClauseText_aroundArguments finite positions
      cases inputSet with
      | none =>
          rw [clause_around_none] at plain ⊢
          exact plain (IsClauseText.append (by decide) arguments)
      | some name =>
          have keyword : IsClauseText "around." := by decide
          rw [clause_around_some, String.toList_append, String.toList_append]
          refine List.forall_mem_append.mpr ⟨List.forall_mem_append.mpr ⟨?_, ?_⟩, ?_⟩
          · exact fun char occurs => .inl (keyword char occurs)
          · exact fun char occurs => .inr (.inr ⟨name, rfl, occurs⟩)
          · exact fun char occurs => .inl (arguments char occurs)

/-- **The characters of a clause.** If the set has a plain name, the clause of a complete
condition has the characters of clauses, and the closing parenthesis that a membership brings
along. -/
theorem isClauseChar_of_mem_clause {condition : FilterCondition} (complete : condition.Complete)
    (named : ∀ name ∈ condition.inputSet?, IsSetName name) :
    ∀ char ∈ condition.clause.toList,
      isClauseChar char = true ∨ char = ')' ∧ ∃ direction, condition = .recurse direction := by
  intro char occurs
  rcases origin_of_mem_clause complete char occurs with allowed | closing | ⟨name, given, occurs⟩
  · exact .inl allowed
  · exact .inr closing
  · exact .inl ((named name given).isClauseText char occurs)

/-- No clause contains the semicolon that ends a selection. -/
theorem semicolon_not_mem_clause {condition : FilterCondition} (complete : condition.Complete)
    (named : ∀ name ∈ condition.inputSet?, IsSetName name) : ';' ∉ condition.clause.toList := by
  intro occurs
  rcases isClauseChar_of_mem_clause complete named _ occurs with allowed | ⟨closing, _⟩
  · cases allowed
  · cases closing

end FilterCondition

end OverpassQuery

import OverpassQuery.Proofs.Statement.ClauseText

/-!
# Reading a filter back from its clause

A clause is cut into words (`ClauseWords.cut?`). What stands in front of the first colon is the
keyword; without a colon, the clause is that of a membership when it ends with a parenthesis, and
of a box otherwise. The arguments are cut at the commas, those of a polygon at the blanks between
its quotes. The words are read as a condition (`ClauseWords.condition?`): the coordinates of a ring
pair up, the latitude first, and each pair is swapped back.

**Cutting.** No numeral contains a delimiter, so the clause of a complete condition has the words
of the condition (`FilterCondition.cut?_clause`). The name of a set is the exception. It may be any
text without a colon, and stands in the keyword, where it is not cut.

**Reading.** A number is read back from its characters and from its coordinate, so the condition is
read back from its words (`FilterCondition.condition?_words`), negative zeros included.

So every filter is read back from its clause (`ElementFilter.Reachable.read_back`).
-/

set_option autoImplicit false

namespace OverpassQuery

/-! ## Words -/

/-- A clause cut into words. -/
inductive ClauseWords where
  | boundingBox (edges : List (List Char))
  | recurse (symbol : List Char)
  | id (ids : List (List Char))
  | around (inputSet : Option (List Char)) (radius : List Char) (coordinates : List (List Char))
  | polygon (coordinates : List (List Char))
  | area (ids : List (List Char))

namespace ClauseWords

/-- The words that are coordinates. -/
def coordinates : ClauseWords → List (List Char)
  | .boundingBox edges => edges
  | .around _ _ coordinates => coordinates
  | .polygon coordinates => coordinates
  | _ => []

/-! ### Cutting a clause -/

/-- The words of a clause without a keyword. -/
def cutPlain (clause : List Char) : ClauseWords :=
  if clause.getLast? = some ')' then .recurse clause.dropLast
  else .boundingBox (clause.splitOn ',')

/-- The name of a set that stands after the keyword of an `around`. -/
def setName? (keyword : List Char) : Option (List Char) :=
  match keyword.drop "around".toList.length with
  | '.' :: name => some name
  | _ => none

/-- The words of a clause with a keyword. -/
def cutArguments? (keyword arguments : List Char) : Option ClauseWords :=
  if keyword = "id".toList then some (.id (arguments.splitOn ','))
  else if keyword = "area".toList then some (.area (arguments.splitOn ','))
  else if keyword = "poly".toList then
    some (.polygon ((arguments.filter (· ≠ '"')).splitOn ' '))
  else if "around".toList.isPrefixOf keyword then
    match arguments.splitOn ',' with
    | radius :: coordinates => some (.around (setName? keyword) radius coordinates)
    | [] => none
  else none

/-- The words of a clause. -/
def cut? (clause : List Char) : Option ClauseWords :=
  match clause.dropWhile (· ≠ ':') with
  | [] => some (cutPlain clause)
  | _ :: arguments => cutArguments? (clause.takeWhile (· ≠ ':')) arguments

/-! ### Reading words -/

/-- The membership with a symbol. -/
def direction? (symbol : List Char) : Option MemberRecursion :=
  [.ways, .relations, .backNodes, .backWays, .backRelations].find? fun direction =>
    direction.symbol.toList = symbol

/-- Numbers taken in pairs. -/
def pairs? : List Binary64 → Option (List (Binary64 × Binary64))
  | [] => some []
  | [_] => none
  | latitude :: longitude :: rest => (pairs? rest).map ((latitude, longitude) :: ·)

/-- The positions of pairs that have the latitude first. -/
def swapBack (pairs : List (Binary64 × Binary64)) : Ring :=
  pairs.map fun (latitude, longitude) => ⟨longitude, latitude⟩

/-- The ring that a list of coordinates spells. -/
def ring? (coordinates : List (List Char)) : Option Ring := do
  let numbers ← coordinates.mapM Binary64.ofChars?
  let pairs ← pairs? numbers
  return swapBack pairs

/-- The box that a list of edges spells. -/
def box? (edges : List (List Char)) : Option BoundingBox := do
  let numbers ← edges.mapM Binary64.ofChars?
  match numbers with
  | [south, west, north, east] => some ⟨south, west, north, east⟩
  | _ => none

/-- The condition that words spell. -/
def condition? : ClauseWords → Option FilterCondition
  | .boundingBox edges => (box? edges).map .boundingBox
  | .recurse symbol => (direction? symbol).map .recurse
  | .id ids => (ids.mapM Decimal.integerOfChars?).map .id
  | .around inputSet radius coordinates => do
      let radius ← Binary64.ofChars? radius
      let ring ← ring? coordinates
      return .around radius ring (inputSet.map String.ofList)
  | .polygon coordinates => (ring? coordinates).map .polygon
  | .area ids => (ids.mapM Decimal.integerOfChars?).map .area

end ClauseWords

/-- The words of the clause of a condition. -/
def FilterCondition.words : FilterCondition → ClauseWords
  | .boundingBox box => .boundingBox (box.edges.map Binary64.coordinateChars)
  | .recurse direction => .recurse direction.symbol.toList
  | .id ids => .id (ids.map fun id => (toString id).toList)
  | .around radius ring inputSet =>
      .around (inputSet.map String.toList) radius.toChars
        (ring.engineCoordinates.map Binary64.coordinateChars)
  | .polygon ring => .polygon (ring.engineCoordinates.map Binary64.coordinateChars)
  | .area ids => .area (ids.map fun id => (toString id).toList)

/-! ## Lists of words -/

/-- Numerals are cut at a delimiter that is not a character of numerals. -/
theorem splitOn_numerals {mark : Char} (unmarked : isNumeral mark = false) {delimiter : String}
    (single : delimiter.toList = [mark]) {words : List String} (nonempty : words ≠ [])
    (numerals : ∀ word ∈ words, ∀ char ∈ word.toList, isNumeral char = true) :
    (delimiter.intercalate words).toList.splitOn mark = words.map String.toList := by
  rw [String.toList_intercalate, single]
  refine List.splitOn_intercalate mark (List.forall_mem_map.mpr fun word occurs => ?_) ?_
  · intro marked
    exact Bool.false_ne_true (unmarked.symm.trans (numerals word occurs mark marked))
  · simpa using nonempty

/-- Items that are read back one by one are read back as a list. -/
theorem mapM_map_eq_some {α : Type} {write : α → List Char} {read : List Char → Option α}
    {items : List α} (back : ∀ item ∈ items, read (write item) = some item) :
    (items.map write).mapM read = some items := by
  rw [mapM_eq_some_iff, List.forall₂_map_left_iff]
  exact List.forall₂_same.mpr back

/-! ## Rings and boxes -/

namespace Ring

theorem engineCoordinates_ne_nil {ring : Ring} (complete : ring.Complete) :
    ring.engineCoordinates ≠ [] := by
  obtain ⟨point, rest, rfl⟩ := List.exists_cons_of_ne_nil complete.1
  exact List.cons_ne_nil _ _

/-- The coordinates in engine order pair up as positions with the latitude first. -/
theorem pairs?_engineCoordinates (ring : Ring) :
    ClauseWords.pairs? ring.engineCoordinates = some ring.engineOrder := by
  induction ring with
  | nil => rfl
  | cons point ring ih =>
      show (ClauseWords.pairs? (engineCoordinates ring)).map _ = _
      rw [ih]
      rfl

/-- **Swapping the pairs back gives the ring.** -/
theorem swapBack_engineOrder (ring : Ring) : ClauseWords.swapBack ring.engineOrder = ring := by
  rw [ClauseWords.swapBack, engineOrder, List.map_map]
  exact List.map_id ring

/-- The ring is read back from its coordinates. -/
theorem ring?_coordinates {ring : Ring} (complete : ring.Complete) :
    ClauseWords.ring? (ring.engineCoordinates.map Binary64.coordinateChars) = some ring := by
  have numbers : (ring.engineCoordinates.map Binary64.coordinateChars).mapM Binary64.ofChars?
      = some ring.engineCoordinates :=
    mapM_map_eq_some fun number occurs =>
      Binary64.ofChars?_coordinateChars (isFinite_of_mem_engineCoordinates complete number occurs)
  simp only [ClauseWords.ring?, numbers, Option.bind_eq_bind, Option.bind_some,
    pairs?_engineCoordinates, swapBack_engineOrder]
  rfl

end Ring

/-- The box is read back from its edges. -/
theorem BoundingBox.box?_edges {box : BoundingBox}
    (complete : (FilterCondition.boundingBox box).Complete) :
    ClauseWords.box? (box.edges.map Binary64.coordinateChars) = some box := by
  have numbers : (box.edges.map Binary64.coordinateChars).mapM Binary64.ofChars? = some box.edges :=
    mapM_map_eq_some fun edge occurs =>
      Binary64.ofChars?_coordinateChars (isFinite_of_mem_edges complete edge occurs)
  simp only [ClauseWords.box?, numbers, Option.bind_eq_bind, Option.bind_some]
  rfl

/-! ## Lists of coordinates and ids -/

section Coordinates

variable {numbers : List Binary64} (finite : ∀ number ∈ numbers, number.isFinite = true)

theorem map_toList_coordinateText (numbers : List Binary64) :
    (numbers.map Binary64.coordinateText).map String.toList
      = numbers.map Binary64.coordinateChars := by
  rw [List.map_map]
  exact List.map_congr_left fun number _ => String.toList_ofList

include finite

/-- The characters of coordinates joined by a delimiter. -/
theorem isNumeral_or_mem_of_mem_joined (delimiter : String) :
    ∀ char ∈ (delimiter.intercalate (numbers.map Binary64.coordinateText)).toList,
      isNumeral char = true ∨ char ∈ delimiter.toList :=
  forall_mem_intercalate (fun _ occurs => .inr occurs) fun word member char occurs =>
    .inl (isNumeral_of_mem_coordinates finite word member char occurs)

/-- Coordinates, joined and cut again. -/
theorem splitOn_coordinates {mark : Char} (unmarked : isNumeral mark = false) {delimiter : String}
    (single : delimiter.toList = [mark]) (nonempty : numbers ≠ []) :
    (delimiter.intercalate (numbers.map Binary64.coordinateText)).toList.splitOn mark
      = numbers.map Binary64.coordinateChars := by
  rw [splitOn_numerals unmarked single (by simpa using nonempty)
    (isNumeral_of_mem_coordinates finite), map_toList_coordinateText]

end Coordinates

/-- Ids, joined and cut again. -/
theorem splitOn_idsText {ids : List Int} (nonempty : ids ≠ []) :
    (FilterCondition.idsText ids).toList.splitOn ',' = ids.map fun id => (toString id).toList := by
  rw [FilterCondition.idsText, splitOn_numerals rfl rfl (by simpa using nonempty)
    (List.forall_mem_map.mpr fun id _ => isNumeral_of_mem_id id), List.map_map]
  rfl

/-! ## Cutting the clause of a condition -/

namespace ClauseWords

theorem cut?_of_keyword {keyword arguments : List Char} (noColon : ':' ∉ keyword) :
    cut? (keyword ++ ':' :: arguments) = cutArguments? keyword arguments := by
  have before : ∀ char ∈ keyword, decide (char ≠ ':') = true := fun char occurs =>
    decide_eq_true (ne_of_mem_of_not_mem occurs noColon)
  have stops : ∀ char ∈ (':' :: arguments).head?, decide (char ≠ ':') = false := by
    rintro char ⟨⟩
    rfl
  rw [cut?, takeWhile_append_of_stops before stops, dropWhile_append_of_stops before stops]

theorem cut?_of_no_keyword {clause : List Char} (noColon : ':' ∉ clause) :
    cut? clause = some (cutPlain clause) := by
  have all : ∀ char ∈ clause, decide (char ≠ ':') = true := fun char occurs =>
    decide_eq_true (ne_of_mem_of_not_mem occurs noColon)
  rw [cut?, List.dropWhile_eq_nil_iff.mpr all]

/-- The keyword of an `around` brings the name of the set with it. -/
theorem cutArguments?_around (inputSet : Option String) {arguments radius : List Char}
    {coordinates : List (List Char)} (cut : arguments.splitOn ',' = radius :: coordinates) :
    cutArguments? (match inputSet with
        | some name => "around." ++ name
        | none => "around").toList arguments
      = some (.around (inputSet.map String.toList) radius coordinates) := by
  cases inputSet with
  | none => simp [cutArguments?, setName?, cut]
  | some name => simp [cutArguments?, setName?, cut]

end ClauseWords

namespace FilterCondition

open ClauseWords

theorem cut?_clause_boundingBox {box : BoundingBox}
    (complete : (FilterCondition.boundingBox box).Complete) :
    cut? (FilterCondition.boundingBox box).clause.toList
      = some (FilterCondition.boundingBox box).words := by
  have finite := BoundingBox.isFinite_of_mem_edges complete
  have kinds : ∀ char ∈ box.clause.toList, isNumeral char = true ∨ char ∈ ",".toList :=
    isNumeral_or_mem_of_mem_joined finite ","
  have noColon : ':' ∉ box.clause.toList := fun occurs => absurd (kinds _ occurs) (by decide)
  have noParenthesis : box.clause.toList.getLast? ≠ some ')' := fun last =>
    absurd (kinds _ (List.mem_of_getLast? last)) (by decide)
  have edges : box.clause.toList.splitOn ',' = box.edges.map Binary64.coordinateChars :=
    splitOn_coordinates finite rfl rfl (List.cons_ne_nil _ _)
  rw [clause, cut?_of_no_keyword noColon, cutPlain, if_neg noParenthesis, edges, words]

theorem cut?_clause_recurse (direction : MemberRecursion) :
    cut? (FilterCondition.recurse direction).clause.toList
      = some (FilterCondition.recurse direction).words := by
  have noColon : ':' ∉ direction.symbol.toList ++ [')'] := by
    cases direction with
    | ways => decide
    | relations => decide
    | backNodes => decide
    | backWays => decide
    | backRelations => decide
  have parenthesis : ")".toList = [')'] := rfl
  rw [clause, String.toList_append, parenthesis, cut?_of_no_keyword noColon, cutPlain,
    if_pos List.getLast?_concat, List.dropLast_concat]
  rfl

theorem cut?_clause_around {radius : Binary64} {ring : Ring} {inputSet : Option String}
    (complete : (FilterCondition.around radius ring inputSet).Complete)
    (named : ∀ name ∈ inputSet, ':' ∉ name.toList) :
    cut? (FilterCondition.around radius ring inputSet).clause.toList
      = some (FilterCondition.around radius ring inputSet).words := by
  obtain ⟨positions, finite⟩ := complete
  -- The radius is the first of the words that the commas separate.
  have cut : (radius.text ++ "," ++ ring.coordinateText ",").toList.splitOn ','
      = radius.toChars :: ring.engineCoordinates.map Binary64.coordinateChars := by
    have coordinates_ne_nil : ring.engineCoordinates.map Binary64.coordinateText ≠ [] := by
      simpa using Ring.engineCoordinates_ne_nil positions
    have radiusChars : radius.text.toList = radius.toChars := String.toList_ofList
    have numerals : ∀ word ∈ radius.text :: ring.engineCoordinates.map Binary64.coordinateText,
        ∀ char ∈ word.toList, isNumeral char = true := by
      refine List.forall_mem_cons.mpr ⟨?_, ?_⟩
      · rw [radiusChars]
        exact Binary64.isNumeral_of_mem_toChars finite
      · exact isNumeral_of_mem_coordinates (Ring.isFinite_of_mem_engineCoordinates positions)
    rw [Ring.coordinateText_eq, ← String.intercalate_cons_of_ne_nil coordinates_ne_nil,
      splitOn_numerals rfl rfl (List.cons_ne_nil _ _) numerals, List.map_cons, radiusChars,
      map_toList_coordinateText]
  cases inputSet with
  | none =>
      have keyword : (FilterCondition.around radius ring none).clause.toList
          = "around".toList ++ ':' :: (radius.text ++ "," ++ ring.coordinateText ",").toList := by
        simp [clause]
      rw [keyword, cut?_of_keyword (by decide)]
      exact cutArguments?_around none cut
  | some name =>
      have noColon : ':' ∉ ("around." ++ name).toList := by
        rw [String.toList_append, List.mem_append]
        rintro (occurs | occurs)
        · exact absurd occurs (by decide)
        · exact named name rfl occurs
      have keyword : (FilterCondition.around radius ring (some name)).clause.toList
          = ("around." ++ name).toList
            ++ ':' :: (radius.text ++ "," ++ ring.coordinateText ",").toList := by
        simp [clause]
      rw [keyword, cut?_of_keyword noColon]
      exact cutArguments?_around (some name) cut

theorem cut?_clause_polygon {ring : Ring} (complete : ring.Complete) :
    cut? (FilterCondition.polygon ring).clause.toList
      = some (FilterCondition.polygon ring).words := by
  have finite := Ring.isFinite_of_mem_engineCoordinates complete
  have kinds : ∀ char ∈ (ring.coordinateText " ").toList,
      isNumeral char = true ∨ char ∈ " ".toList := by
    rw [Ring.coordinateText_eq]
    exact isNumeral_or_mem_of_mem_joined finite " "
  have noQuote : '"' ∉ (ring.coordinateText " ").toList := fun occurs =>
    absurd (kinds _ occurs) (by decide)
  have unquoted : ('"' :: ((ring.coordinateText " ").toList ++ ['"'])).filter (· ≠ '"')
      = (ring.coordinateText " ").toList := by
    have kept : (ring.coordinateText " ").toList.filter (· ≠ '"')
        = (ring.coordinateText " ").toList :=
      List.filter_eq_self.mpr fun char occurs =>
        decide_eq_true (ne_of_mem_of_not_mem occurs noQuote)
    rw [List.filter_cons_of_neg (by decide), List.filter_append, kept]
    exact List.append_nil _
  have cut : (ring.coordinateText " ").toList.splitOn ' '
      = ring.engineCoordinates.map Binary64.coordinateChars := by
    rw [Ring.coordinateText_eq]
    exact splitOn_coordinates finite rfl rfl (Ring.engineCoordinates_ne_nil complete)
  have keyword : (FilterCondition.polygon ring).clause.toList
      = "poly".toList ++ ':' :: ('"' :: ((ring.coordinateText " ").toList ++ ['"'])) := by
    simp [clause]
  rw [keyword, cut?_of_keyword (by decide), cutArguments?, if_neg (by decide),
    if_neg (by decide), if_pos rfl, unquoted, cut, words]

/-- **The clause of a complete condition has the words of the condition.** -/
theorem cut?_clause {condition : FilterCondition} (complete : condition.Complete)
    (named : ∀ name ∈ condition.inputSet?, ':' ∉ name.toList) :
    cut? condition.clause.toList = some condition.words := by
  cases condition with
  | boundingBox box => exact cut?_clause_boundingBox complete
  | recurse direction => exact cut?_clause_recurse direction
  | id ids =>
      have keyword : (FilterCondition.id ids).clause.toList
          = "id".toList ++ ':' :: (idsText ids).toList := by
        simp [clause]
      rw [keyword, cut?_of_keyword (by decide), cutArguments?, if_pos rfl, splitOn_idsText complete,
        words]
  | around radius ring inputSet => exact cut?_clause_around complete named
  | polygon ring => exact cut?_clause_polygon complete
  | area ids =>
      have keyword : (FilterCondition.area ids).clause.toList
          = "area".toList ++ ':' :: (idsText ids).toList := by
        simp [clause]
      rw [keyword, cut?_of_keyword (by decide), cutArguments?, if_neg (by decide), if_pos rfl,
        splitOn_idsText complete, words]

/-- **A complete condition is read back from its words.** -/
theorem condition?_words {condition : FilterCondition} (complete : condition.Complete) :
    condition.words.condition? = some condition := by
  have ids (ids : List Int) : (ids.map fun id => (toString id).toList).mapM
      Decimal.integerOfChars? = some ids :=
    mapM_map_eq_some fun id _ => Decimal.integerOfChars?_toString id
  cases condition with
  | boundingBox box => rw [words, condition?, BoundingBox.box?_edges complete, Option.map_some]
  | recurse direction =>
      cases direction with
      | ways => rfl
      | relations => rfl
      | backNodes => rfl
      | backWays => rfl
      | backRelations => rfl
  | id list => rw [words, condition?, ids, Option.map_some]
  | around radius ring inputSet =>
      obtain ⟨positions, finite⟩ := complete
      have name : (inputSet.map String.toList).map String.ofList = inputSet := by
        cases inputSet with
        | none => rfl
        | some name => exact congrArg some String.ofList_toList
      simp only [words, condition?, Binary64.ofChars?_toChars finite,
        Ring.ring?_coordinates positions, name, Option.bind_eq_bind, Option.bind_some]
      rfl
  | polygon ring => rw [words, condition?, Ring.ring?_coordinates complete, Option.map_some]
  | area list => rw [words, condition?, ids, Option.map_some]

/-- The coordinates of a complete condition are finite numbers. -/
theorem exists_finite_of_mem_coordinates {condition : FilterCondition}
    (complete : condition.Complete) : ∀ word ∈ condition.words.coordinates,
      ∃ number : Binary64, number.isFinite = true ∧ word = number.coordinateChars := by
  have written : ∀ {numbers : List Binary64}, (∀ number ∈ numbers, number.isFinite = true) →
      ∀ word ∈ numbers.map Binary64.coordinateChars,
        ∃ number : Binary64, number.isFinite = true ∧ word = number.coordinateChars := by
    intro numbers finite word occurs
    obtain ⟨number, member, rfl⟩ := List.mem_map.mp occurs
    exact ⟨number, finite number member, rfl⟩
  cases condition with
  | boundingBox box => exact written (BoundingBox.isFinite_of_mem_edges complete)
  | recurse direction => exact nofun
  | id ids => exact nofun
  | around radius ring inputSet => exact written (Ring.isFinite_of_mem_engineCoordinates complete.1)
  | polygon ring => exact written (Ring.isFinite_of_mem_engineCoordinates complete)
  | area ids => exact nofun

/-- Complete conditions with the same clause are the same. -/
theorem eq_of_clause_eq {condition other : FilterCondition} (complete : condition.Complete)
    (named : ∀ name ∈ condition.inputSet?, ':' ∉ name.toList) (otherComplete : other.Complete)
    (otherNamed : ∀ name ∈ other.inputSet?, ':' ∉ name.toList)
    (same : other.clause = condition.clause) : other = condition := by
  have cut := cut?_clause otherComplete otherNamed
  rw [same, cut?_clause complete named] at cut
  have sameWords : condition.words = other.words := Option.some.inj cut
  have read := condition?_words otherComplete
  rw [← sameWords, condition?_words complete] at read
  exact (Option.some.inj read).symm

end FilterCondition

/-! ## Filters -/

/-- **A filter is read back from its clause.** The clause is cut into words from which the
condition is read, and no other filter has this clause. Every coordinate is a numeral with at
least two digits after its point. -/
theorem ElementFilter.Reachable.read_back {filter : ElementFilter} (reachable : filter.Reachable)
    (named : ∀ name ∈ filter.condition.inputSet?, ':' ∉ name.toList) :
    (∃ words : ClauseWords, ClauseWords.cut? filter.clause.toList = some words ∧
      words.condition? = some filter.condition ∧
      ∀ word ∈ words.coordinates, ∃ (negative : Bool) (numeral : Numeral),
        word = Binary64.signChars negative ++ numeral.chars ∧ 2 ≤ numeral.fraction.length) ∧
      ∀ other : ElementFilter, other.Reachable →
        (∀ name ∈ other.condition.inputSet?, ':' ∉ name.toList) →
          other.clause = filter.clause → other = filter := by
  obtain ⟨complete, clause⟩ := reachable.complete
  refine ⟨⟨filter.condition.words, ?_, ?_, ?_⟩, ?_⟩
  · rw [clause]
    exact FilterCondition.cut?_clause complete named
  · exact FilterCondition.condition?_words complete
  · intro word occurs
    obtain ⟨number, finite, rfl⟩ :=
      FilterCondition.exists_finite_of_mem_coordinates complete word occurs
    exact Binary64.exists_numeral_coordinateChars finite
  · intro other otherReachable otherNamed same
    obtain ⟨otherComplete, otherClause⟩ := otherReachable.complete
    rw [otherClause, clause] at same
    have sameCondition :=
      FilterCondition.eq_of_clause_eq complete named otherComplete otherNamed same
    rw [otherReachable.eq_written.2, reachable.eq_written.2, sameCondition]

/-- A negative zero, and the name of a set that contains a comma. -/
theorem ElementFilter.read_back_named_set :
    let filter := written (.around (Binary64.ofInt 250)
      [⟨.finite true ⟨0, by decide⟩, Binary64.ofInt (-33)⟩] (some "a,b"))
    filter.clause = "around.a,b:250,-33.00,-0.00" ∧
      (∃ words : ClauseWords, ClauseWords.cut? filter.clause.toList = some words ∧
        words.condition? = some filter.condition ∧
        ∀ word ∈ words.coordinates, ∃ (negative : Bool) (numeral : Numeral),
          word = Binary64.signChars negative ++ numeral.chars ∧ 2 ≤ numeral.fraction.length) ∧
        ∀ other : ElementFilter, other.Reachable →
          (∀ name ∈ other.condition.inputSet?, ':' ∉ name.toList) →
            other.clause = filter.clause → other = filter := by
  intro filter
  have made : make filter.condition = .ok filter :=
    make_eq_ok_iff.mpr ⟨by decide +kernel, rfl⟩
  have named : ∀ name ∈ filter.condition.inputSet?, ':' ∉ name.toList := by
    rintro name ⟨⟩
    decide
  exact ⟨by decide +kernel, Reachable.read_back (.make made) named⟩

end OverpassQuery

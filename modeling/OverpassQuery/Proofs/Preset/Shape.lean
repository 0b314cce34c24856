import OverpassQuery.Proofs.Statement.Reachable

/-!
# The shape of street network queries

An area amounts to a list of filter conditions (`QueryArea.conditions`): one for a box, a
circle or a place that is found, and one for each ring of a polygon. From these the whole
query follows, in the same way for all areas (`PresetQuery.assembled`).

The queries for a box and a circle make their union at once, the query for rings appends to
it ring by ring, and their arguments are checked in different orders. Each of them is
a list of checks followed by the assembled query (`PresetQuery.byBoundingBox_eq`,
`PresetQuery.byRadius_eq`, `PresetQuery.byPolygon_eq`). For rings this is an induction over
the list (`PresetQuery.foldlM_appendRing`).

So a query that is built has the text of its shape (`PresetQuery.build_shape`). A geocoder
may keep a state; it is asked once, for a place.
-/

set_option autoImplicit false

namespace OverpassQuery

open Statement

/-! ## Conditions of an area -/

/-- The conditions of the filters for an area, in their order. A place has the ring that is
found for it. -/
def QueryArea.conditions (found : String → Except GeocodeError Ring) :
    QueryArea → List FilterCondition
  | .boundingBox box => [.boundingBox box]
  | .radius metres center => [.around metres [center] none]
  | .polygon rings => rings.map .polygon
  | .place name =>
      match found name with
      | .ok ring => [.polygon ring]
      | .error _ => []

/-- The conditions for an area that hold for the whole query: a box is also a setting. -/
def QueryArea.settingConditions : QueryArea → List FilterCondition
  | .boundingBox box => [.boundingBox box]
  | _ => []

namespace PresetQuery

/-! ## Text -/

/-- The conditions on the tags of a kind of element, as they are printed. -/
def predicatesText (predicates : List TagPredicate) : String :=
  String.join (predicates.map TagPredicate.text)

/-- The text of the ways and relations that pass a filter, with their members. -/
def selectionText (query : PresetQuery) (clause : String) : String :=
  "way" ++ predicatesText query.wayPredicates ++ "(" ++ clause ++ ");<;relation"
    ++ predicatesText query.relationPredicates ++ "(" ++ clause ++ ");<;"

/-- The text of a query, from the clauses of its boxes and of its filters. -/
def shapeText (query : PresetQuery) (boxes clauses : List String) : String :=
  "[out:" ++ query.format.name ++ query.formatOptions.getD "" ++ "]"
    ++ String.join (boxes.map fun clause => "[bbox:" ++ clause ++ "]")
    ++ ";(" ++ String.join (clauses.map query.selectionText)
    ++ ")->._;out body;" ++ (if query.metadata then "out meta;" else "")

/-! ## The assembled query -/

/-- The members of the union for a list of conditions. -/
def members (query : PresetQuery) (conditions : List FilterCondition) : List Statement :=
  conditions.flatMap fun condition => query.selection (.written condition)

/-- The query for a list of conditions, of which the boxes are also settings. -/
def assembled (query : PresetQuery) (boxes conditions : List FilterCondition) : Sequence :=
  query.finish
    (⟨.out, query.format.name, query.formatOptions.getD ""⟩
      :: boxes.map fun condition => ⟨.boundingBox, condition.clause, ""⟩)
    (UnionStatement.written "_" (query.members conditions))

theorem members_nil (query : PresetQuery) : query.members [] = [] := List.flatMap_nil

theorem members_cons (query : PresetQuery) (condition : FilterCondition)
    (rest : List FilterCondition) :
    query.members (condition :: rest)
      = query.selection (.written condition) ++ query.members rest := List.flatMap_cons

theorem length_selection (query : PresetQuery) (filter : ElementFilter) :
    (query.selection filter).length = 4 := rfl

theorem length_members (query : PresetQuery) (conditions : List FilterCondition) :
    (query.members conditions).length = 4 * conditions.length := by
  induction conditions with
  | nil => rfl
  | cons condition rest ih =>
      rw [members_cons, List.length_append, length_selection, ih, List.length_cons]
      omega

theorem text_selection (query : PresetQuery) (condition : FilterCondition) :
    texts (query.selection (.written condition)) = query.selectionText condition.clause := by
  apply String.toList_inj.mp
  simp [selection, texts_cons, texts_nil, Statement.text, ElementStatement.make,
    ElementStatement.render, RecurseStatement.make, ElementFilter.written, selectionText,
    predicatesText, ElementType.name, RecurseDirection.symbol]

theorem texts_members (query : PresetQuery) (conditions : List FilterCondition) :
    texts (query.members conditions)
      = String.join (conditions.map fun condition => query.selectionText condition.clause) := by
  induction conditions with
  | nil => rfl
  | cons condition rest ih =>
      rw [members_cons, texts_append, text_selection, ih, List.map_cons, String.join_cons]

theorem text_settings (query : PresetQuery) (boxes : List FilterCondition) :
    (SettingsStatement.make (⟨.out, query.format.name, query.formatOptions.getD ""⟩
        :: boxes.map fun condition => ⟨.boundingBox, condition.clause, ""⟩)).text
      = "[out:" ++ query.format.name ++ query.formatOptions.getD "" ++ "]"
          ++ String.join (boxes.map fun condition => "[bbox:" ++ condition.clause ++ "]")
          ++ ";" := by
  have boxed : (Setting.text ∘ fun condition : FilterCondition =>
      (⟨.boundingBox, condition.clause, ""⟩ : Setting))
      = fun condition => "[bbox:" ++ condition.clause ++ "]" := by
    funext condition
    apply String.toList_inj.mp
    simp [Setting.text, SettingKey.name]
  rw [SettingsStatement.make, List.map_cons, String.join_cons, List.map_map, boxed]
  apply String.toList_inj.mp
  simp [Setting.text, SettingKey.name]

theorem text_union (query : PresetQuery) (conditions : List FilterCondition) :
    (UnionStatement.written "_" (query.members conditions)).text
      = "(" ++ String.join (conditions.map fun condition => query.selectionText condition.clause)
          ++ ")->._;" := by
  rw [UnionStatement.written, UnionStatement.opening, UnionStatement.closing, texts_members]
  apply String.toList_inj.mp
  simp

/-- After the union the elements are printed, and then their metadata if they are wanted. -/
theorem text_finish (query : PresetQuery) (settings : List Setting) (union : UnionStatement) :
    (query.finish settings union).text
      = (SettingsStatement.make settings).text ++ union.text ++ "out body;"
          ++ (if query.metadata then "out meta;" else "") := by
  have body : (OutStatement.make (.detail .body false)).text = "out body;" := by decide +kernel
  have metadata : (OutStatement.make (.detail .metadata false)).text = "out meta;" := by
    decide +kernel
  apply String.toList_inj.mp
  cases printed : query.metadata with
  | false =>
      simp [finish, printed, Sequence.ofList, texts_cons, texts_nil, Statement.text, body]
  | true =>
      simp [finish, printed, Sequence.ofList, Sequence.append, texts_cons, texts_nil,
        Statement.text, body, metadata]

/-- An assembled query has the text of its shape. -/
theorem text_assembled (query : PresetQuery) (boxes conditions : List FilterCondition) :
    (query.assembled boxes conditions).text
      = query.shapeText (boxes.map FilterCondition.clause)
          (conditions.map FilterCondition.clause) := by
  rw [assembled, text_finish, text_settings, text_union, shapeText, List.map_map, List.map_map]
  apply String.toList_inj.mp
  simp [Function.comp_def]

/-! ## Unions made at once and ring by ring -/

theorem firstBlockOf?_selection (query : PresetQuery) (filter : ElementFilter) :
    firstBlockOf? (query.selection filter) = none := rfl

theorem firstBlockOf?_members (query : PresetQuery) (conditions : List FilterCondition) :
    firstBlockOf? (query.members conditions) = none := by
  induction conditions with
  | nil => rfl
  | cons condition rest ih =>
      rw [members_cons, firstBlockOf?_append, firstBlockOf?_selection, ih]
      rfl

/-- The selections of any conditions make a union at once. -/
theorem make_members (query : PresetQuery) (conditions : List FilterCondition) :
    UnionStatement.make defaultSet (query.members conditions)
      = .ok (UnionStatement.written "_" (query.members conditions)) :=
  UnionStatement.make_of_flat (by decide) (query.firstBlockOf?_members conditions)

/-- A union takes the selections of a filter. -/
theorem append_selection (query : PresetQuery) (union : UnionStatement) (filter : ElementFilter) :
    union.append (query.selection filter)
      = .ok (UnionStatement.written union.result (union.members ++ query.selection filter)) :=
  UnionStatement.append_eq_ok_iff.mpr ⟨query.firstBlockOf?_selection filter, rfl⟩

/-- The union that takes the selections of a list of conditions, one condition after the
other. -/
def unionInTurn (query : PresetQuery) (conditions : List FilterCondition) :
    Except BuildError UnionStatement := do
  let empty ← UnionStatement.make defaultSet []
  conditions.foldlM (fun (union : UnionStatement) condition =>
    union.append (query.selection (.written condition))) empty

theorem foldlM_append_selection (query : PresetQuery) (conditions : List FilterCondition) :
    ∀ members : List Statement,
      conditions.foldlM (fun (union : UnionStatement) condition =>
          union.append (query.selection (.written condition)))
          (UnionStatement.written "_" members)
        = .ok (UnionStatement.written "_" (members ++ query.members conditions)) := by
  induction conditions with
  | nil =>
      intro members
      rw [members_nil, List.append_nil]
      rfl
  | cons condition rest ih =>
      intro members
      rw [List.foldlM_cons, append_selection, members_cons, ← List.append_assoc]
      exact ih (members ++ query.selection (.written condition))

/-- **Selections that are appended one condition at a time make the union that all of them
make at once.** -/
theorem unionInTurn_eq_make (query : PresetQuery) (conditions : List FilterCondition) :
    query.unionInTurn conditions = UnionStatement.make defaultSet (query.members conditions) := by
  rw [make_members]
  exact query.foldlM_append_selection conditions []

/-- A ring is checked, and its selections are appended. -/
theorem appendRing_eq (query : PresetQuery) (union : UnionStatement) (ring : Ring) :
    query.appendRing union ring = (ring.check .polygon).map fun _ =>
      UnionStatement.written union.result
        (union.members ++ query.selection (.written (.polygon ring))) := by
  rw [appendRing, ElementFilter.polygon, ElementFilter.make, FilterCondition.check]
  cases ring.check .polygon with
  | error cause => rfl
  | ok checked => exact query.append_selection union _

/-- Rings are checked in their order, and all selections are in the union at the end. -/
theorem foldlM_appendRing (query : PresetQuery) (rings : List Ring) :
    ∀ members : List Statement,
      rings.foldlM query.appendRing (UnionStatement.written "_" members)
        = (forM rings (Ring.check .polygon)).map fun _ =>
            UnionStatement.written "_" (members ++ query.members (rings.map .polygon)) := by
  induction rings with
  | nil =>
      intro members
      rw [List.map_nil, members_nil, List.append_nil]
      rfl
  | cons ring rest ih =>
      intro members
      rw [List.foldlM_cons, appendRing_eq, List.forM_cons]
      cases ring.check .polygon with
      | error cause => rfl
      | ok checked =>
          have taken := ih (members ++ query.selection (.written (.polygon ring)))
          rw [List.append_assoc] at taken
          exact taken

/-! ## The three ways to build a query -/

/-- The format must come with the options that it needs. -/
def checkFormat (query : PresetQuery) : Except BuildError Unit :=
  Setting.check .out query.format.name (query.formatOptions.getD "")

theorem outputSetting_eq (query : PresetQuery) :
    query.outputSetting = do
      query.checkFormat
      return ⟨.out, query.format.name, query.formatOptions.getD ""⟩ := rfl

theorem make_selection (query : PresetQuery) (condition : FilterCondition) :
    UnionStatement.make defaultSet (query.selection (.written condition))
      = .ok (UnionStatement.written "_" (query.members [condition])) :=
  query.make_members [condition]

theorem byBoundingBox_eq (query : PresetQuery) (box : BoundingBox) :
    query.byBoundingBox box = do
      box.check
      query.checkFormat
      return query.assembled [.boundingBox box] [.boundingBox box] := by
  rw [byBoundingBox, ElementFilter.boundingBox, ElementFilter.make, FilterCondition.check,
    Setting.boundingBox, outputSetting_eq]
  cases box.check with
  | error cause => rfl
  | ok checked =>
      cases query.checkFormat with
      | error cause => rfl
      | ok checked =>
          show (UnionStatement.make defaultSet (query.selection (.written (.boundingBox box)))
            >>= fun union => pure (query.finish _ union)) = _
          rw [make_selection]
          rfl

theorem byRadius_eq (query : PresetQuery) (radius : Binary64) (center : Point) :
    query.byRadius radius center = do
      (FilterCondition.around radius [center] none).check
      query.checkFormat
      return query.assembled [] [.around radius [center] none] := by
  rw [byRadius, ElementFilter.around, ElementFilter.make, outputSetting_eq]
  cases (FilterCondition.around radius [center] none).check with
  | error cause => rfl
  | ok checked =>
      cases query.checkFormat with
      | error cause => rfl
      | ok checked =>
          show (UnionStatement.make defaultSet (query.selection _)
            >>= fun union => pure (query.finish _ union)) = _
          rw [make_selection]
          rfl

theorem byPolygon_eq (query : PresetQuery) (rings : List Ring) :
    query.byPolygon rings = do
      query.checkFormat
      forM rings (Ring.check .polygon)
      return query.assembled [] (rings.map .polygon) := by
  have empty : UnionStatement.make defaultSet [] = .ok (UnionStatement.written "_" []) := rfl
  rw [byPolygon, outputSetting_eq, empty]
  cases query.checkFormat with
  | error cause => rfl
  | ok checked =>
      show (rings.foldlM query.appendRing (UnionStatement.written "_" [])
        >>= fun union => pure (query.finish _ union)) = _
      rw [foldlM_appendRing]
      cases forM rings (Ring.check .polygon) with
      | error cause => rfl
      | ok checked => rfl

/-! ## The shape of a query -/

/-- A place that is found is a polygon of one ring. -/
theorem build_place {World : Type} (query : PresetQuery) (name : String)
    (geocoder : Geocoder (StateM World)) (world : World) :
    ((query.build (.place name) geocoder).run world).1 =
      match ((geocoder name).run world).1 with
      | .ok ring => (query.byPolygon [ring]).mapError .build
      | .error cause => .error (.geocode cause) := by
  rw [build, StateT.run_bind]
  rcases (geocoder name).run world with ⟨answer, after⟩
  cases answer with
  | error cause => rfl
  | ok ring => rfl

theorem eq_assembled_of_byPolygon {query : PresetQuery} {rings : List Ring} {sequence : Sequence}
    (built : query.byPolygon rings = .ok sequence) :
    sequence = query.assembled [] (rings.map .polygon) := by
  rw [byPolygon_eq] at built
  exact (checked_eq_ok_iff.mp (check_bind_eq_ok_iff.mp built).2).2

/-- A query that is built is assembled from the conditions of its area. -/
theorem eq_assembled_of_build {World : Type} {query : PresetQuery} {area : QueryArea}
    {geocoder : Geocoder (StateM World)} {world : World} {sequence : Sequence}
    (built : ((query.build area geocoder).run world).1 = .ok sequence) :
    sequence = query.assembled area.settingConditions
      (area.conditions fun name => ((geocoder name).run world).1) := by
  cases area with
  | boundingBox box =>
      have made := mapError_eq_ok_iff.mp built
      rw [byBoundingBox_eq] at made
      exact (checked_eq_ok_iff.mp (check_bind_eq_ok_iff.mp made).2).2
  | radius metres center =>
      have made := mapError_eq_ok_iff.mp built
      rw [byRadius_eq] at made
      exact (checked_eq_ok_iff.mp (check_bind_eq_ok_iff.mp made).2).2
  | polygon rings => exact eq_assembled_of_byPolygon (mapError_eq_ok_iff.mp built)
  | place name =>
      rw [build_place] at built
      rw [QueryArea.conditions]
      cases found : ((geocoder name).run world).1 with
      | error cause =>
          rw [found] at built
          exact nomatch built
      | ok ring =>
          rw [found] at built
          exact eq_assembled_of_byPolygon (mapError_eq_ok_iff.mp built)

/-- The union of an assembled query. -/
theorem statements_assembled (query : PresetQuery) (boxes conditions : List FilterCondition) :
    (query.assembled boxes conditions).statements[1]?
      = some (.union (UnionStatement.written "_" (query.members conditions))) := by
  rw [assembled, finish]
  cases query.metadata with
  | false => rfl
  | true => rfl

/-- **A query that is built has the text of its shape.** The text is made of the clauses of
the area's conditions, in their order. The union of the query has four members for each
condition. It is the union that all selections make at once, and the one that takes them
one condition after the other. -/
theorem build_shape {World : Type} {query : PresetQuery} {area : QueryArea}
    {geocoder : Geocoder (StateM World)} {world : World} {sequence : Sequence}
    (built : ((query.build area geocoder).run world).1 = .ok sequence) :
    let conditions := area.conditions fun name => ((geocoder name).run world).1
    sequence.text = query.shapeText (area.settingConditions.map FilterCondition.clause)
        (conditions.map FilterCondition.clause) ∧
      ∃ union : UnionStatement, sequence.statements[1]? = some (.union union) ∧
        union.members.length = 4 * conditions.length ∧
        UnionStatement.make defaultSet (query.members conditions) = .ok union ∧
        query.unionInTurn conditions = .ok union := by
  intro conditions
  obtain rfl := eq_assembled_of_build built
  have made := query.make_members conditions
  exact ⟨query.text_assembled _ _, UnionStatement.written "_" (query.members conditions),
    query.statements_assembled _ _, query.length_members conditions, made,
    (query.unionInTurn_eq_make conditions).trans made⟩

/-- Streets with their metadata, as a table of ids. -/
def streetTable : PresetQuery := ⟨[.present "highway"], [], true, .csv, some "(::id)"⟩

/-- Two rings around the origin. -/
def twoRings : List Ring := [[⟨.zero, .zero⟩], [⟨.zero, .zero⟩, ⟨.zero, .zero⟩]]

/-- A geocoder that counts its lookups and finds nothing. -/
def nowhere (name : String) : StateM Nat (Except GeocodeError Ring) := do
  modify (· + 1)
  return .error (.notFound name)

theorem build_shape_of_two_rings :
    ∃ sequence : Sequence, ∃ union : UnionStatement,
      ((streetTable.build (.polygon twoRings) nowhere).run 0).1 = .ok sequence ∧
        sequence.text
          = "[out:csv(::id)];(way[\"highway\"](poly:\"0.00 0.00\");<;"
            ++ "relation(poly:\"0.00 0.00\");<;way[\"highway\"](poly:\"0.00 0.00 0.00 0.00\");<;"
            ++ "relation(poly:\"0.00 0.00 0.00 0.00\");<;)->._;out body;out meta;" ∧
        sequence.statements[1]? = some (.union union) ∧ union.members.length = 8 ∧
        streetTable.unionInTurn (twoRings.map .polygon) = .ok union := by
  have built : ((streetTable.build (.polygon twoRings) nowhere).run 0).1
      = .ok (streetTable.assembled [] (twoRings.map .polygon)) := by rfl
  obtain ⟨text, union, second, count, -, grown⟩ := build_shape built
  refine ⟨_, union, built, text.trans ?_, second, count, grown⟩
  decide +kernel

end PresetQuery

end OverpassQuery

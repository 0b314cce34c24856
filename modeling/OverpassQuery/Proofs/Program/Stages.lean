import OverpassQuery.Proofs.Program.Deeds

/-!
# The stages of a run

A run goes through stages: the configuration is loaded, the tag lists are read, the area is
located, the query is built, and it is delivered. A stage leads from one state to another, with
a result and with deeds of its own (`Program.Performed`).

**Course.** `Program.Prepared` lists what can come of the stages up to the query, each case with
the stages that have succeeded and the one that fails; after a stage that fails there are no
more. `Program.Course` adds delivery. Every run takes such a course (`Program.course_of_run`),
and it takes no other (`Program.run_of_course`).

**Deeds.** Until a query is built nothing is delivered: files are looked for and read, lines are
reported, and at most the search for a place is sent, once (`Program.Prepared.preparing`). The
deeds of a whole run are those of the preparation, and those of the delivery if there is one
(`Program.Course.deeds`).
-/

set_option autoImplicit false

namespace OverpassQuery

/-! ## Computations that can fail -/

section Rules

variable {S ε α β : Type} {first : ExceptT ε (StateM S) α} {next : α → ExceptT ε (StateM S) β}
  {before after : S}

theorem run_bind_of_ok {value : α} (ran : first.run.run before = (.ok value, after)) :
    (first >>= next).run.run before = (next value).run.run after := by
  rw [ExceptT.run_bind, StateT.run_bind]
  show (let stage := first.run.run before; _) = _
  rw [ran]
  rfl

theorem run_bind_of_error {error : ε} (ran : first.run.run before = (.error error, after)) :
    (first >>= next).run.run before = (.error error, after) := by
  rw [ExceptT.run_bind, StateT.run_bind]
  show (let stage := first.run.run before; _) = _
  rw [ran]
  rfl

theorem run_mapError {ε' : Type} {act : StateM S (Except ε' α)} {rename : ε' → ε}
    {result : Except ε' α} (ran : act.run before = (result, after)) :
    (ExceptT.mk do return (← act).mapError rename).run.run before
      = (result.mapError rename, after) := by
  rw [ExceptT.run_mk, StateT.run_bind]
  show (let stage := act.run before; _) = _
  rw [ran]
  rfl

end Rules

/-! ## Kinds of deeds -/

namespace Deed

/-- The request that is sent. -/
def request? : Deed → Option Http.Request
  | .sent request => some request
  | _ => none

/-- Deeds that change nothing outside. -/
def IsQuiet : Deed → Prop
  | .lookedFor _ | .read _ | .reported _ => True
  | _ => False

/-- Deeds with which a query is prepared. -/
def IsPreparation : Deed → Prop
  | .lookedFor _ | .read _ | .reported _ => True
  | .sent request => request.method = .get
  | _ => False

theorem Looks.isQuiet {deed : Deed} {path : String} (looks : deed.Looks path) : deed.IsQuiet := by
  cases deed with
  | lookedFor | read => trivial
  | wrote | sent | waited | printed | reported => exact looks.elim

theorem IsQuiet.isPreparation {deed : Deed} (quiet : deed.IsQuiet) : deed.IsPreparation := by
  cases deed with
  | lookedFor | read | reported => trivial
  | wrote | sent | waited | printed => exact quiet.elim

theorem IsQuiet.request?_eq {deed : Deed} (quiet : deed.IsQuiet) : deed.request? = none := by
  cases deed with
  | sent => exact quiet.elim
  | lookedFor | read | wrote | waited | printed | reported => rfl

theorem requests_of_quiet {deeds : List Deed} (quiet : ∀ deed ∈ deeds, deed.IsQuiet) :
    deeds.filterMap request? = [] :=
  List.filterMap_eq_nil_iff.mpr fun deed done => (quiet deed done).request?_eq

end Deed

namespace Program

/-! ## Stages -/

/-- A stage of a run has led from one state to another, with a result, and with deeds that are
added to the log. -/
structure Performed {S α : Type} (log : S → List Deed) (fits : α → List Deed → Prop)
    (stage : StateM S α) (before : S) (result : α) (after : S) : Prop where
  ran : stage.run before = (result, after)
  added : ∃ deeds, log after = log before ++ deeds ∧ fits result deeds

theorem performed_of_emits {S α : Type} {log : S → List Deed} {fits : α → List Deed → Prop}
    {stage : StateM S α} {before after : S} {result : α} (emits : Emits log fits stage)
    (ran : stage.run before = (result, after)) :
    Performed log fits stage before result after := by
  obtain ⟨deeds, added, fit⟩ := emits before
  rw [ran] at added fit
  exact ⟨ran, deeds, added, fit⟩

section Stages

variable {S : Type} (world : World (StateM S)) (log : S → List Deed) (invocation : Invocation)

/-- The configuration is loaded, or it cannot be. -/
def Loads (before : S) (result : Except Failure Configuration) (after : S) : Prop :=
  Performed log (Loading invocation) (configuration world invocation).run before result after

/-- The area is located, or it cannot be. -/
def Locates (before : S) (result : Except Failure QueryArea) (after : S) : Prop :=
  Performed log (Locating invocation.area) (queryArea world invocation.area).run before result after

/-- A query is built, or it cannot be. -/
def Builds (configuration : Configuration) (query : PresetQuery) (area : QueryArea) (before : S)
    (result : Except PresetError Sequence) (after : S) : Prop :=
  Performed log (fun _ deeds => Searching configuration area deeds)
    (query.build area (configuration.geocoder world.exchange
      fun warning => world.report ("WARN " ++ warning))) before result after

/-- A query is delivered, or it cannot be. -/
def Delivers (configuration : Configuration) (sequence : Sequence) (before : S)
    (result : Except Failure Unit) (after : S) : Prop :=
  Performed log (Delivering invocation configuration sequence)
    (deliver world invocation configuration sequence).run before result after

/-- What comes of the stages up to the query, and the state after the last of them. The stage
that fails is the last. -/
inductive Prepared (start : S) : Except Failure (Configuration × Sequence) → S → Prop where
  | unconfigured {failure : Failure} {after : S}
      (loads : Loads world log invocation start (.error failure) after) :
      Prepared start (.error failure) after
  | wayTagsRefused {configuration : Configuration} {loaded : S} {cause : TagList.SyntaxError}
      (loads : Loads world log invocation start (.ok configuration) loaded)
      (refused : replacedBy invocation.wayTags invocation.network.wayPredicates = .error cause) :
      Prepared start (.error (.wayTags cause)) loaded
  | relationTagsRefused {configuration : Configuration} {loaded : S} {ways : List TagPredicate}
      {cause : TagList.SyntaxError}
      (loads : Loads world log invocation start (.ok configuration) loaded)
      (accepted : replacedBy invocation.wayTags invocation.network.wayPredicates = .ok ways)
      (refused : replacedBy invocation.relationTags invocation.network.relationPredicates
        = .error cause) :
      Prepared start (.error (.relationTags cause)) loaded
  | unlocated {configuration : Configuration} {loaded : S} {query : PresetQuery}
      {failure : Failure} {after : S}
      (loads : Loads world log invocation start (.ok configuration) loaded)
      (accepted : presetQuery invocation = .ok query)
      (locates : Locates world log invocation loaded (.error failure) after) :
      Prepared start (.error failure) after
  | unbuilt {configuration : Configuration} {loaded : S} {query : PresetQuery} {area : QueryArea}
      {located : S} {cause : PresetError} {after : S}
      (loads : Loads world log invocation start (.ok configuration) loaded)
      (accepted : presetQuery invocation = .ok query)
      (locates : Locates world log invocation loaded (.ok area) located)
      (builds : Builds world log configuration query area located (.error cause) after) :
      Prepared start (.error (.query cause)) after
  | built {configuration : Configuration} {loaded : S} {query : PresetQuery} {area : QueryArea}
      {located : S} {sequence : Sequence} {after : S}
      (loads : Loads world log invocation start (.ok configuration) loaded)
      (accepted : presetQuery invocation = .ok query)
      (locates : Locates world log invocation loaded (.ok area) located)
      (builds : Builds world log configuration query area located (.ok sequence) after) :
      Prepared start (.ok (configuration, sequence)) after

/-- What comes of all stages, and the state after the last of them. -/
inductive Course (start : S) : Except Failure Unit → S → Prop where
  | unprepared {failure : Failure} {after : S}
      (prepared : Prepared world log invocation start (.error failure) after) :
      Course start (.error failure) after
  | delivered {configuration : Configuration} {sequence : Sequence} {built : S}
      {result : Except Failure Unit} {after : S}
      (prepared : Prepared world log invocation start (.ok (configuration, sequence)) built)
      (delivers : Delivers world log invocation configuration sequence built result after) :
      Course start result after

end Stages

/-- All stages up to the query, with the configuration that it is delivered under. -/
def prepare {m : Type → Type} [Monad m] (world : World m) (invocation : Invocation) :
    ExceptT Failure m (Configuration × Sequence) := do
  let configuration ← configuration world invocation
  let sequence ← buildSequence world invocation configuration
  return (configuration, sequence)

section Run

variable {S : Type} {world : World (StateM S)} {log : S → List Deed}

/-- A run prepares a query and delivers it. -/
theorem run_eq_prepare_deliver (invocation : Invocation) :
    run world invocation =
      prepare world invocation >>= fun prepared =>
        deliver world invocation prepared.1 prepared.2 := by
  rw [run, prepare]
  simp only [bind_assoc, pure_bind]
  rfl

/-- The list for ways is read first, and the first list that is refused decides. -/
theorem presetQuery_eq (invocation : Invocation) :
    presetQuery invocation =
      match replacedBy invocation.wayTags invocation.network.wayPredicates with
      | .error cause => .error (.wayTags cause)
      | .ok ways =>
          match replacedBy invocation.relationTags invocation.network.relationPredicates with
          | .error cause => .error (.relationTags cause)
          | .ok relations =>
              .ok ⟨ways, relations, invocation.metadata, invocation.format,
                invocation.csvOptions⟩ := by
  rw [presetQuery, PresetQuery.ofNetwork]
  cases replacedBy invocation.wayTags invocation.network.wayPredicates with
  | error cause => rfl
  | ok ways =>
      cases replacedBy invocation.relationTags invocation.network.relationPredicates with
      | error cause => rfl
      | ok relations => rfl

theorem presetQuery_error {invocation : Invocation} {failure : Failure}
    (refused : presetQuery invocation = .error failure) :
    (∃ cause, replacedBy invocation.wayTags invocation.network.wayPredicates = .error cause ∧
        failure = .wayTags cause) ∨
      ∃ ways cause, replacedBy invocation.wayTags invocation.network.wayPredicates = .ok ways ∧
        replacedBy invocation.relationTags invocation.network.relationPredicates = .error cause ∧
        failure = .relationTags cause := by
  rw [presetQuery_eq] at refused
  cases ways : replacedBy invocation.wayTags invocation.network.wayPredicates with
  | error cause =>
      simp only [ways, Except.error.injEq] at refused
      exact .inl ⟨cause, rfl, refused.symm⟩
  | ok accepted =>
      cases relations : replacedBy invocation.relationTags
        invocation.network.relationPredicates with
      | error cause =>
          simp only [ways, relations, Except.error.injEq] at refused
          exact .inr ⟨accepted, cause, rfl, rfl, refused.symm⟩
      | ok others => simp only [ways, relations, reduceCtorEq] at refused

/-! ## Runs and their stages -/

section BuildSequence

variable {invocation : Invocation} {configuration : Configuration} {before located after : S}

theorem buildSequence_refused {failure : Failure}
    (refused : presetQuery invocation = .error failure) :
    (buildSequence world invocation configuration).run.run before = (.error failure, before) := by
  rw [buildSequence, refused]
  rfl

theorem buildSequence_unlocated {query : PresetQuery} {failure : Failure}
    (accepted : presetQuery invocation = .ok query)
    (locating : (queryArea world invocation.area).run.run before = (.error failure, after)) :
    (buildSequence world invocation configuration).run.run before = (.error failure, after) := by
  rw [buildSequence, accepted]
  exact (run_bind_of_ok rfl).trans (run_bind_of_error locating)

theorem buildSequence_located {query : PresetQuery} {area : QueryArea}
    {outcome : Except PresetError Sequence} (accepted : presetQuery invocation = .ok query)
    (locating : (queryArea world invocation.area).run.run before = (.ok area, located))
    (building : (query.build area (configuration.geocoder world.exchange
      fun warning => world.report ("WARN " ++ warning))).run located = (outcome, after)) :
    (buildSequence world invocation configuration).run.run before
      = (outcome.mapError .query, after) := by
  rw [buildSequence, accepted]
  exact (run_bind_of_ok rfl).trans ((run_bind_of_ok locating).trans (run_mapError building))

end BuildSequence

theorem prepared_of_run (records : world.Records log) (invocation : Invocation) {start : S}
    {result : Except Failure (Configuration × Sequence)} {after : S}
    (ran : (prepare world invocation).run.run start = (result, after)) :
    Prepared world log invocation start result after := by
  rw [prepare] at ran
  rcases loading : (configuration world invocation).run.run start with
    ⟨failure | configuration, loaded⟩
  · cases (run_bind_of_error loading).symm.trans ran
    exact .unconfigured (performed_of_emits (configuration_emits records invocation) loading)
  have loads : Loads world log invocation start (.ok configuration) loaded :=
    performed_of_emits (configuration_emits records invocation) loading
  rw [run_bind_of_ok loading] at ran
  cases tagged : presetQuery invocation with
  | error failure =>
      cases (run_bind_of_error (buildSequence_refused tagged)).symm.trans ran
      obtain ⟨cause, refused, rfl⟩ | ⟨ways, cause, accepted, refused, rfl⟩ :=
        presetQuery_error tagged
      · exact .wayTagsRefused loads refused
      · exact .relationTagsRefused loads accepted refused
  | ok query =>
      rcases locating : (queryArea world invocation.area).run.run loaded with
        ⟨failure | area, located⟩
      · cases (run_bind_of_error (buildSequence_unlocated tagged locating)).symm.trans ran
        exact .unlocated loads tagged
          (performed_of_emits (queryArea_emits records invocation.area) locating)
      have locates : Locates world log invocation loaded (.ok area) located :=
        performed_of_emits (queryArea_emits records invocation.area) locating
      rcases building : (query.build area (configuration.geocoder world.exchange
        fun warning => world.report ("WARN " ++ warning))).run located with
        ⟨cause | sequence, built⟩
      · cases (run_bind_of_error (buildSequence_located tagged locating building)).symm.trans ran
        exact .unbuilt loads tagged locates
          (performed_of_emits (PresetQuery.build_emits records configuration query area) building)
      · cases (run_bind_of_ok (buildSequence_located tagged locating building)).symm.trans ran
        exact .built loads tagged locates
          (performed_of_emits (PresetQuery.build_emits records configuration query area) building)

theorem run_of_prepared {invocation : Invocation} {start : S}
    {result : Except Failure (Configuration × Sequence)} {after : S}
    (prepared : Prepared world log invocation start result after) :
    (prepare world invocation).run.run start = (result, after) := by
  rw [prepare]
  cases prepared with
  | unconfigured loads => exact run_bind_of_error loads.ran
  | wayTagsRefused loads refused =>
      have tagged : presetQuery invocation = _ := presetQuery_eq invocation
      simp only [refused] at tagged
      exact (run_bind_of_ok loads.ran).trans (run_bind_of_error (buildSequence_refused tagged))
  | relationTagsRefused loads accepted refused =>
      have tagged : presetQuery invocation = _ := presetQuery_eq invocation
      simp only [accepted, refused] at tagged
      exact (run_bind_of_ok loads.ran).trans (run_bind_of_error (buildSequence_refused tagged))
  | unlocated loads tagged locates =>
      exact (run_bind_of_ok loads.ran).trans
        (run_bind_of_error (buildSequence_unlocated tagged locates.ran))
  | unbuilt loads tagged locates builds =>
      exact (run_bind_of_ok loads.ran).trans
        (run_bind_of_error (buildSequence_located tagged locates.ran builds.ran))
  | built loads tagged locates builds =>
      exact (run_bind_of_ok loads.ran).trans
        (run_bind_of_ok (buildSequence_located tagged locates.ran builds.ran))

/-- **A run takes its course through the stages.** -/
theorem course_of_run (records : world.Records log) (invocation : Invocation) {start : S}
    {result : Except Failure Unit} {after : S}
    (ran : (run world invocation).run.run start = (result, after)) :
    Course world log invocation start result after := by
  rw [run_eq_prepare_deliver] at ran
  rcases preparing : (prepare world invocation).run.run start with
    ⟨failure | ⟨configuration, sequence⟩, built⟩
  · rw [run_bind_of_error preparing] at ran
    cases ran
    exact .unprepared (prepared_of_run records invocation preparing)
  · rw [run_bind_of_ok preparing] at ran
    exact .delivered (prepared_of_run records invocation preparing)
      (performed_of_emits (deliver_emits records invocation configuration sequence) ran)

/-- No run takes another course. -/
theorem run_of_course {invocation : Invocation} {start : S} {result : Except Failure Unit}
    {after : S} (course : Course world log invocation start result after) :
    (run world invocation).run.run start = (result, after) := by
  rw [run_eq_prepare_deliver]
  cases course with
  | unprepared prepared => exact run_bind_of_error (run_of_prepared prepared)
  | delivered prepared delivers =>
      exact (run_bind_of_ok (run_of_prepared prepared)).trans delivers.ran

end Run

/-! ## What is done before delivery -/

section Preparation

variable {S : Type} {world : World (StateM S)} {log : S → List Deed} {invocation : Invocation}

/-- The requests that are sent to prepare a query: at most the search for a place, made under
the configuration that is loaded. -/
inductive Searched (world : World (StateM S)) (log : S → List Deed) (invocation : Invocation)
    (start : S) : List Http.Request → Prop where
  | unsent : Searched world log invocation start []
  | sent {configuration : Configuration} {loaded : S} {name : String} {url : Url}
      (loads : Loads world log invocation start (.ok configuration) loaded)
      (placed : invocation.area = .place name)
      (address : Url.ofText? configuration.geocoderEndpoint = some url) :
      Searched world log invocation start [configuration.searchRequest name url]

/-- The deeds with which a query is prepared: files are looked for and read, lines are reported,
and nothing is sent but the search for a place, once. -/
structure Preparing (world : World (StateM S)) (log : S → List Deed) (invocation : Invocation)
    (start : S) (deeds : List Deed) : Prop where
  prepare : ∀ deed ∈ deeds, deed.IsPreparation
  search : Searched world log invocation start (deeds.filterMap Deed.request?)

theorem Preparing.of_quiet {start : S} {deeds : List Deed}
    (quiet : ∀ deed ∈ deeds, deed.IsQuiet) : Preparing world log invocation start deeds := by
  refine ⟨fun deed done => (quiet deed done).isPreparation, ?_⟩
  rw [Deed.requests_of_quiet quiet]
  exact .unsent

theorem Preparing.after_quiet {start : S} {earlier deeds : List Deed}
    (preparing : Preparing world log invocation start deeds)
    (quiet : ∀ deed ∈ earlier, deed.IsQuiet) :
    Preparing world log invocation start (earlier ++ deeds) := by
  refine ⟨List.forall_mem_append.mpr
    ⟨fun deed done => (quiet deed done).isPreparation, preparing.prepare⟩, ?_⟩
  rw [List.filterMap_append, Deed.requests_of_quiet quiet, List.nil_append]
  exact preparing.search

theorem Loading.quiet {result : Except Failure Configuration} {deeds : List Deed}
    (loading : Loading invocation result deeds) : ∀ deed ∈ deeds, deed.IsQuiet := by
  have quiet : ∀ {path : String}, (∀ deed ∈ deeds, deed.Looks path) →
      ∀ deed ∈ deeds, deed.IsQuiet := fun looks deed done => (looks deed done).isQuiet
  cases loading with
  | standard configuration unnamed => exact nofun
  | file configuration named looks => exact quiet looks
  | failed cause named looks => exact quiet looks

theorem Locating.quiet {request : AreaRequest} {result : Except Failure QueryArea}
    {deeds : List Deed} (locating : Locating request result deeds) :
    ∀ deed ∈ deeds, deed.IsQuiet := by
  cases locating with
  | boundingBox | radius | place => exact nofun
  | polygon | unreadable | unusable => exact List.forall_mem_singleton.mpr trivial

/-- An area is a place only if it was stated as one. -/
theorem Locating.place_eq {request : AreaRequest} {name : String} {deeds : List Deed}
    (locating : Locating request (.ok (.place name)) deeds) : request = .place name := by
  cases locating
  rfl

theorem Searching.preparing {start loaded : S} {configuration : Configuration}
    {area : QueryArea} {read deeds : List Deed} (searching : Searching configuration area deeds)
    (loads : Loads world log invocation start (.ok configuration) loaded)
    (locating : Locating invocation.area (.ok area) read) :
    Preparing world log invocation start deeds := by
  cases searching with
  | unsent => exact .of_quiet nofun
  | @sent lines name url address =>
      have quiet : ∀ deed ∈ lines.map Deed.reported, deed.IsQuiet :=
        List.forall_mem_map.mpr fun _ _ => trivial
      refine ⟨List.forall_mem_cons.mpr
        ⟨rfl, fun deed done => (quiet deed done).isPreparation⟩, ?_⟩
      show Searched world log invocation start (_ :: (lines.map Deed.reported).filterMap _)
      rw [Deed.requests_of_quiet quiet]
      exact .sent loads locating.place_eq address

/-- **A query is prepared without any delivery.** -/
theorem Prepared.preparing {start : S} {result : Except Failure (Configuration × Sequence)}
    {after : S} (prepared : Prepared world log invocation start result after) :
    ∃ deeds, log after = log start ++ deeds ∧ Preparing world log invocation start deeds := by
  have onlyLoads : ∀ {result : Except Failure Configuration} {loaded : S},
      Loads world log invocation start result loaded →
      ∃ deeds, log loaded = log start ++ deeds ∧ Preparing world log invocation start deeds := by
    rintro result loaded ⟨-, deeds, added, loading⟩
    exact ⟨deeds, added, .of_quiet loading.quiet⟩
  have toBuild : ∀ {configuration : Configuration} {query : PresetQuery} {area : QueryArea}
      {loaded located : S} {outcome : Except PresetError Sequence},
      Loads world log invocation start (.ok configuration) loaded →
      Locates world log invocation loaded (.ok area) located →
      Builds world log configuration query area located outcome after →
      ∃ deeds, log after = log start ++ deeds ∧ Preparing world log invocation start deeds := by
    intro configuration query area loaded located outcome loads locates builds
    obtain ⟨looked, addedLooked, loading⟩ := loads.added
    obtain ⟨read, addedRead, locating⟩ := locates.added
    obtain ⟨searched, addedSearched, searching⟩ := builds.added
    refine ⟨looked ++ (read ++ searched), ?_, ?_⟩
    · rw [addedSearched, addedRead, addedLooked, List.append_assoc, List.append_assoc]
    · exact ((searching.preparing loads locating).after_quiet locating.quiet).after_quiet
        loading.quiet
  cases prepared with
  | unconfigured loads => exact onlyLoads loads
  | wayTagsRefused loads refused => exact onlyLoads loads
  | relationTagsRefused loads accepted refused => exact onlyLoads loads
  | unlocated loads accepted locates =>
      obtain ⟨looked, addedLooked, loading⟩ := loads.added
      obtain ⟨read, addedRead, locating⟩ := locates.added
      refine ⟨looked ++ read, ?_, (Preparing.of_quiet locating.quiet).after_quiet loading.quiet⟩
      rw [addedRead, addedLooked, List.append_assoc]
  | unbuilt loads accepted locates builds => exact toBuild loads locates builds
  | built loads accepted locates builds => exact toBuild loads locates builds

/-- What is told of a query is quiet. -/
theorem told_quiet (invocation : Invocation) (sequence : Sequence) :
    ∀ deed ∈ told invocation sequence, deed.IsQuiet := by
  rw [told]
  cases invocation.isVerbose with
  | false => exact List.forall_mem_nil _
  | true => exact List.forall_mem_singleton.mpr trivial

/-- What is done in a run: a query is prepared, and it is delivered if it can be built. -/
theorem Course.deeds {start : S} {result : Except Failure Unit} {after : S}
    (course : Course world log invocation start result after) :
    ∃ earlier later, log after = log start ++ (earlier ++ later) ∧
      Preparing world log invocation start earlier ∧
      (later = [] ∧ (∃ failure, Prepared world log invocation start (.error failure) after) ∨
        ∃ configuration sequence built,
          Prepared world log invocation start (.ok (configuration, sequence)) built ∧
            Delivering invocation configuration sequence result later) := by
  cases course with
  | unprepared prepared =>
      obtain ⟨earlier, added, preparing⟩ := prepared.preparing
      refine ⟨earlier, [], ?_, preparing, .inl ⟨rfl, _, prepared⟩⟩
      rw [List.append_nil, added]
  | delivered prepared delivers =>
      obtain ⟨earlier, added, preparing⟩ := prepared.preparing
      obtain ⟨later, addedLater, delivering⟩ := delivers.added
      refine ⟨earlier, later, ?_, preparing, .inr ⟨_, _, _, prepared, delivering⟩⟩
      rw [addedLater, added, List.append_assoc]

end Preparation

end Program

end OverpassQuery

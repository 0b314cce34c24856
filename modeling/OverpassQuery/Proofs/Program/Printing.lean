import OverpassQuery.Proofs.Program.Stages
import OverpassQuery.Proofs.Program.Worlds

/-!
# Printing and submitting

The program is called with the words of a command line, in any world, and everything that it
does is recorded (`Program.deedsOf`).

* It goes through its stages in order, and the first that fails decides its exit
  (`Program.Course`, `Program.exit`).
* Unless a query is built and is not to be printed, the engine gets no request and no file is
  written (`Program.Undelivered`).
* Two calls that only differ in whether the query is to be printed agree on the query, if files
  and search results are the same (`World.Alike`): the one prints what the other posts.

All of it is put together in `Program.execute_stage_by_stage`.
-/

set_option autoImplicit false

namespace OverpassQuery

namespace Program

/-! ## The same query -/

section Alike

variable {S T : Type} {alike : S → T → Prop} {world : World (StateM S)} {other : World (StateM T)}
  {log : S → List Deed} {invocation : Invocation}

/-- **Worlds that look alike build the same query.** -/
theorem prepare_found (same : World.Alike alike invocation.area world other) {start : S}
    {otherStart : T} (related : alike start otherStart) {built : Configuration × Sequence}
    {after : S} (prepared : Prepared world log invocation start (.ok built) after) :
    ∃ otherAfter, (prepare other invocation).run.run otherStart = (.ok built, otherAfter) := by
  cases prepared with
  | @built configuration loaded query area located sequence after loads accepted locates builds =>
      obtain ⟨otherLoaded, loading, relatedLoaded⟩ :=
        (configuration_simulates same.files invocation).run_eq related loads.ran
      obtain ⟨otherLocated, locating, relatedLocated⟩ :=
        (queryArea_simulates same.files invocation.area).run_eq relatedLoaded locates.ran
      have placed : ∀ name, area = .place name → invocation.area = .place name := by
        rintro name rfl
        obtain ⟨_, _, stated⟩ := locates.added
        exact stated.place_eq
      have building := query.build_found same configuration placed relatedLocated
        (fun warning => world.report ("WARN " ++ warning))
        (fun warning => other.report ("WARN " ++ warning)) (congrArg Prod.fst builds.ran)
      exact ⟨_, (run_bind_of_ok loading).trans (run_bind_of_ok
        (buildSequence_located accepted locating (Prod.ext building rfl)))⟩

end Alike

/-! ## From the command line to the exit status -/

section Execute

variable {S : Type}

/-- What is told at the end of a run, and its exit status. -/
def exit {m : Type → Type} [Monad m] (world : World m) : Except Failure Unit → m Nat
  | .ok () => return 0
  | .error failure => do
      world.report failure.report
      return failure.exitStatus

theorem execute_eq (world : World (StateM S)) {environment : Option String} {words : List String}
    {invocation : Invocation} (accepted : CommandLine.read environment words = .ok invocation) :
    execute world environment words = (run world invocation).run >>= exit world := by
  rw [execute, accepted]
  refine bind_congr fun result => ?_
  cases result with
  | error failure => rfl
  | ok done => rfl

/-- The end of a run only reports. -/
theorem exit_emits {log : S → List Deed} {world : World (StateM S)} (records : world.Records log)
    (result : Except Failure Unit) :
    Emits log (fun _ deeds => ∀ deed ∈ deeds, deed.IsQuiet) (exit world result) := by
  cases result with
  | ok done => exact .pure nofun
  | error failure =>
      refine (records.report failure.report).bind fun _ => .pure ?_
      rintro _ rfl
      exact List.forall_mem_singleton.mpr trivial

variable (world : World (StateM S)) (environment : Option String) (words : List String)

/-- What the program does when it is called from some state. -/
def deedsOf (start : S) : List Deed :=
  ((execute world.recorded environment words).run (start, [])).2.2

variable {world environment words} {invocation : Invocation}

/-- What is done in a run is to prepare a query, to deliver it if it can be built, and to
report. -/
theorem deedsOf_eq (accepted : CommandLine.read environment words = .ok invocation) (start : S) :
    ∃ result after earlier later lastly,
      deedsOf world environment words start = earlier ++ later ++ lastly ∧
      Preparing world.recorded Prod.snd invocation (start, []) earlier ∧
      (later = [] ∧ (∃ failure,
          Prepared world.recorded Prod.snd invocation (start, []) (.error failure) after) ∨
        ∃ configuration sequence built,
          Prepared world.recorded Prod.snd invocation (start, []) (.ok (configuration, sequence))
              built ∧
            Delivering invocation configuration sequence result later) ∧
      ∀ deed ∈ lastly, deed.IsQuiet := by
  have course : Course world.recorded Prod.snd invocation (start, []) _ _ :=
    course_of_run world.recorded_records invocation rfl
  obtain ⟨earlier, later, added, preparing, delivering⟩ := course.deeds
  obtain ⟨lastly, addedLastly, quiet⟩ := exit_emits world.recorded_records _ _
  refine ⟨_, _, earlier, later, lastly, ?_, preparing, delivering, quiet⟩
  rw [deedsOf, execute_eq world.recorded accepted, StateT.run_bind]
  rw [← List.nil_append (earlier ++ later)]
  exact addedLastly.trans (congrArg (· ++ lastly) added)

/-- Whatever is done in a run prepares a query, or delivers one that is built. -/
theorem mem_deedsOf (accepted : CommandLine.read environment words = .ok invocation) {start : S}
    {deed : Deed} (done : deed ∈ deedsOf world environment words start) :
    deed.IsPreparation ∨ ∃ configuration sequence built,
      Prepared world.recorded Prod.snd invocation (start, []) (.ok (configuration, sequence))
          built ∧
        (invocation.printsQuery = true ∧ deed = .printed (Utf8.encode (sequence.text ++ "\n")) ∨
          invocation.printsQuery = false ∧
            Submits configuration sequence invocation.output deed) := by
  obtain ⟨result, after, earlier, later, lastly, deeds, preparing, delivering, quiet⟩ :=
    deedsOf_eq accepted start
  rw [deeds, List.mem_append, List.mem_append] at done
  obtain (early | late) | last := done
  · exact .inl (preparing.prepare deed early)
  · obtain ⟨rfl, -⟩ | ⟨configuration, sequence, built, prepared, delivering⟩ := delivering
    · cases late
    cases delivering with
    | printed asked fails =>
        rw [List.mem_append, List.mem_singleton] at late
        obtain telling | same := late
        · exact .inl (told_quiet invocation sequence deed telling).isPreparation
        · exact .inr ⟨configuration, sequence, built, prepared, .inl ⟨asked, same⟩⟩
    | submitted unasked submits fails =>
        rw [List.mem_append] at late
        obtain telling | submitting := late
        · exact .inl (told_quiet invocation sequence deed telling).isPreparation
        · exact .inr ⟨configuration, sequence, built, prepared,
            .inr ⟨unasked, submits deed submitting⟩⟩
  · exact .inl (quiet deed last).isPreparation

/-- A run that prints its query does print it, if it can be built. -/
theorem printed_mem_deedsOf (accepted : CommandLine.read environment words = .ok invocation)
    {start : S} (prints : invocation.printsQuery = true) {configuration : Configuration}
    {sequence : Sequence} {built : S × List Deed}
    (prepared : Prepared world.recorded Prod.snd invocation (start, [])
      (.ok (configuration, sequence)) built) :
    .printed (Utf8.encode (sequence.text ++ "\n")) ∈ deedsOf world environment words start := by
  obtain ⟨result, after, earlier, later, lastly, deeds, -, delivering, -⟩ :=
    deedsOf_eq accepted start
  rw [deeds, List.mem_append, List.mem_append]
  refine .inl (.inr ?_)
  have ran := run_of_prepared prepared
  obtain ⟨-, failure, failed⟩ | ⟨otherConfiguration, otherSequence, otherBuilt, otherPrepared,
    delivering⟩ := delivering
  · cases ran.symm.trans (run_of_prepared failed)
  cases ran.symm.trans (run_of_prepared otherPrepared)
  cases delivering with
  | printed asked fails => exact List.mem_append_right _ (List.mem_singleton_self _)
  | submitted unasked submits fails =>
      rw [prints] at unasked
      cases unasked

/-- What is posted by a run is the query, once it is built. -/
theorem posted_query (accepted : CommandLine.read environment words = .ok invocation) {start : S}
    {request : Http.Request} (posts : request.method = .post)
    (sent : .sent request ∈ deedsOf world environment words start) :
    ∃ configuration sequence built,
      Prepared world.recorded Prod.snd invocation (start, []) (.ok (configuration, sequence))
          built ∧
        request.body = Utf8.encode sequence.text := by
  obtain got | ⟨configuration, sequence, built, prepared, ⟨-, printed⟩ | ⟨-, submits⟩⟩ :=
    mem_deedsOf accepted sent
  · cases got.symm.trans posts
  · cases printed
  · refine ⟨configuration, sequence, built, prepared, ?_⟩
    cases submits with
    | asked address => cases posts
    | posted address => rfl

/-- What is printed by a run that prints its query is the query, once it is built. -/
theorem printed_query (accepted : CommandLine.read environment words = .ok invocation) {start : S}
    (prints : invocation.printsQuery = true) {content : Bytes}
    (printed : .printed content ∈ deedsOf world environment words start) :
    ∃ configuration sequence built,
      Prepared world.recorded Prod.snd invocation (start, []) (.ok (configuration, sequence))
          built ∧
        content = Utf8.encode (sequence.text ++ "\n") := by
  obtain impossible | ⟨configuration, sequence, built, prepared, ⟨-, same⟩ | ⟨unasked, -⟩⟩ :=
    mem_deedsOf accepted printed
  · exact impossible.elim
  · exact ⟨configuration, sequence, built, prepared, Deed.printed.inj same⟩
  · cases prints.symm.trans unasked

/-! ## Nothing is delivered too early -/

/-- Deeds among which there is no delivery: nothing is sent but the search for a place, once,
and no file is written. -/
structure Undelivered (world : World (StateM S)) (log : S → List Deed) (invocation : Invocation)
    (start : S) (deeds : List Deed) : Prop where
  search : Searched world log invocation start (deeds.filterMap Deed.request?)
  unwritten : ∀ path content, .wrote path content ∉ deeds

/-- Printing does not deliver anything to the engine or to a file. -/
theorem Preparing.undelivered {log : S → List Deed} {start : S} {earlier later : List Deed}
    (preparing : Preparing world log invocation start earlier)
    (shown : ∀ deed ∈ later, deed.IsQuiet ∨ ∃ content, deed = .printed content) :
    Undelivered world log invocation start (earlier ++ later) := by
  have unsent : later.filterMap Deed.request? = [] := by
    refine List.filterMap_eq_nil_iff.mpr fun deed done => ?_
    obtain quiet | ⟨content, rfl⟩ := shown deed done
    · exact quiet.request?_eq
    · rfl
  refine ⟨?_, fun path content done => ?_⟩
  · rw [List.filterMap_append, unsent, List.append_nil]
    exact preparing.search
  · obtain early | late := List.mem_append.mp done
    · exact preparing.prepare _ early
    · obtain quiet | ⟨content, ⟨⟩⟩ := shown _ late
      exact quiet

theorem submitted_or_undelivered
    (accepted : CommandLine.read environment words = .ok invocation) (start : S) :
    (invocation.printsQuery = false ∧ ∃ prepared built,
        Prepared world.recorded Prod.snd invocation (start, []) (.ok prepared) built) ∨
      Undelivered world.recorded Prod.snd invocation (start, [])
        (deedsOf world environment words start) := by
  obtain ⟨result, after, earlier, later, lastly, deeds, preparing, delivering, quiet⟩ :=
    deedsOf_eq accepted start
  rw [deeds, List.append_assoc]
  obtain ⟨rfl, -⟩ | ⟨configuration, sequence, built, prepared, delivering⟩ := delivering
  · exact .inr (preparing.undelivered fun deed done => .inl (quiet deed done))
  cases delivering with
  | submitted unasked submits fails => exact .inl ⟨unasked, _, _, prepared⟩
  | printed asked fails =>
      refine .inr (preparing.undelivered fun deed done => ?_)
      rw [List.mem_append, List.mem_append, List.mem_singleton] at done
      obtain (telling | printed) | last := done
      · exact .inl (told_quiet invocation sequence deed telling)
      · exact .inr ⟨_, printed⟩
      · exact .inl (quiet deed last)

end Execute

/-! ## The theorem -/

/-- **The program goes through its stages in order, and prints what it would submit.** -/
theorem execute_stage_by_stage {S : Type} (world : World (StateM S)) {environment : Option String}
    {words : List String} {invocation : Invocation}
    (accepted : CommandLine.read environment words = .ok invocation) (start : S) :
    let recorded := (execute world.recorded environment words).run (start, [])
    (execute world environment words).run start = (recorded.1, recorded.2.1) ∧
    (∃ result after, Course world.recorded Prod.snd invocation (start, []) result after ∧
      (∀ other otherAfter, Course world.recorded Prod.snd invocation (start, []) other otherAfter →
        other = result ∧ otherAfter = after) ∧
      recorded = (exit world.recorded result).run after) ∧
    ((invocation.printsQuery = false ∧ ∃ prepared built,
        Prepared world.recorded Prod.snd invocation (start, []) (.ok prepared) built) ∨
      Undelivered world.recorded Prod.snd invocation (start, [])
        (deedsOf world environment words start)) ∧
    ∀ {T : Type} {alike : S → T → Prop} {other : World (StateM T)}
      {otherEnvironment : Option String} {otherWords : List String} {otherStart : T},
      invocation.printsQuery = true →
      CommandLine.read otherEnvironment otherWords
        = .ok { invocation with printsQuery := false } →
      World.Alike alike invocation.area world other → alike start otherStart →
      ∀ request, .sent request ∈ deedsOf other otherEnvironment otherWords otherStart →
        request.method = .post →
        ∀ content, .printed content ∈ deedsOf world environment words start ↔
          content = request.body ++ Utf8.encode "\n" := by
  intro recorded
  refine ⟨?_, ?_, submitted_or_undelivered accepted start, ?_⟩
  · obtain ⟨status, state⟩ :=
      execute_mirrored world.recorded_mirrors environment words (start, []) start rfl
    exact Prod.ext status.symm state.symm
  · refine ⟨_, _, course_of_run world.recorded_records invocation rfl, ?_, ?_⟩
    · intro other otherAfter course
      exact Prod.ext_iff.mp (run_of_course course).symm
    · show (execute world.recorded environment words).run (start, []) = _
      rw [execute_eq world.recorded accepted]
      rfl
  · intro T alike other otherEnvironment otherWords otherStart prints otherAccepted same related
      request sent posts content
    obtain ⟨configuration, sequence, otherBuilt, otherPrepared, body⟩ :=
      posted_query otherAccepted posts sent
    -- The query that is posted there is also built here: what is asked for matters only later.
    have turned : World.Alike (World.AlikeBeside (Function.swap alike))
        { invocation with printsQuery := false }.area other.recorded world.recorded :=
      same.symm.recorded
    obtain ⟨built, ran⟩ := prepare_found turned
      (show World.AlikeBeside (Function.swap alike) (otherStart, []) (start, []) from related)
      otherPrepared
    have prepared : Prepared world.recorded Prod.snd invocation (start, [])
        (.ok (configuration, sequence)) built :=
      prepared_of_run world.recorded_records invocation ran
    rw [body, ← Utf8.encode_append]
    constructor
    · intro printed
      obtain ⟨_, _, _, alsoPrepared, rfl⟩ := printed_query accepted prints printed
      cases (run_of_prepared prepared).symm.trans (run_of_prepared alsoPrepared)
      rfl
    · rintro rfl
      exact printed_mem_deedsOf accepted prints prepared

end Program

/-! ## An instance -/

deriving instance DecidableEq for AreaRequest

deriving instance DecidableEq for Invocation

/-- A world without files, in which requests are answered as stated. -/
def World.answering (answer : Http.Request → Except String Response) : World (StateM Unit) where
  storage :=
    { isFile := fun _ => return false
      read := fun _ => return .error .notFound
      write := fun _ _ => return .ok () }
  exchange request := return answer request
  pause _ := return ()
  print _ := return .ok ()
  report _ := return ()

/-- An invocation that asks for a query to be printed. -/
def printedRadius : Invocation where
  configurationFile := none
  network := .drive
  wayTags := some "a"
  relationTags := some "b"
  format := .xml
  csvOptions := none
  metadata := false
  maxAttempts := none
  output := Invocation.standardOutput
  printsQuery := true
  isVerbose := false
  area := .radius .zero ⟨.zero, .zero⟩

/-- What is printed where no server can be reached is what is posted where all are at work. -/
theorem radius_printed_as_posted :
    let words := ["--way-tags", "a", "--relation-tags", "b", "radius", "--radius", "0",
      "--lat", "0", "--lon", "0"]
    let body := Utf8.encode ("[out:xml];(way[\"a\"](around:0,0.00,0.00);<;"
      ++ "relation[\"b\"](around:0,0.00,0.00);<;)->._;out body;")
    .printed (body ++ Utf8.encode "\n") ∈ Program.deedsOf
      (.answering fun _ => .error "no server can be reached") none
      ("--print-query" :: words) () := by
  intro words body
  have accepted : CommandLine.read none ("--print-query" :: words) = .ok printedRadius := by
    decide +kernel
  have otherAccepted : CommandLine.read none words
      = .ok { printedRadius with printsQuery := false } := by decide +kernel
  let posted : Http.Request :=
    ⟨.post, ⟨.https, "overpass-api.de", 443, "/api/interpreter", ""⟩, "osmquery/0.1.0",
      some "text/plain; charset=utf-8", body⟩
  have sent : .sent posted ∈ Program.deedsOf (.answering fun _ => .ok ⟨200, []⟩) none words () := by
    decide +kernel
  have same : World.Alike (fun _ _ => True) printedRadius.area
      (.answering fun _ => .error "no server can be reached") (.answering fun _ => .ok ⟨200, []⟩) :=
    { files := ⟨fun _ => .pure rfl, fun _ => .pure rfl⟩
      found := nofun }
  exact ((Program.execute_stage_by_stage (.answering fun _ => .error "no server can be reached")
    accepted ()).2.2.2 rfl otherAccepted same trivial posted sent rfl _).mpr rfl

end OverpassQuery

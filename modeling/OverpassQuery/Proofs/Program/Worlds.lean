import OverpassQuery.Proofs.Preset.Shape
import OverpassQuery.Proofs.Program.Deeds

/-!
# Worlds side by side

The program is written for any world, so it cannot tell two worlds apart that go side by side.

* In worlds with the same files (`World.SameFiles`) the configuration and the area are the same.
* In worlds that look alike (`World.Alike`) a search for a place finds the same too, and so the
  same query is built (`PresetQuery.build_found`). They need not be alike in anything else. It
  does not matter what the servers answer to other requests, and once a place is found nothing
  relates the states any more.
* In worlds of which one mirrors the other (`World.Mirrors`) the whole program does the same
  (`Program.execute_mirrored`). A world with a log mirrors the one without it
  (`World.recorded_mirrors`), so to record what a program does changes nothing.
-/

set_option autoImplicit false

namespace OverpassQuery

section Worlds

variable {S T : Type}

/-! ## The same files -/

/-- Worlds with the same files, to look for and to read. -/
structure World.SameFiles (states : S → T → Prop) (world : World (StateM S))
    (other : World (StateM T)) : Prop where
  isFile : ∀ path, Simulates states Eq (world.storage.isFile path) (other.storage.isFile path)
  read : ∀ path, Simulates states Eq (world.storage.read path) (other.storage.read path)

section SameFiles

variable {states : S → T → Prop} {world : World (StateM S)} {other : World (StateM T)}

namespace Configuration

theorem firstFile_simulates (same : World.SameFiles states world other)
    (candidates : List (String × DataFormat)) :
    Simulates states Eq (firstFile world.storage candidates)
      (firstFile other.storage candidates) := by
  induction candidates with
  | nil => exact .pure rfl
  | cons candidate rest ih =>
      rw [firstFile, firstFile]
      refine (same.isFile candidate.1).bind ?_
      rintro there _ rfl
      cases there with
      | true => exact .pure rfl
      | false => exact ih

theorem findFile_simulates (same : World.SameFiles states world other) (path : String) :
    Simulates states Eq (findFile world.storage path) (findFile other.storage path) := by
  rw [findFile, findFile]
  refine (same.isFile path).bind ?_
  rintro there _ rfl
  cases there with
  | true =>
      simp only [if_true]
      cases DataFormat.extensions.lookup (extension path) with
      | none => exact .pure rfl
      | some format => exact .pure rfl
  | false =>
      refine (firstFile_simulates same _).bind ?_
      rintro found _ rfl
      cases found with
      | none => exact .pure rfl
      | some entry => exact .pure rfl

theorem load_simulates (same : World.SameFiles states world other) (path : String) :
    Simulates states Eq (load world.storage path) (load other.storage path) := by
  refine (findFile_simulates same path).bind ?_
  rintro found _ rfl
  cases found with
  | error cause => exact .pure rfl
  | ok entry =>
      refine (same.read entry.1).bind ?_
      rintro content _ rfl
      cases content with
      | error cause => exact .pure rfl
      | ok content => exact .pure rfl

end Configuration

namespace Program

theorem configuration_simulates (same : World.SameFiles states world other)
    (invocation : Invocation) :
    Simulates states Eq (configuration world invocation).run
      (configuration other invocation).run := by
  rw [configuration, configuration]
  cases invocation.configurationFile with
  | none => exact .pure rfl
  | some path =>
      exact ((Configuration.load_simulates same path).mapError
        (Failure.configuration path)).exceptT_bind fun _ => .pure rfl

theorem queryArea_simulates (same : World.SameFiles states world other) (area : AreaRequest) :
    Simulates states Eq (queryArea world area).run (queryArea other area).run := by
  cases area with
  | boundingBox box => exact .pure rfl
  | radius radius center => exact .pure rfl
  | place name => exact .pure rfl
  | polygonFile path =>
      refine (same.read path).bind ?_
      rintro content _ rfl
      cases content with
      | error cause => exact .pure rfl
      | ok content => exact .pure rfl

end Program

end SameFiles

/-! ## The same places -/

/-- Worlds that cannot be told apart before a query is built: the files are the same, and so is
what a search for the place of an area finds. -/
structure World.Alike (alike : S → T → Prop) (area : AreaRequest) (world : World (StateM S))
    (other : World (StateM T)) : Prop where
  files : World.SameFiles alike world other
  found : ∀ {name : String}, area = .place name → ∀ (configuration : Configuration) (url : Url)
    {state : S} {otherState : T}, alike state otherState →
      ((world.exchange (configuration.searchRequest name url)).run state).1.toOption
        = ((other.exchange (configuration.searchRequest name url)).run otherState).1.toOption

section Alike

variable {alike : S → T → Prop} {area : AreaRequest} {world : World (StateM S)}
  {other : World (StateM T)}

/-- To look alike is mutual. -/
theorem World.Alike.symm (same : World.Alike alike area world other) :
    World.Alike (Function.swap alike) area other world where
  files := ⟨fun path => (same.files.isFile path).flip, fun path => (same.files.read path).flip⟩
  found placed configuration url _ _ related := (same.found placed configuration url related).symm

/-- States that are alike, beside any logs. -/
def World.AlikeBeside (alike : S → T → Prop) (states : S × List Deed) (others : T × List Deed) :
    Prop :=
  alike states.1 others.1

theorem World.Alike.recorded (same : World.Alike alike area world other) :
    World.Alike (World.AlikeBeside alike) area world.recorded other.recorded where
  files :=
    { isFile := fun path states others related =>
        same.files.isFile path states.1 others.1 related
      read := fun path states others related => same.files.read path states.1 others.1 related }
  found placed configuration url _ _ related := same.found placed configuration url related

theorem Configuration.geocoder_run_fst (configuration : Configuration)
    (exchange : Http.Exchange (StateM S)) (warn : String → StateM S Unit) (name : String)
    (state : S) :
    ((configuration.geocoder exchange warn name).run state).1 =
      located name ((Http.send exchange configuration.geocoderEndpoint
        (configuration.searchRequest name)).run state).1 := rfl

theorem Http.send_eq_ok_iff {exchange : Http.Exchange (StateM S)} {endpoint : String}
    {request : Url → Http.Request} {state : S} {response : Response} :
    ((Http.send exchange endpoint request).run state).1 = .ok response ↔
      ∃ url, Url.ofText? endpoint = some url ∧
        ((exchange (request url)).run state).1.toOption = some response := by
  rw [Http.send]
  cases Url.ofText? endpoint with
  | none =>
      constructor
      · rintro ⟨⟩
      · rintro ⟨url, ⟨⟩, -⟩
  | some url =>
      have toOption : ((exchange (request url)).run state).1.toOption = some response ↔
          ((exchange (request url)).run state).1 = .ok response := by
        cases ((exchange (request url)).run state).1 with
        | error message => simp only [Except.toOption, reduceCtorEq]
        | ok answer => simp only [Except.toOption, Option.some.injEq, Except.ok.injEq]
      show ((exchange (request url)).run state).1.mapError _ = .ok response ↔ _
      rw [mapError_eq_ok_iff, ← toOption]
      constructor
      · exact fun answered => ⟨url, rfl, answered⟩
      · rintro ⟨_, ⟨⟩, answered⟩
        exact answered

/-- A place that is found is also found in a world that looks alike. -/
theorem Configuration.geocoder_found (same : World.Alike alike area world other)
    (configuration : Configuration) {name : String} (placed : area = .place name) {state : S}
    {otherState : T} (related : alike state otherState) (warn : String → StateM S Unit)
    (otherWarn : String → StateM T Unit) {ring : Ring}
    (found : ((configuration.geocoder world.exchange warn name).run state).1 = .ok ring) :
    ((configuration.geocoder other.exchange otherWarn name).run otherState).1 = .ok ring := by
  rw [geocoder_run_fst] at found ⊢
  cases answered : ((Http.send world.exchange configuration.geocoderEndpoint
    (configuration.searchRequest name)).run state).1 with
  | error failure =>
      rw [answered] at found
      cases found
  | ok response =>
      obtain ⟨url, address, answer⟩ := Http.send_eq_ok_iff.mp answered
      have alsoAnswered := Http.send_eq_ok_iff.mpr ⟨url, address,
        (same.found placed configuration url related).symm.trans answer⟩
      rw [alsoAnswered, ← answered]
      exact found

/-- A query that is built is also built in a world that looks alike. -/
theorem PresetQuery.build_found (same : World.Alike alike area world other)
    (configuration : Configuration) (query : PresetQuery) {located : QueryArea}
    (placed : ∀ name, located = .place name → area = .place name) {state : S} {otherState : T}
    (related : alike state otherState) (warn : String → StateM S Unit)
    (otherWarn : String → StateM T Unit) {sequence : Sequence}
    (built : ((query.build located (configuration.geocoder world.exchange warn)).run state).1
      = .ok sequence) :
    ((query.build located (configuration.geocoder other.exchange otherWarn)).run otherState).1
      = .ok sequence := by
  cases located with
  | boundingBox box => exact built
  | radius radius center => exact built
  | polygon rings => exact built
  | place name =>
      rw [build_place] at built ⊢
      cases found : ((configuration.geocoder world.exchange warn name).run state).1 with
      | error cause =>
          rw [found] at built
          cases built
      | ok ring =>
          rw [configuration.geocoder_found same (placed name rfl) related warn otherWarn found,
            ← found]
          exact built

end Alike

/-! ## The same in all -/

/-- Worlds of which one mirrors the other in all operations. -/
structure World.Mirrors (states : S → T → Prop) (world : World (StateM S))
    (other : World (StateM T)) : Prop where
  files : World.SameFiles states world other
  write : ∀ path content, Simulates states Eq (world.storage.write path content)
    (other.storage.write path content)
  exchange : ∀ request, Simulates states Eq (world.exchange request) (other.exchange request)
  pause : ∀ seconds, Simulates states Eq (world.pause seconds) (other.pause seconds)
  print : ∀ content, Simulates states Eq (world.print content) (other.print content)
  report : ∀ line, Simulates states Eq (world.report line) (other.report line)

theorem recording_simulates {α : Type} (deed : Deed) (act : StateM S α) :
    Simulates (fun states state => states.1 = state) Eq (recording deed act) act := by
  rintro states _ rfl
  exact ⟨rfl, rfl⟩

/-- A world with a log mirrors the one without it. -/
theorem World.recorded_mirrors (world : World (StateM S)) :
    World.Mirrors (fun states state => states.1 = state) world.recorded world where
  files := ⟨fun _ => recording_simulates _ _, fun _ => recording_simulates _ _⟩
  write _ _ := recording_simulates _ _
  exchange _ := recording_simulates _ _
  pause _ := recording_simulates _ _
  print _ := recording_simulates _ _
  report _ := recording_simulates _ _

section Mirrors

variable {states : S → T → Prop} {world : World (StateM S)} {other : World (StateM T)}

theorem Http.send_simulates (mirrors : World.Mirrors states world other) (endpoint : String)
    (request : Url → Http.Request) :
    Simulates states Eq (Http.send world.exchange endpoint request)
      (Http.send other.exchange endpoint request) := by
  rw [Http.send, Http.send]
  cases Url.ofText? endpoint with
  | none => exact .pure rfl
  | some url =>
      refine (mirrors.exchange (request url)).bind ?_
      rintro outcome _ rfl
      exact .pure rfl

theorem PresetQuery.build_simulates (mirrors : World.Mirrors states world other)
    (configuration : Configuration) (query : PresetQuery) (area : QueryArea) :
    Simulates states Eq
      (query.build area (configuration.geocoder world.exchange
        fun warning => world.report ("WARN " ++ warning)))
      (query.build area (configuration.geocoder other.exchange
        fun warning => other.report ("WARN " ++ warning))) := by
  cases area with
  | boundingBox box => exact .pure rfl
  | radius radius center => exact .pure rfl
  | polygon rings => exact .pure rfl
  | place name =>
      have searched : Simulates states Eq
          (configuration.geocoder world.exchange
            (fun warning => world.report ("WARN " ++ warning)) name)
          (configuration.geocoder other.exchange
            (fun warning => other.report ("WARN " ++ warning)) name) := by
        refine (Http.send_simulates mirrors configuration.geocoderEndpoint _).bind ?_
        rintro outcome _ rfl
        exact (Simulates.forM (fun warning => mirrors.report ("WARN " ++ warning)) _).bind
          fun _ _ _ => .pure rfl
      refine searched.bind ?_
      rintro found _ rfl
      cases found with
      | error cause => exact .pure rfl
      | ok ring => exact .pure rfl

namespace Program

theorem client_mirrored (mirrors : World.Mirrors states world other)
    (configuration : Configuration) :
    Client.Beside id states (configuration.client world.exchange world.pause)
      (configuration.client other.exchange other.pause) where
  status := by
    refine (Http.send_simulates mirrors configuration.statusEndpoint _).mono ?_
    rintro outcome _ rfl
    exact .refl outcome
  pause := mirrors.pause configuration.retryInterval
  maxAttempts := rfl

theorem posted_mirrored (mirrors : World.Mirrors states world other)
    (configuration : Configuration) (query : String) :
    Simulates states (Agree id)
      ((configuration.client world.exchange world.pause).transport.interpret query)
      ((configuration.client other.exchange other.pause).transport.interpret query) := by
  refine (Http.send_simulates mirrors configuration.interpreterEndpoint _).mono ?_
  rintro outcome _ rfl
  exact .refl outcome

theorem print_simulates (mirrors : World.Mirrors states world other)
    (failed : FileError → Failure) (content : Bytes) :
    Simulates states Eq (print world failed content).run (print other failed content).run :=
  (mirrors.print content).mapError failed

theorem submit_simulates (mirrors : World.Mirrors states world other)
    (configuration : Configuration) (sequence : Sequence) (output : String) :
    Simulates states Eq (submit world configuration sequence output).run
      (submit other configuration sequence output).run := by
  have beside := client_mirrored mirrors configuration
  have posted := posted_mirrored mirrors configuration sequence.text
  rw [submit, submit]
  cases isStandardOutput output with
  | true =>
      have received := (beside.submitBytes posted).mono
        fun _ _ agree => agree.eq SubmitError.retold_id
      exact (received.mapError Failure.submission).exceptT_bind fun body =>
        print_simulates mirrors .unprinted body
  | false =>
      have received := (beside.submitAndExport posted (mirrors.write output)).mono
        fun _ _ agree => agree.eq SubmitError.retold_id
      exact (received.mapError Failure.submission).exceptT_bind fun _ => .pure rfl

theorem buildSequence_simulates (mirrors : World.Mirrors states world other)
    (invocation : Invocation) (configuration : Configuration) :
    Simulates states Eq (buildSequence world invocation configuration).run
      (buildSequence other invocation configuration).run := by
  rw [buildSequence, buildSequence]
  have tagged : Simulates states Eq
      (ExceptT.mk (pure (presetQuery invocation)) : ExceptT Failure (StateM S) _).run
      (ExceptT.mk (pure (presetQuery invocation)) : ExceptT Failure (StateM T) _).run := .pure rfl
  exact tagged.exceptT_bind fun query =>
    (queryArea_simulates mirrors.files invocation.area).exceptT_bind fun area =>
      (query.build_simulates mirrors configuration area).mapError Failure.query

theorem inform_simulates (mirrors : World.Mirrors states world other) (invocation : Invocation)
    (message : String) :
    Simulates states Eq (inform world invocation message).run
      (inform other invocation message).run := by
  rw [inform, inform]
  cases invocation.isVerbose with
  | false => exact .pure rfl
  | true =>
      intro state otherState related
      exact ⟨rfl, (mirrors.report ("INFO " ++ message) state otherState related).2⟩

theorem run_simulates (mirrors : World.Mirrors states world other) (invocation : Invocation) :
    Simulates states Eq (run world invocation).run (run other invocation).run := by
  rw [run, run]
  refine (configuration_simulates mirrors.files invocation).exceptT_bind fun configuration =>
    (buildSequence_simulates mirrors invocation configuration).exceptT_bind fun sequence =>
      (inform_simulates mirrors invocation _).exceptT_bind fun _ => ?_
  cases invocation.printsQuery with
  | true => exact print_simulates mirrors .unshown _
  | false => exact submit_simulates mirrors configuration sequence invocation.output

/-- **The program does the same in a world that is mirrored.** -/
theorem execute_mirrored (mirrors : World.Mirrors states world other)
    (environment : Option String) (words : List String) :
    Simulates states Eq (execute world environment words) (execute other environment words) := by
  rw [execute, execute]
  cases CommandLine.read environment words with
  | error fault =>
      cases answered : fault.isAnswered with
      | true =>
          simp only [answered, if_true]
          exact (mirrors.print _).bind fun _ _ _ => .pure rfl
      | false =>
          simp only [answered, Bool.false_eq_true, if_false]
          exact (mirrors.report _).bind fun _ _ _ => .pure rfl
  | ok invocation =>
      refine (run_simulates mirrors invocation).bind ?_
      rintro result _ rfl
      cases result with
      | ok done => exact .pure rfl
      | error failure => exact (mirrors.report _).bind fun _ _ _ => .pure rfl

end Program

end Mirrors

end Worlds

end OverpassQuery

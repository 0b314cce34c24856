import OverpassQuery.Program.Run
import OverpassQuery.Proofs.Submission.AnyClient

/-!
# What a run does

Whatever a program does to its surroundings is one of a few deeds: it looks for a file, reads or
writes one, sends a request, waits, prints, or reports a line. A world may have a log of the
deeds in it (`World.Records`), and every world can be given one (`World.recorded`).

What the stages of a run add to such a log is described here, stage by stage, together with
what a stage may come to:

* loading the configuration looks for files under the path that is named and reads one of them
  (`Program.Loading`);
* locating the area reads the file of a polygon, and does nothing for other areas
  (`Program.Locating`);
* building the query sends nothing but the search for a place, once (`Program.Searching`);
* delivery prints the query, or asks for the engine and posts the query, and writes the answer
  where it is to go (`Program.Delivering`).
-/

set_option autoImplicit false

namespace OverpassQuery

/-! ## Deeds -/

/-- What a program does to its surroundings. -/
inductive Deed where
  | lookedFor (path : String)
  | read (path : String)
  | wrote (path : String) (content : Bytes)
  | sent (request : Http.Request)
  | waited (seconds : Nat)
  | printed (content : Bytes)
  | reported (line : String)
  deriving DecidableEq

/-- A world with a log, to which each operation adds its deed. -/
structure World.Records {S : Type} (log : S → List Deed) (world : World (StateM S)) : Prop where
  isFile : ∀ path, Emits log (fun _ deeds => deeds = [.lookedFor path]) (world.storage.isFile path)
  read : ∀ path, Emits log (fun _ deeds => deeds = [.read path]) (world.storage.read path)
  write : ∀ path content, Emits log (fun _ deeds => deeds = [.wrote path content])
    (world.storage.write path content)
  exchange : ∀ request, Emits log (fun _ deeds => deeds = [.sent request]) (world.exchange request)
  pause : ∀ seconds, Emits log (fun _ deeds => deeds = [.waited seconds]) (world.pause seconds)
  print : ∀ content, Emits log (fun _ deeds => deeds = [.printed content]) (world.print content)
  report : ∀ line, Emits log (fun _ deeds => deeds = [.reported line]) (world.report line)

section Recorded

variable {S α : Type}

/-- Acts on the first of two states, and adds a deed to the log in the second. -/
def recording (deed : Deed) (act : StateM S α) : StateM (S × List Deed) α :=
  modifyGet fun states =>
    ((act.run states.1).1, ((act.run states.1).2, states.2 ++ [deed]))

/-- A world with a log of the deeds in it. -/
def World.recorded (world : World (StateM S)) : World (StateM (S × List Deed)) where
  storage :=
    { isFile := fun path => recording (.lookedFor path) (world.storage.isFile path)
      read := fun path => recording (.read path) (world.storage.read path)
      write := fun path content =>
        recording (.wrote path content) (world.storage.write path content) }
  exchange request := recording (.sent request) (world.exchange request)
  pause seconds := recording (.waited seconds) (world.pause seconds)
  print content := recording (.printed content) (world.print content)
  report line := recording (.reported line) (world.report line)

theorem recording_emits (deed : Deed) (act : StateM S α) :
    Emits Prod.snd (fun _ deeds => deeds = [deed]) (recording deed act) :=
  fun _ => ⟨[deed], rfl, rfl⟩

theorem World.recorded_records (world : World (StateM S)) : world.recorded.Records Prod.snd where
  isFile _ := recording_emits _ _
  read _ := recording_emits _ _
  write _ _ := recording_emits _ _
  exchange _ := recording_emits _ _
  pause _ := recording_emits _ _
  print _ := recording_emits _ _
  report _ := recording_emits _ _

end Recorded

section Stages

variable {S : Type} {log : S → List Deed} {world : World (StateM S)}

/-! ## Requests to an endpoint -/

/-- What comes of a request to an endpoint: it is sent if the endpoint is an address. -/
inductive Http.Sending (endpoint : String) (request : Url → Http.Request) :
    Outcome → List Deed → Prop where
  | unsent (error : TransportError) : Sending endpoint request (.error error) []
  | sent (outcome : Outcome) {url : Url} (address : Url.ofText? endpoint = some url) :
      Sending endpoint request outcome [.sent (request url)]

theorem Http.send_emits (records : world.Records log) (endpoint : String)
    (request : Url → Http.Request) :
    Emits log (Sending endpoint request) (Http.send world.exchange endpoint request) := by
  rw [Http.send]
  cases address : Url.ofText? endpoint with
  | none => exact .pure (.unsent _)
  | some url =>
      refine (records.exchange (request url)).bind fun outcome => .pure ?_
      rintro _ rfl
      exact .sent _ address

theorem Http.send_emits_within (records : world.Records log) {endpoint : String}
    {request : Url → Http.Request} {allowed : Deed → Prop}
    (may : ∀ url, Url.ofText? endpoint = some url → allowed (.sent (request url))) :
    Emits log (fun _ deeds => ∀ deed ∈ deeds, allowed deed)
      (Http.send world.exchange endpoint request) := by
  refine (send_emits records endpoint request).mono ?_
  rintro _ _ (error | ⟨outcome, address⟩)
  · exact nofun
  · exact List.forall_mem_singleton.mpr (may _ address)

/-! ## The configuration -/

/-- A path under which the configuration of a path is looked for. -/
def Configuration.Candidate (path name : String) : Prop :=
  name = path ∨ ∃ entry ∈ DataFormat.extensions, name = path ++ "." ++ entry.1

/-- What may be done to load a configuration. -/
def Deed.Looks (path : String) : Deed → Prop
  | .lookedFor name | .read name => Configuration.Candidate path name
  | _ => False

namespace Configuration

theorem firstFile_emits (records : world.Records log) {path : String}
    {candidates : List (String × DataFormat)}
    (named : ∀ entry ∈ candidates, Candidate path entry.1) :
    Emits log (fun found deeds => (∀ entry ∈ found, Candidate path entry.1) ∧
      ∀ deed ∈ deeds, deed.Looks path) (firstFile world.storage candidates) := by
  induction candidates with
  | nil => exact .pure ⟨nofun, nofun⟩
  | cons candidate rest ih =>
      rw [List.forall_mem_cons] at named
      obtain ⟨name, format⟩ := candidate
      rw [firstFile]
      refine ((records.isFile name).within named.1).bind_within fun there _ => ?_
      cases there with
      | false => exact ih named.2
      | true =>
          refine .pure ⟨?_, nofun⟩
          rintro _ ⟨⟩
          exact named.1

theorem findFile_emits (records : world.Records log) (path : String) :
    Emits log (fun found deeds => (∀ entry, found = .ok entry → Candidate path entry.1) ∧
      ∀ deed ∈ deeds, deed.Looks path) (findFile world.storage path) := by
  rw [findFile]
  refine ((records.isFile path).within (.inl rfl)).bind_within fun there _ => ?_
  cases there with
  | true =>
      simp only [if_true]
      cases DataFormat.extensions.lookup (extension path) with
      | none => exact .pure ⟨nofun, nofun⟩
      | some format =>
          refine .pure ⟨?_, nofun⟩
          rintro _ ⟨⟩
          exact .inl rfl
  | false =>
      refine (firstFile_emits records
        (List.forall_mem_map.mpr fun entry listed => .inr ⟨entry, listed, rfl⟩)).bind_within
          fun found known => ?_
      cases found with
      | none => exact .pure ⟨nofun, nofun⟩
      | some entry =>
          refine .pure ⟨?_, nofun⟩
          rintro _ ⟨⟩
          exact known entry rfl

/-- Loading a configuration looks for files under its path, and reads one of them. -/
theorem load_emits (records : world.Records log) (path : String) :
    Emits log (fun _ deeds => True ∧ ∀ deed ∈ deeds, deed.Looks path)
      (load world.storage path) := by
  refine (findFile_emits records path).bind_within fun found known => ?_
  cases found with
  | error cause => exact .pure ⟨trivial, nofun⟩
  | ok entry =>
      obtain ⟨name, format⟩ := entry
      refine ((records.read name).within (known _ rfl)).bind_within fun content _ => ?_
      cases content with
      | error cause => exact .pure ⟨trivial, nofun⟩
      | ok content => exact .pure ⟨trivial, nofun⟩

end Configuration

namespace Program

/-- What comes of loading the configuration of an invocation. Without a file nothing is done,
and nothing fails. -/
inductive Loading (invocation : Invocation) : Except Failure Configuration → List Deed → Prop where
  | standard (configuration : Configuration) (unnamed : invocation.configurationFile = none) :
      Loading invocation (.ok configuration) []
  | file (configuration : Configuration) {path : String} {deeds : List Deed}
      (named : invocation.configurationFile = some path)
      (looks : ∀ deed ∈ deeds, deed.Looks path) : Loading invocation (.ok configuration) deeds
  | failed (cause : ConfigurationError) {path : String} {deeds : List Deed}
      (named : invocation.configurationFile = some path)
      (looks : ∀ deed ∈ deeds, deed.Looks path) :
      Loading invocation (.error (.configuration path cause)) deeds

theorem configuration_emits (records : world.Records log) (invocation : Invocation) :
    Emits log (Loading invocation) (configuration world invocation).run := by
  rw [configuration]
  cases named : invocation.configurationFile with
  | none => exact .pure (.standard _ named)
  | some path =>
      simp only [ExceptT.run_bind, ExceptT.run_mk, bind_assoc, pure_bind]
      refine (Configuration.load_emits records path).bind fun loaded => ?_
      cases loaded with
      | error cause =>
          refine .pure ?_
          rintro deeds ⟨-, looks⟩
          rw [List.append_nil]
          exact .failed cause named looks
      | ok loaded =>
          refine .pure ?_
          rintro deeds ⟨-, looks⟩
          rw [List.append_nil]
          exact .file _ named looks

/-! ## The area -/

/-- What comes of locating an area. The file of a polygon is read once; other areas are as
they were stated. -/
inductive Locating : AreaRequest → Except Failure QueryArea → List Deed → Prop where
  | boundingBox (box : BoundingBox) : Locating (.boundingBox box) (.ok (.boundingBox box)) []
  | radius (radius : Binary64) (center : Point) :
      Locating (.radius radius center) (.ok (.radius radius center)) []
  | place (name : String) : Locating (.place name) (.ok (.place name)) []
  | polygon (path : String) (rings : List Ring) :
      Locating (.polygonFile path) (.ok (.polygon rings)) [.read path]
  | unreadable (path : String) (cause : FileError) :
      Locating (.polygonFile path) (.error (.unreadableArea path cause)) [.read path]
  | unusable (path : String) (cause : GeoJson.DocumentError) :
      Locating (.polygonFile path) (.error (.unusableArea path cause)) [.read path]

theorem locating_polygonArea (path : String) (content : Bytes) :
    Locating (.polygonFile path) (polygonArea path content) [.read path] := by
  rw [polygonArea]
  cases Utf8.decode? content with
  | none => exact .unreadable path .invalidData
  | some document =>
      show Locating _ (((GeoJson.rings document).map .polygon).mapError _) _
      cases GeoJson.rings document with
      | error cause => exact .unusable path cause
      | ok rings => exact .polygon path rings

theorem queryArea_emits (records : world.Records log) (area : AreaRequest) :
    Emits log (Locating area) (queryArea world area).run := by
  cases area with
  | boundingBox box => exact .pure (.boundingBox box)
  | radius radius center => exact .pure (.radius radius center)
  | place name => exact .pure (.place name)
  | polygonFile path =>
      refine (records.read path).bind fun content => ?_
      cases content with
      | error cause =>
          refine .pure ?_
          rintro _ rfl
          exact .unreadable path cause
      | ok content =>
          refine .pure ?_
          rintro _ rfl
          exact locating_polygonArea path content

end Program

/-! ## The query -/

/-- What is done to build a query: the search for a place is sent, once, and what is passed
over in its answer is reported. For other areas nothing is done. -/
inductive Program.Searching (configuration : Configuration) : QueryArea → List Deed → Prop where
  | unsent (area : QueryArea) : Searching configuration area []
  | sent (lines : List String) {name : String} {url : Url}
      (address : Url.ofText? configuration.geocoderEndpoint = some url) :
      Searching configuration (.place name)
        (.sent (configuration.searchRequest name url) :: lines.map .reported)

theorem Configuration.geocoder_emits (records : world.Records log) (configuration : Configuration)
    (name : String) :
    Emits log (fun _ deeds => Program.Searching configuration (.place name) deeds)
      (configuration.geocoder world.exchange
        (fun warning => world.report ("WARN " ++ warning)) name) := by
  refine (Http.send_emits records configuration.geocoderEndpoint
    (configuration.searchRequest name)).bind fun outcome => ?_
  refine (Emits.forM (fun warning => records.report ("WARN " ++ warning))
    (searchWarnings outcome)).bind fun _ => .pure ?_
  rintro _ rfl _ sending
  rw [List.append_nil]
  cases sending with
  | unsent error => exact .unsent _
  | sent outcome address =>
      have reported :
          (searchWarnings outcome).flatMap (fun warning => [.reported ("WARN " ++ warning)])
            = ((searchWarnings outcome).map ("WARN " ++ ·)).map Deed.reported := by
        rw [List.map_map, List.map_eq_flatMap]
        rfl
      rw [reported]
      exact .sent _ address

theorem PresetQuery.build_emits (records : world.Records log) (configuration : Configuration)
    (query : PresetQuery) (area : QueryArea) :
    Emits log (fun _ deeds => Program.Searching configuration area deeds)
      (query.build area (configuration.geocoder world.exchange
        fun warning => world.report ("WARN " ++ warning))) := by
  cases area with
  | boundingBox box => exact .pure (.unsent _)
  | radius radius center => exact .pure (.unsent _)
  | polygon rings => exact .pure (.unsent _)
  | place name =>
      refine (configuration.geocoder_emits records name).bind fun found => ?_
      cases found with
      | error cause =>
          refine .pure ?_
          intro deeds searching
          rwa [List.append_nil]
      | ok ring =>
          refine .pure ?_
          intro deeds searching
          rwa [List.append_nil]

/-! ## Delivery -/

/-- Failures to submit a query that is built. -/
def Failure.IsUndelivered : Failure → Prop
  | .submission _ | .unprinted _ => True
  | _ => False

namespace Program

/-- What is done to submit a query. -/
inductive Submits (configuration : Configuration) (sequence : Sequence) (output : String) :
    Deed → Prop where
  | asked {url : Url} (address : Url.ofText? configuration.statusEndpoint = some url) :
      Submits configuration sequence output (.sent (Http.getRequest configuration.userAgent url))
  | posted {url : Url} (address : Url.ofText? configuration.interpreterEndpoint = some url) :
      Submits configuration sequence output
        (.sent (Http.postRequest configuration.userAgent sequence.text url))
  | waited : Submits configuration sequence output (.waited configuration.retryInterval)
  | wrote (content : Bytes) (named : isStandardOutput output = false) :
      Submits configuration sequence output (.wrote output content)
  | printed (content : Bytes) (unnamed : isStandardOutput output = true) :
      Submits configuration sequence output (.printed content)

/-- What is told about a query before its delivery. -/
def told (invocation : Invocation) (sequence : Sequence) : List Deed :=
  if invocation.isVerbose then [.reported ("INFO Query: " ++ sequence.text)] else []

/-- What comes of the delivery of a query: it is either printed or submitted. -/
inductive Delivering (invocation : Invocation) (configuration : Configuration)
    (sequence : Sequence) : Except Failure Unit → List Deed → Prop where
  | printed {result : Except Failure Unit} (asked : invocation.printsQuery = true)
      (fails : ∀ failure, result = .error failure → ∃ cause, failure = .unshown cause) :
      Delivering invocation configuration sequence result
        (told invocation sequence ++ [.printed (Utf8.encode (sequence.text ++ "\n"))])
  | submitted {result : Except Failure Unit} {deeds : List Deed}
      (unasked : invocation.printsQuery = false)
      (submits : ∀ deed ∈ deeds, Submits configuration sequence invocation.output deed)
      (fails : ∀ failure, result = .error failure → failure.IsUndelivered) :
      Delivering invocation configuration sequence result (told invocation sequence ++ deeds)

/-- The client of a configuration beside itself, with a log in which nothing is added but what
a submission does. -/
theorem client_beside_itself (records : world.Records log) (configuration : Configuration)
    (sequence : Sequence) (output : String) (base : List Deed) :
    Client.Beside id (Grown log (Submits configuration sequence output) base)
      (configuration.client world.exchange world.pause)
      (configuration.client world.exchange world.pause) where
  status := by
    refine (Emits.simulates (Http.send_emits_within records fun _ address => .asked address)
      base).mono ?_
    rintro outcome _ rfl
    exact .refl outcome
  pause := Emits.simulates ((records.pause configuration.retryInterval).within .waited |>.mono
    fun _ _ waited => waited.2) base
  maxAttempts := rfl

theorem posted_beside_itself (records : world.Records log) (configuration : Configuration)
    (sequence : Sequence) (output : String) (base : List Deed) :
    Simulates (Grown log (Submits configuration sequence output) base) (Agree id)
      ((configuration.client world.exchange world.pause).transport.interpret sequence.text)
      ((configuration.client world.exchange world.pause).transport.interpret sequence.text) := by
  refine (Emits.simulates (Http.send_emits_within records fun _ address => .posted address)
    base).mono ?_
  rintro outcome _ rfl
  exact .refl outcome

theorem submitBytes_emits (records : world.Records log) (configuration : Configuration)
    (sequence : Sequence) (output : String) :
    Emits log (fun _ deeds => ∀ deed ∈ deeds, Submits configuration sequence output deed)
      ((configuration.client world.exchange world.pause).submitBytes sequence.text) :=
  Simulates.emits fun base =>
    (client_beside_itself records configuration sequence output base).submitBytes
      (posted_beside_itself records configuration sequence output base)

theorem submitAndExport_emits (records : world.Records log) (configuration : Configuration)
    (sequence : Sequence) {output : String} (named : isStandardOutput output = false) :
    Emits log (fun _ deeds => ∀ deed ∈ deeds, Submits configuration sequence output deed)
      ((configuration.client world.exchange world.pause).submitAndExport world.storage
        sequence.text output) := by
  have written : ∀ content, Emits log
      (fun _ deeds => ∀ deed ∈ deeds, Submits configuration sequence output deed)
      (world.storage.write output content) := fun content =>
    ((records.write output content).within (.wrote content named)).mono fun _ _ wrote => wrote.2
  exact Simulates.emits fun base =>
    (client_beside_itself records configuration sequence output base).submitAndExport
      (posted_beside_itself records configuration sequence output base)
      fun content => (written content).simulates base

/-- Printing does nothing else, and fails as such. -/
theorem print_emits (records : world.Records log) (failed : FileError → Failure)
    (content : Bytes) :
    Emits log (fun result deeds =>
      (∀ failure, result = .error failure → ∃ cause, failure = failed cause) ∧
        deeds = [.printed content]) (print world failed content).run := by
  rw [print, ExceptT.run_mk]
  refine (records.print content).bind fun printed => ?_
  cases printed with
  | error cause =>
      refine .pure ?_
      rintro _ rfl
      refine ⟨?_, rfl⟩
      rintro _ ⟨⟩
      exact ⟨cause, rfl⟩
  | ok done =>
      refine .pure ?_
      rintro _ rfl
      exact ⟨nofun, rfl⟩

theorem submit_emits (records : world.Records log) (configuration : Configuration)
    (sequence : Sequence) (output : String) :
    Emits log (fun result deeds => (∀ failure, result = .error failure → failure.IsUndelivered) ∧
      ∀ deed ∈ deeds, Submits configuration sequence output deed)
      (submit world configuration sequence output).run := by
  have refused : ∀ (cause : SubmitError) (failure : Failure),
      (.error (.submission cause) : Except Failure Unit) = .error failure →
        failure.IsUndelivered := by
    rintro cause _ ⟨⟩
    trivial
  rw [submit]
  cases named : isStandardOutput output with
  | true =>
      simp only [if_true, ExceptT.run_bind, ExceptT.run_mk, bind_assoc, pure_bind]
      refine ((submitBytes_emits records configuration sequence output).mono
        fun _ _ within => ⟨trivial, within⟩).bind_within fun received _ => ?_
      cases received with
      | error cause => exact .pure ⟨refused cause, nofun⟩
      | ok body =>
          refine (print_emits records .unprinted body).mono ?_
          rintro _ _ ⟨fails, rfl⟩
          refine ⟨fun failure failed => ?_, List.forall_mem_singleton.mpr (.printed body named)⟩
          obtain ⟨cause, rfl⟩ := fails failure failed
          trivial
  | false =>
      simp only [Bool.false_eq_true, if_false, ExceptT.run_bind, ExceptT.run_mk, bind_assoc,
        pure_bind]
      refine ((submitAndExport_emits records configuration sequence named).mono
        fun _ _ within => ⟨trivial, within⟩).bind_within fun received _ => ?_
      cases received with
      | error cause => exact .pure ⟨refused cause, nofun⟩
      | ok text => exact .pure ⟨nofun, nofun⟩

/-- Tells of a query that is built, and delivers it. -/
def deliver {m : Type → Type} [Monad m] (world : World m) (invocation : Invocation)
    (configuration : Configuration) (sequence : Sequence) : ExceptT Failure m Unit := do
  inform world invocation ("Query: " ++ sequence.text)
  if invocation.printsQuery then
    print world .unshown (Utf8.encode (sequence.text ++ "\n"))
  else submit world configuration sequence invocation.output

theorem inform_emits (records : world.Records log) (invocation : Invocation)
    (sequence : Sequence) :
    Emits log (fun result deeds => result = .ok () ∧ deeds = told invocation sequence)
      (inform world invocation ("Query: " ++ sequence.text)).run := by
  rw [inform, told]
  cases invocation.isVerbose with
  | false => exact .pure ⟨rfl, rfl⟩
  | true =>
      refine (records.report _).bind fun _ => .pure ?_
      rintro _ rfl
      exact ⟨rfl, rfl⟩

theorem deliver_emits (records : world.Records log) (invocation : Invocation)
    (configuration : Configuration) (sequence : Sequence) :
    Emits log (Delivering invocation configuration sequence)
      (deliver world invocation configuration sequence).run := by
  rw [deliver, ExceptT.run_bind]
  refine (inform_emits records invocation sequence).bind fun informed => ?_
  cases informed with
  | error failure =>
      refine .pure ?_
      rintro _ ⟨⟨⟩, _⟩
  | ok done =>
      cases asked : invocation.printsQuery with
      | true =>
          refine (print_emits records .unshown _).mono ?_
          rintro result _ ⟨fails, rfl⟩ _ ⟨_, rfl⟩
          exact .printed asked fails
      | false =>
          refine (submit_emits records configuration sequence invocation.output).mono ?_
          rintro result deeds ⟨fails, submits⟩ _ ⟨_, rfl⟩
          exact .submitted asked submits fails

end Program

end Stages

end OverpassQuery

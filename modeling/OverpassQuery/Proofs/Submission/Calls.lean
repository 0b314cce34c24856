import Mathlib.Data.List.Basic
import Mathlib.Data.Nat.Find
import OverpassQuery.Proofs.Submission.Rounds

/-!
# Many calls on one client

A client is called for one thing after another: to probe or to wait, or to submit a query in
one of three ways (`Call`). It goes on after a call that failed (`Client.performAll`).

What a call does depends on the queues of the engine and on the files, but not on the
requests made before it: every operation of a client adds to the record of requests without
reading it (`ScriptedEngine.AddsRequests`), and so does what is put together from such
operations. A run of calls is therefore the same as each call by itself, on an engine
without a past that has the queues as the calls before it left them (`Course.each`).

What one call asks for is a few rounds, and for a submission the query after them, if the
last of them found the engine available (`Call.Asks`). By induction on the calls this holds
along the whole record of a run (`Client.performAll_in_courses`).

The disk that answers are exported to may be any, and a queue may be as long as a run needs.
-/

set_option autoImplicit false

namespace OverpassQuery

/-! ## Calls -/

/-- What a client can be called for. -/
inductive Call where
  | probe
  | wait
  | submit (query : String)
  | submitBytes (query : String)
  | submitAndExport (query path : String)

/-- What a call that succeeds gives. -/
inductive Reply where
  | available
  | text (content : String)
  | bytes (content : Bytes)

/-- The query of a call that submits one. -/
def Call.query? : Call → Option String
  | .probe | .wait => none
  | .submit query | .submitBytes query | .submitAndExport query _ => some query

/-- The query that a request posts. -/
def EngineRequest.query? : EngineRequest → Option String
  | .status => none
  | .interpret query => some query

section Perform

variable {m : Type → Type} [Monad m]

/-- Makes a call on a client. -/
def Call.perform (client : Client m) (storage : Storage m) : Call → m (Except SubmitError Reply)
  | .probe => return (← client.probe).map fun _ => .available
  | .wait => return (← client.waitUntilAvailable).map fun _ => .available
  | .submit query => return (← client.submit query).map .text
  | .submitBytes query => return (← client.submitBytes query).map .bytes
  | .submitAndExport query path =>
      return (← client.submitAndExport storage query path).map .text

/-- Makes calls on one client, one after the other, whatever comes of them. -/
def Client.performAll (client : Client m) (storage : Storage m) (calls : List Call) :
    m (List (Except SubmitError Reply)) :=
  calls.mapM (Call.perform client storage)

end Perform

/-! ## The record of requests -/

namespace FileTree

/-- What is written reaches the files inside the state, if it can be written. -/
theorem run_storage_write {State : Type} (tree : State → FileTree)
    (withTree : State → FileTree → State) (path : String) (content : Bytes) (state : State) :
    ((storage tree withTree).write path content).run state =
      match (tree state).write path content with
      | .ok files => (.ok (), withTree state files)
      | .error cause => (.error cause, state) := by
  rw [storage, StateT.run_bind]
  show (match (tree state).write path content with
    | .ok files => do
        set (withTree state files)
        return .ok ()
    | .error cause => return .error cause : StateM State (Except FileError Unit)).run state = _
  cases (tree state).write path content with
  | ok files => rfl
  | error cause => rfl

end FileTree

namespace ScriptedEngine

/-- An engine with the same queues and files, before its first request. -/
def renewed (engine : ScriptedEngine) : ScriptedEngine :=
  start engine.probes engine.answers engine.files

/-- An engine that has answered other requests before its own. -/
def preceded (engine : ScriptedEngine) (earlier : List EngineRequest) : ScriptedEngine :=
  { engine with requests := earlier ++ engine.requests }

/-- What a disk does, beside an engine. -/
def onFiles {α : Type} (run : StateM FileTree α) : StateM ScriptedEngine α :=
  modifyGet fun engine =>
    ((run.run engine.files).1, { engine with files := (run.run engine.files).2 })

/-- The storage that a disk beside an engine offers. -/
def storageOf (disk : Storage (StateM FileTree)) : Storage (StateM ScriptedEngine) where
  isFile path := onFiles (disk.isFile path)
  read path := onFiles (disk.read path)
  write path content := onFiles (disk.write path content)

/-- The storage of a scripted engine is that of a disk with its files. -/
theorem storageOf_fileTree :
    storageOf (FileTree.storage id fun _ files => files) = storage := by
  have write : ∀ (path : String) (content : Bytes),
      onFiles ((FileTree.storage id fun _ files => files).write path content)
        = storage.write path content := by
    intro path content
    funext engine
    have onDisk := FileTree.run_storage_write id (fun _ files => files) path content engine.files
    have onEngine := FileTree.run_storage_write ScriptedEngine.files
      (fun engine files => { engine with files := files }) path content engine
    show (_, _) = StateT.run (storage.write path content) engine
    rw [storage, onEngine, onDisk, id]
    cases engine.files.write path content with
    | ok files => rfl
    | error cause => rfl
  simp only [storageOf, write]
  rfl

theorem preceded_renewed (engine : ScriptedEngine) :
    engine.renewed.preceded engine.requests = engine := by
  rw [preceded, renewed, start, List.append_nil]

/-- A computation that adds to the requests recorded before it, and does not depend on them. -/
def AddsRequests {α : Type} (run : StateM ScriptedEngine α) : Prop :=
  ∀ (engine : ScriptedEngine) (earlier : List EngineRequest),
    run.run (engine.preceded earlier) = ((run.run engine).1, (run.run engine).2.preceded earlier)

namespace AddsRequests

theorem pure {α : Type} (value : α) : AddsRequests (Pure.pure value) :=
  fun _ _ => rfl

theorem bind {α β : Type} {run : StateM ScriptedEngine α} {next : α → StateM ScriptedEngine β}
    (adds : AddsRequests run) (nextAdds : ∀ value, AddsRequests (next value)) :
    AddsRequests (run >>= next) := by
  intro engine earlier
  rw [StateT.run_bind, StateT.run_bind, adds engine earlier]
  exact nextAdds _ _ earlier

theorem onFiles {α : Type} (run : StateM FileTree α) : AddsRequests (onFiles run) :=
  fun _ _ => rfl

theorem status : AddsRequests transport.status := by
  intro engine earlier
  have asked : (engine.preceded earlier).takeProbe.2 = engine.takeProbe.2.preceded earlier := by
    simp [takeProbe, preceded]
  exact Prod.ext rfl asked

theorem interpret (query : String) : AddsRequests (transport.interpret query) := by
  intro engine earlier
  have posted : ((engine.preceded earlier).takeAnswer query).2
      = (engine.takeAnswer query).2.preceded earlier := by
    simp [takeAnswer, preceded]
  exact Prod.ext rfl posted

variable {attempts seconds : Nat}

open Client

theorem probe : AddsRequests (scripted attempts seconds).probe :=
  status.bind fun _ => .pure _

theorem awaitWithin (rounds : Nat) :
    ∀ last : Option SubmitError,
      AddsRequests ((scripted attempts seconds).awaitWithin rounds last) := by
  induction rounds with
  | zero => exact fun last => .pure _
  | succ rounds ih =>
      intro last
      rw [Client.awaitWithin]
      refine probe.bind fun answer => ?_
      cases answer with
      | ok available => exact .pure _
      | error cause =>
        by_cases more : 0 < rounds
        · simp only [more, if_true]
          exact (AddsRequests.pure ()).bind fun _ => ih (some cause)
        · simp only [more, if_false]
          exact ih (some cause)

theorem submitBytes (query : String) :
    AddsRequests ((scripted attempts seconds).submitBytes query) := by
  rw [Client.submitBytes]
  refine (awaitWithin _ none).bind fun waited => ?_
  cases waited with
  | error cause => exact .pure _
  | ok available => exact (interpret query).bind fun _ => .pure _

theorem submit (query : String) : AddsRequests ((scripted attempts seconds).submit query) := by
  rw [Client.submit]
  refine (submitBytes query).bind fun result => ?_
  cases result with
  | error cause => exact .pure _
  | ok body => exact .pure _

theorem submitAndExport (disk : Storage (StateM FileTree)) (query path : String) :
    AddsRequests
      ((scripted attempts seconds).submitAndExport (storageOf disk) query path) := by
  rw [Client.submitAndExport]
  refine (submitBytes query).bind fun result => ?_
  cases result with
  | error cause => exact .pure _
  | ok body =>
      refine (AddsRequests.onFiles (disk.write path body)).bind fun written => ?_
      cases written with
      | error cause => exact .pure _
      | ok done => exact .pure _

/-- **No call depends on the requests before it.** -/
theorem perform (disk : Storage (StateM FileTree)) (call : Call) :
    AddsRequests (call.perform (scripted attempts seconds) (storageOf disk)) := by
  cases call with
  | probe => exact probe.bind fun _ => .pure _
  | wait => exact (awaitWithin _ none).bind fun _ => .pure _
  | submit query => exact (submit query).bind fun _ => .pure _
  | submitBytes query => exact (submitBytes query).bind fun _ => .pure _
  | submitAndExport query path => exact (submitAndExport disk query path).bind fun _ => .pure _

end AddsRequests

/-- A computation that may change the files, and nothing else. -/
def ChangesFiles {α : Type} (run : StateM ScriptedEngine α) : Prop :=
  ∀ engine : ScriptedEngine, ∃ files, (run.run engine).2 = { engine with files := files }

namespace ChangesFiles

theorem pure {α : Type} (value : α) : ChangesFiles (Pure.pure value) :=
  fun engine => ⟨engine.files, rfl⟩

theorem onFiles {α : Type} (run : StateM FileTree α) : ChangesFiles (onFiles run) :=
  fun engine => ⟨(run.run engine.files).2, rfl⟩

theorem bind {α β : Type} {run : StateM ScriptedEngine α} {next : α → StateM ScriptedEngine β}
    (changes : ChangesFiles run) (nextChanges : ∀ value, ChangesFiles (next value)) :
    ChangesFiles (run >>= next) := by
  intro engine
  obtain ⟨files, changed⟩ := changes engine
  obtain ⟨nextFiles, nextChanged⟩ := nextChanges (run.run engine).1 (run.run engine).2
  refine ⟨nextFiles, ?_⟩
  rw [StateT.run_bind]
  exact nextChanged.trans (by rw [changed])

end ChangesFiles

/-! ## What one call asks for -/

/-- Each query in a list of requests comes right after a question to the status endpoint that
found the engine available. -/
def PostsWhenAvailable (engine : ScriptedEngine) (requests : List EngineRequest) : Prop :=
  ∀ before query after, requests = before ++ .interpret query :: after →
    ∃ earlier, before = earlier ++ [.status] ∧ (engine.round (earlier.count .status)).Available

end ScriptedEngine

/-- The requests that a call may make of an engine: questions within the limit, and the query
of a submission after a question that finds the engine available. -/
inductive Call.Asks (limit : Nat) (engine : ScriptedEngine) (call : Call) :
    List EngineRequest → Prop
  | rounds {index : Nat} (within : index < limit) :
      Asks limit engine call (List.replicate (index + 1) .status)
  | query {index : Nat} {query : String} (within : index < limit)
      (available : (engine.round index).Available) (submits : call.query? = some query) :
      Asks limit engine call (List.replicate (index + 1) .status ++ [.interpret query])

namespace Call

variable {limit : Nat} {engine : ScriptedEngine} {call : Call} {asked : List EngineRequest}

theorem count_status_query (rounds : Nat) (query : String) :
    (List.replicate rounds EngineRequest.status ++ [EngineRequest.interpret query]).count .status
      = rounds := by
  simp

theorem Asks.one_le_count (asks : call.Asks limit engine asked) : 1 ≤ asked.count .status := by
  cases asks with
  | rounds within =>
      rw [List.count_replicate_self]
      exact Nat.le_add_left 1 _
  | query within available submits =>
      rw [count_status_query]
      exact Nat.le_add_left 1 _

theorem Asks.count_le (asks : call.Asks limit engine asked) : asked.count .status ≤ limit := by
  cases asks with
  | rounds within =>
      rw [List.count_replicate_self]
      exact within
  | query within available submits =>
      rw [count_status_query]
      exact within

theorem Asks.posts (asks : call.Asks limit engine asked) :
    (asked.filterMap EngineRequest.query?).Sublist call.query?.toList := by
  cases asks with
  | rounds within =>
      rw [List.filterMap_replicate_of_none rfl]
      exact List.nil_sublist _
  | query within available submits =>
      rw [List.filterMap_append, List.filterMap_replicate_of_none rfl, submits]
      exact List.Sublist.refl _

theorem interpret_not_mem_replicate (query : String) (rounds : Nat) :
    EngineRequest.interpret query ∉ List.replicate rounds EngineRequest.status :=
  fun occurs => nomatch List.eq_of_mem_replicate occurs

theorem Asks.postsWhenAvailable (asks : call.Asks limit engine asked) :
    engine.PostsWhenAvailable asked := by
  intro before query after split
  cases asks with
  | rounds within =>
      have occurs := split ▸ List.mem_append_right before (List.mem_cons_self (l := after))
      exact absurd occurs (interpret_not_mem_replicate query _)
  | @query index posted within available submits =>
      obtain ⟨rfl, _, _⟩ := (List.append_cons_inj_of_notMem
        (interpret_not_mem_replicate query _) List.not_mem_nil).mp split
      refine ⟨List.replicate index .status, List.replicate_succ', ?_⟩
      rw [List.count_replicate_self]
      exact available

end Call

namespace ScriptedEngine

theorem round_of_probes_eq_drop {engine later : ScriptedEngine} {rounds : Nat}
    (left : later.probes = engine.probes.drop rounds) (index : Nat) :
    later.round index = engine.round (rounds + index) := by
  rw [round, round, left, List.getD_eq_getElem?_getD, List.getD_eq_getElem?_getD,
    List.getElem?_drop]

theorem PostsWhenAvailable.append {engine later : ScriptedEngine}
    {first second : List EngineRequest} (posts : engine.PostsWhenAvailable first)
    (laterPosts : later.PostsWhenAvailable second)
    (left : later.probes = engine.probes.drop (first.count .status)) :
    engine.PostsWhenAvailable (first ++ second) := by
  intro before query after split
  rcases List.append_eq_append_iff.mp split with ⟨between, rfl, rest⟩ | ⟨between, rfl, rest⟩
  · obtain ⟨earlier, rfl, available⟩ := laterPosts between query after rest
    refine ⟨first ++ earlier, (List.append_assoc _ _ _).symm, ?_⟩
    rw [List.count_append, ← round_of_probes_eq_drop left]
    exact available
  · cases between with
    | nil =>
        -- The second record would begin with a query.
        obtain ⟨earlier, nothing, _⟩ := laterPosts [] query after rest.symm
        exact absurd nothing (by simp)
    | cons request more =>
        obtain ⟨rfl, rfl⟩ := List.cons.inj rest
        exact posts before query more rfl

end ScriptedEngine

/-! ## One call -/

namespace Client

open ScriptedEngine

variable {attempts seconds : Nat}

/-- Waiting takes a few rounds within the limit, and the last of them tells whether it was
in vain. -/
theorem waitUntilAvailable_run (engine : ScriptedEngine) :
    ∃ index < max attempts 1, ∃ result,
      (scripted attempts seconds).waitUntilAvailable.run engine
          = (result, engine.afterRounds (index + 1)) ∧
        (result = .ok () → (engine.round index).Available) := by
  by_cases reached : ∃ index, index < max attempts 1 ∧ (engine.round index).Available
  · classical
    obtain ⟨within, available⟩ := Nat.find_spec reached
    have before : ∀ earlier < Nat.find reached, ¬ (engine.round earlier).Available := by
      intro earlier isEarlier found
      exact Nat.find_min reached isEarlier ⟨Nat.lt_trans isEarlier within, found⟩
    exact ⟨_, within, .ok (), awaitWithin_of_available _ none within available before,
      fun _ => available⟩
  · have unavailable : ∀ index < max attempts 1, ¬ (engine.round index).Available :=
      fun index within available => reached ⟨index, within, available⟩
    obtain ⟨cause, _, waited⟩ :=
      @waitUntilAvailable_of_none_available attempts seconds engine unavailable
    have positive : 0 < max attempts 1 := Nat.le_max_right attempts 1
    refine ⟨max attempts 1 - 1, Nat.sub_one_lt_of_lt positive,
      .error (.unavailable (max attempts 1) (some cause)), ?_, nofun⟩
    rw [Nat.sub_add_cancel positive]
    exact waited

/-- A submission is a few rounds, in vain or with the query after the last of them. -/
theorem submitBytes_run (engine : ScriptedEngine) (query : String) :
    ∃ index < max attempts 1,
      (∃ cause, ((scripted attempts seconds).submitBytes query).run engine
        = (.error cause, engine.afterRounds (index + 1))) ∨
      (engine.round index).Available ∧
        ((scripted attempts seconds).submitBytes query).run engine
          = (received (engine.answers.headD afterScript),
            (engine.afterRounds (index + 1)).afterQuery query) := by
  obtain ⟨index, within, result, waited, found⟩ :=
    @waitUntilAvailable_run attempts seconds engine
  refine ⟨index, within, ?_⟩
  rw [submitBytes, StateT.run_bind, waited]
  cases result with
  | error cause => exact .inl ⟨cause, rfl⟩
  | ok available => exact .inr ⟨found rfl, rfl⟩

end Client

/-- The end of a call: the requests that it made are within its rights, and the queue of the
status endpoint is shorter by as many answers as it asked for. -/
def Call.Ends (limit : Nat) (engine : ScriptedEngine) (call : Call) (later : ScriptedEngine) :
    Prop :=
  ∃ asked, call.Asks limit engine asked ∧ later.requests = engine.requests ++ asked ∧
    later.probes = engine.probes.drop (asked.count .status)

/-- What changes the files afterwards does not matter. -/
theorem Call.Ends.bind {limit : Nat} {engine : ScriptedEngine} {call : Call} {α β : Type}
    {run : StateM ScriptedEngine α} {next : α → StateM ScriptedEngine β}
    (ended : call.Ends limit engine (run.run engine).2)
    (changes : ∀ value, ScriptedEngine.ChangesFiles (next value)) :
    call.Ends limit engine ((run >>= next).run engine).2 := by
  obtain ⟨asked, asks, requests, probes⟩ := ended
  obtain ⟨files, changed⟩ := changes (run.run engine).1 (run.run engine).2
  have later : ((run >>= next).run engine).2 = { (run.run engine).2 with files := files } := by
    rw [StateT.run_bind]
    exact changed
  rw [later]
  exact ⟨asked, asks, requests, probes⟩

namespace Client

open ScriptedEngine

variable {attempts seconds : Nat}

theorem ends_rounds {limit index : Nat} (within : index < limit) (engine : ScriptedEngine)
    (call : Call) : call.Ends limit engine (engine.afterRounds (index + 1)) := by
  refine ⟨_, .rounds within, rfl, ?_⟩
  rw [List.count_replicate_self]
  rfl

theorem submitBytes_ends (engine : ScriptedEngine) {call : Call} {query : String}
    (submits : call.query? = some query) :
    call.Ends (max attempts 1) engine
      (((scripted attempts seconds).submitBytes query).run engine).2 := by
  obtain ⟨index, within, ⟨cause, run⟩ | ⟨available, run⟩⟩ :=
    @submitBytes_run attempts seconds engine query
  · rw [run]
    exact ends_rounds within engine call
  · rw [run]
    refine ⟨_, .query within available submits, ?_, ?_⟩
    · rw [← List.append_assoc]
      rfl
    · rw [Call.count_status_query]
      rfl

/-- **A call makes the requests that it may make.** -/
theorem perform_ends (disk : Storage (StateM FileTree)) (engine : ScriptedEngine) (call : Call) :
    call.Ends (max attempts 1) engine
      ((call.perform (scripted attempts seconds) (storageOf disk)).run engine).2 := by
  cases call with
  | probe =>
      have ended : Call.probe.Ends (max attempts 1) engine
          ((scripted attempts seconds).probe.run engine).2 := by
        rw [probe_run]
        exact ends_rounds (Nat.le_max_right attempts 1) engine .probe
      exact ended.bind fun _ => .pure _
  | wait =>
      have ended : Call.wait.Ends (max attempts 1) engine
          ((scripted attempts seconds).waitUntilAvailable.run engine).2 := by
        obtain ⟨index, within, result, waited, _⟩ :=
          @waitUntilAvailable_run attempts seconds engine
        rw [waited]
        exact ends_rounds within engine .wait
      exact ended.bind fun _ => .pure _
  | submit query =>
      have ended : (Call.submit query).Ends (max attempts 1) engine
          (((scripted attempts seconds).submit query).run engine).2 := by
        rw [Client.submit]
        refine (submitBytes_ends engine rfl).bind fun result => ?_
        cases result with
        | error cause => exact .pure _
        | ok body => exact .pure _
      exact ended.bind fun _ => .pure _
  | submitBytes query => exact (submitBytes_ends engine rfl).bind fun _ => .pure _
  | submitAndExport query path =>
      have ended : (Call.submitAndExport query path).Ends (max attempts 1) engine
          (((scripted attempts seconds).submitAndExport (storageOf disk) query path).run
            engine).2 := by
        rw [Client.submitAndExport]
        refine (submitBytes_ends engine rfl).bind fun result => ?_
        cases result with
        | error cause => exact .pure _
        | ok body =>
            refine (ChangesFiles.onFiles (disk.write path body)).bind fun written => ?_
            cases written with
            | error cause => exact .pure _
            | ok done => exact .pure _
      exact ended.bind fun _ => .pure _

end Client

/-! ## Many calls -/

/-- A call by itself: the engine that it is made on, what comes of it, and its requests. -/
structure Course where
  call : Call
  engine : ScriptedEngine
  result : Except SubmitError Reply
  requests : List EngineRequest

namespace Course

/-- What a call may do with a limit of rounds. -/
structure Orderly (limit : Nat) (course : Course) : Prop where
  asks : 1 ≤ course.requests.count .status
  withinLimit : course.requests.count .status ≤ limit
  /-- Nothing is posted but the query of a submission, at most once. -/
  posts : (course.requests.filterMap EngineRequest.query?).Sublist course.call.query?.toList
  afterAvailable : course.engine.PostsWhenAvailable course.requests

/-- A call on a new client and on an engine without a past. -/
def alone (attempts seconds : Nat) (disk : Storage (StateM FileTree)) (call : Call)
    (engine : ScriptedEngine) : Except SubmitError Reply × ScriptedEngine :=
  (call.perform (Client.scripted attempts seconds) (ScriptedEngine.storageOf disk)).run
    engine.renewed

/-- The calls of a list, each by itself. Each has the queues and the files as the calls before
it left them. -/
def each (attempts seconds : Nat) (disk : Storage (StateM FileTree)) :
    List Call → ScriptedEngine → List Course
  | [], _ => []
  | call :: rest, engine =>
      let ended := alone attempts seconds disk call engine
      ⟨call, engine.renewed, ended.1, ended.2.requests⟩ :: each attempts seconds disk rest ended.2

variable {attempts seconds : Nat} {disk : Storage (StateM FileTree)}

/-- The courses of calls do not depend on the requests made before. -/
theorem each_preceded (calls : List Call) (engine : ScriptedEngine)
    (earlier : List EngineRequest) :
    each attempts seconds disk calls (engine.preceded earlier)
      = each attempts seconds disk calls engine := by
  cases calls with
  | nil => rfl
  | cons call rest => rfl

theorem map_call_each (calls : List Call) : ∀ engine : ScriptedEngine,
    (each attempts seconds disk calls engine).map Course.call = calls := by
  induction calls with
  | nil => exact fun engine => rfl
  | cons call rest ih => exact fun engine => congrArg (call :: ·) (ih _)

theorem each_take (calls : List Call) : ∀ (engine : ScriptedEngine) (count : Nat),
    each attempts seconds disk (calls.take count) engine
      = (each attempts seconds disk calls engine).take count := by
  induction calls with
  | nil =>
      intro engine count
      rw [List.take_nil, each, List.take_nil]
  | cons call rest ih =>
      intro engine count
      cases count with
      | zero => rfl
      | succ count => exact congrArg (_ :: ·) (ih _ count)

/-- The requests of a call by itself. -/
theorem alone_asks (call : Call) (engine : ScriptedEngine) :
    call.Asks (max attempts 1) engine.renewed (alone attempts seconds disk call engine).2.requests ∧
      (alone attempts seconds disk call engine).2.probes
        = engine.probes.drop
            ((alone attempts seconds disk call engine).2.requests.count .status) := by
  obtain ⟨asked, asks, requests, probes⟩ :=
    @Client.perform_ends attempts seconds disk engine.renewed call
  have made : (alone attempts seconds disk call engine).2.requests = asked := requests
  rw [made]
  exact ⟨asks, probes⟩

theorem each_orderly (calls : List Call) : ∀ engine : ScriptedEngine,
    ∀ course ∈ each attempts seconds disk calls engine, course.Orderly (max attempts 1) := by
  induction calls with
  | nil => exact fun engine => List.forall_mem_nil _
  | cons call rest ih =>
      intro engine
      have asks := (@alone_asks attempts seconds disk call engine).1
      refine List.forall_mem_cons.mpr ⟨?_, ih _⟩
      exact ⟨asks.one_le_count, asks.count_le, asks.posts, asks.postsWhenAvailable⟩

/-- The queries are posted in the order of the calls. -/
theorem posted_each_sublist (calls : List Call) : ∀ engine : ScriptedEngine,
    (((each attempts seconds disk calls engine).flatMap Course.requests).filterMap
      EngineRequest.query?).Sublist (calls.filterMap Call.query?) := by
  induction calls with
  | nil => exact fun engine => List.Sublist.refl _
  | cons call rest ih =>
      intro engine
      have asks := (@alone_asks attempts seconds disk call engine).1
      have split : (call :: rest).filterMap Call.query?
          = call.query?.toList ++ rest.filterMap Call.query? := by
        rw [List.filterMap_cons]
        cases call.query? with
        | none => rfl
        | some query => rfl
      rw [split, each, List.flatMap_cons, List.filterMap_append]
      exact asks.posts.append (ih _)

/-- Along the whole record, the queries come after available rounds. -/
theorem each_postsWhenAvailable (calls : List Call) : ∀ engine : ScriptedEngine,
    engine.PostsWhenAvailable
      ((each attempts seconds disk calls engine).flatMap Course.requests) := by
  induction calls with
  | nil =>
      intro engine before query after split
      exact absurd split (by simp [each])
  | cons call rest ih =>
      intro engine
      obtain ⟨asks, left⟩ := @alone_asks attempts seconds disk call engine
      have first : engine.PostsWhenAvailable
          (alone attempts seconds disk call engine).2.requests := asks.postsWhenAvailable
      rw [each, List.flatMap_cons]
      exact first.append (ih _) left

end Course

namespace Client

open ScriptedEngine

variable {attempts seconds : Nat} {disk : Storage (StateM FileTree)}

/-- A call does on any engine what it does by itself. -/
theorem perform_run (call : Call) (engine : ScriptedEngine) :
    (call.perform (scripted attempts seconds) (storageOf disk)).run engine
      = ((Course.alone attempts seconds disk call engine).1,
          (Course.alone attempts seconds disk call engine).2.preceded engine.requests) := by
  have adds := @AddsRequests.perform attempts seconds disk call engine.renewed engine.requests
  rw [preceded_renewed] at adds
  exact adds

theorem performAll_run_cons (call : Call) (rest : List Call) (engine : ScriptedEngine) :
    let client := scripted attempts seconds
    let first := (call.perform client (storageOf disk)).run engine
    let others := (client.performAll (storageOf disk) rest).run first.2
    (client.performAll (storageOf disk) (call :: rest)).run engine
      = (first.1 :: others.1, others.2) := by
  intro client first others
  rw [performAll, List.mapM_cons, StateT.run_bind]
  rfl

/-- The results of a run are those of its calls by themselves, and so are its requests. -/
theorem performAll_run (calls : List Call) : ∀ engine : ScriptedEngine,
    let ended := ((scripted attempts seconds).performAll (storageOf disk) calls).run engine
    let courses := Course.each attempts seconds disk calls engine
    ended.1 = courses.map Course.result ∧
      ended.2.requests = engine.requests ++ courses.flatMap Course.requests := by
  induction calls with
  | nil => exact fun engine => ⟨rfl, (List.append_nil _).symm⟩
  | cons call rest ih =>
      intro engine
      obtain ⟨results, requests⟩ :=
        ih ((Course.alone attempts seconds disk call engine).2.preceded engine.requests)
      rw [Course.each_preceded] at results requests
      rw [performAll_run_cons, perform_run]
      constructor
      · exact congrArg (_ :: ·) results
      · rw [Course.each, List.flatMap_cons, ← List.append_assoc]
        exact requests

/-- **A run of calls is each call by itself.** Every call has the result and makes the requests
that it would on a new client, with the queues and the files as the calls before it left them,
whether they failed or not; this accounts for the requests after any number of the calls. It
asks the status endpoint at least once and at most as often as the limit allows, and posts
nothing but the query of a submission, once, right after it found the engine available. So the
queries are posted unchanged and in the order of the calls, each of them right after a question
that found the engine available. -/
theorem performAll_in_courses (attempts seconds : Nat) (disk : Storage (StateM FileTree))
    (calls : List Call) (engine : ScriptedEngine) :
    let ended := ((scripted attempts seconds).performAll (storageOf disk) calls).run engine
    let courses := Course.each attempts seconds disk calls engine
    let made := courses.flatMap Course.requests
    courses.map Course.call = calls ∧
      ended.1 = courses.map Course.result ∧
      ended.2.requests = engine.requests ++ made ∧
      (∀ count, (((scripted attempts seconds).performAll (storageOf disk)
          (calls.take count)).run engine).2.requests
        = engine.requests ++ (courses.take count).flatMap Course.requests) ∧
      (∀ course ∈ courses, course.Orderly (max attempts 1)) ∧
      (made.filterMap EngineRequest.query?).Sublist (calls.filterMap Call.query?) ∧
      engine.PostsWhenAvailable made := by
  intro ended courses made
  obtain ⟨results, requests⟩ := @performAll_run attempts seconds disk calls engine
  have afterSome : ∀ count, (((scripted attempts seconds).performAll (storageOf disk)
      (calls.take count)).run engine).2.requests
        = engine.requests ++ (courses.take count).flatMap Course.requests := by
    intro count
    rw [← Course.each_take]
    exact (@performAll_run attempts seconds disk (calls.take count) engine).2
  exact ⟨Course.map_call_each calls engine, results, requests, afterSome,
    Course.each_orderly calls engine, Course.posted_each_sublist calls engine,
    Course.each_postsWhenAvailable calls engine⟩

/-- A probe that finds the engine busy, a submission that is refused after two rounds, and one
that is accepted after one. -/
example :
    ((((scripted 2 5).performAll ScriptedEngine.storage
      [.probe, .submitBytes "out;", .submit "out ids;"]).run reluctantEngine).2.requests)
      = [.status, .status, .status, .interpret "out;", .status, .interpret "out ids;"] := by
  decide +kernel

end Client

end OverpassQuery

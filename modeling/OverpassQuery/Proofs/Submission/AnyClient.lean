import OverpassQuery.Proofs.State.Simulation
import OverpassQuery.Proofs.Submission.Calls

/-!
# Clients over any state

The client of the query engine is written for any round trips. Here the round trips read and
change a state of any kind, and what is known of them is extended to all calls.

Two clients go side by side when their round trips do (`Client.Beside`): calls on both come to
the same results and leave related states (`Client.Beside.perform`). The results may differ in
how a failure of the network is told: what is common to both tellings is also common to the
results (`SubmitError.retold`). Where nothing is known of the words in which failures are told,
they are left out (`SubmitError.unworded`).

If each round trip leaves its request in a log, a call leaves the questions of a few rounds, and
after them perhaps one query (`Call.Leaves`, `Client.Leaves.perform`).
-/

set_option autoImplicit false

namespace OverpassQuery

/-! ## Failures told anew -/

/-- Two outcomes that are the same, except that failures may be told differently. -/
inductive Agree {ε α : Type} (retold : ε → ε) : Except ε α → Except ε α → Prop where
  | ok (value : α) : Agree retold (.ok value) (.ok value)
  | error {cause other : ε} (same : retold cause = retold other) :
      Agree retold (.error cause) (.error other)

namespace Agree

variable {ε α β : Type} {retold : ε → ε}

theorem refl (outcome : Except ε α) : Agree retold outcome outcome := by
  cases outcome with
  | error cause => exact .error rfl
  | ok value => exact .ok value

theorem map {outcome other : Except ε α} (agree : Agree retold outcome other) (turn : α → β) :
    Agree retold (outcome.map turn) (other.map turn) := by
  cases agree with
  | ok value => exact .ok (turn value)
  | error same => exact .error same

/-- Outcomes agree in all if failures are told as they are. -/
theorem eq {outcome other : Except ε α} (told : ∀ cause, retold cause = cause)
    (agree : Agree retold outcome other) : outcome = other := by
  cases agree with
  | ok value => rfl
  | @error cause otherCause same => rw [← told cause, same, told]

end Agree

/-- A failure of the network of which only the endpoint is told. -/
def TransportError.unworded (error : TransportError) : TransportError := ⟨error.endpoint, ""⟩

/-- A failed submission in which failures of the network are told anew. -/
def SubmitError.retold (tell : TransportError → TransportError) : SubmitError → SubmitError
  | .transport error => .transport (tell error)
  | .unavailable attempts (some last) => .unavailable attempts (some (last.retold tell))
  | error => error

/-- A failed submission in which failures of the network only tell the endpoint. -/
def SubmitError.unworded : SubmitError → SubmitError := .retold .unworded

/-- A failed search in which a failure of the network only tells the endpoint. -/
def GeocodeError.unworded : GeocodeError → GeocodeError
  | .transport error => .transport error.unworded
  | error => error

namespace SubmitError

theorem retold_unavailable (tell : TransportError → TransportError) (attempts : Nat)
    (last : Option SubmitError) :
    (unavailable attempts last).retold tell = .unavailable attempts (last.map (retold tell)) := by
  cases last with
  | none => rfl
  | some cause => rfl

theorem retold_id : ∀ error : SubmitError, error.retold id = error
  | .transport _ => rfl
  | .rateLimited _ => rfl
  | .unavailable _ none => rfl
  | .unavailable attempts (some last) =>
      congrArg (fun cause => unavailable attempts (some cause)) (retold_id last)
  | .engine _ _ => rfl
  | .unwritten _ _ => rfl

end SubmitError

namespace Client

variable {tell : TransportError → TransportError}

theorem availability_agree {outcome other : Outcome}
    (agree : Agree tell outcome other) :
    Agree (SubmitError.retold tell) (availability outcome) (availability other) := by
  cases agree with
  | ok response => exact .refl _
  | error same => exact .error (congrArg SubmitError.transport same)

theorem received_agree {outcome other : Outcome}
    (agree : Agree tell outcome other) :
    Agree (SubmitError.retold tell) (received outcome) (received other) := by
  cases agree with
  | ok response => exact .refl _
  | error same => exact .error (congrArg SubmitError.transport same)

/-! ## Clients side by side -/

section Beside

variable {S T : Type}

/-- Clients with the same limit of rounds, whose rounds of questions go side by side. -/
structure Beside (tell : TransportError → TransportError) (states : S → T → Prop)
    (client : Client (StateM S)) (other : Client (StateM T)) : Prop where
  status : Simulates states (Agree tell) client.transport.status
    other.transport.status
  pause : Simulates states Eq (client.transport.pause client.retryInterval)
    (other.transport.pause other.retryInterval)
  maxAttempts : client.maxAttempts = other.maxAttempts

namespace Beside

variable {states : S → T → Prop} {client : Client (StateM S)} {other : Client (StateM T)}
  {query : String}

theorem probe (beside : Beside tell states client other) :
    Simulates states (Agree (SubmitError.retold tell)) client.probe other.probe :=
  beside.status.bind fun _ _ agree => .pure (availability_agree agree)

theorem awaitWithin (beside : Beside tell states client other) (rounds : Nat) :
    ∀ {last otherLast : Option SubmitError},
      last.map (SubmitError.retold tell) = otherLast.map (SubmitError.retold tell) →
      Simulates states (Agree (SubmitError.retold tell)) (client.awaitWithin rounds last)
        (other.awaitWithin rounds otherLast) := by
  induction rounds with
  | zero =>
      intro last otherLast same
      refine .pure (.error ?_)
      rw [SubmitError.retold_unavailable, SubmitError.retold_unavailable, same,
        beside.maxAttempts]
  | succ rounds ih =>
      intro last otherLast _
      rw [Client.awaitWithin, Client.awaitWithin]
      refine beside.probe.bind fun answer otherAnswer agree => ?_
      cases agree with
      | ok available => exact .pure (.ok ())
      | @error cause otherCause same =>
          have next : Simulates states (Agree (SubmitError.retold tell))
              (client.awaitWithin rounds (some cause))
              (other.awaitWithin rounds (some otherCause)) := ih (congrArg some same)
          by_cases more : 0 < rounds
          · simp only [more, if_true]
            exact beside.pause.bind fun _ _ _ => next
          · simp only [more, if_false]
            exact next

theorem waitUntilAvailable (beside : Beside tell states client other) :
    Simulates states (Agree (SubmitError.retold tell)) client.waitUntilAvailable
      other.waitUntilAvailable := by
  rw [Client.waitUntilAvailable, Client.waitUntilAvailable, beside.maxAttempts]
  exact beside.awaitWithin other.maxAttempts rfl

/-- A submission goes along with another if the handing over of its query does. -/
theorem submitBytes (beside : Beside tell states client other)
    (posted : Simulates states (Agree tell) (client.transport.interpret query)
      (other.transport.interpret query)) :
    Simulates states (Agree (SubmitError.retold tell)) (client.submitBytes query)
      (other.submitBytes query) := by
  refine beside.waitUntilAvailable.bind fun waited otherWaited agree => ?_
  cases agree with
  | error same => exact .pure (.error same)
  | ok available =>
      exact posted.bind fun _ _ agree => .pure (received_agree agree)

theorem submit (beside : Beside tell states client other)
    (posted : Simulates states (Agree tell) (client.transport.interpret query)
      (other.transport.interpret query)) :
    Simulates states (Agree (SubmitError.retold tell)) (client.submit query)
      (other.submit query) := by
  refine (beside.submitBytes posted).bind fun result otherResult agree => ?_
  cases agree with
  | error same => exact .pure (.error same)
  | ok body => exact .pure (.refl _)

theorem submitAndExport (beside : Beside tell states client other)
    (posted : Simulates states (Agree tell) (client.transport.interpret query)
      (other.transport.interpret query)) {storage : Storage (StateM S)}
    {otherStorage : Storage (StateM T)} {path : String}
    (written : ∀ content, Simulates states Eq (storage.write path content)
      (otherStorage.write path content)) :
    Simulates states (Agree (SubmitError.retold tell)) (client.submitAndExport storage query path)
      (other.submitAndExport otherStorage query path) := by
  refine (beside.submitBytes posted).bind fun result otherResult agree => ?_
  cases agree with
  | error same => exact .pure (.error same)
  | ok body =>
      refine (written body).bind fun outcome otherOutcome same => ?_
      subst same
      cases outcome with
      | error cause => exact .pure (.refl _)
      | ok done => exact .pure (.refl _)

/-- **Calls on clients side by side come to the same results.** -/
theorem perform (beside : Beside tell states client other)
    (posted : ∀ query, Simulates states (Agree tell)
      (client.transport.interpret query) (other.transport.interpret query))
    {storage : Storage (StateM S)} {otherStorage : Storage (StateM T)}
    (written : ∀ path content, Simulates states Eq (storage.write path content)
      (otherStorage.write path content)) (call : Call) :
    Simulates states (Agree (SubmitError.retold tell)) (call.perform client storage)
      (call.perform other otherStorage) := by
  cases call with
  | probe => exact beside.probe.bind fun _ _ agree => .pure (agree.map _)
  | wait => exact beside.waitUntilAvailable.bind fun _ _ agree => .pure (agree.map _)
  | submit query => exact (beside.submit (posted query)).bind fun _ _ agree => .pure (agree.map _)
  | submitBytes query =>
      exact (beside.submitBytes (posted query)).bind fun _ _ agree => .pure (agree.map _)
  | submitAndExport query path =>
      exact (beside.submitAndExport (posted query) (written path)).bind
        fun _ _ agree => .pure (agree.map _)

end Beside

end Beside

end Client

/-! ## The requests of a call -/

/-- What a call leaves in a log: a question for each of a few rounds, and for a submission
perhaps its query after them. A question that leaves nothing does not reach the engine, and
no query comes after it. -/
inductive Call.Leaves {E : Type} (limit : Nat) (question : List E) (posted : String → List E)
    (call : Call) : List E → Prop where
  | rounds {rounds : Nat} (asked : 1 ≤ rounds) (within : rounds ≤ limit) :
      Leaves limit question posted call (List.replicate rounds question).flatten
  | query {rounds : Nat} {query : String} (asked : 1 ≤ rounds) (within : rounds ≤ limit)
      (reached : question ≠ []) (submits : call.query? = some query) :
      Leaves limit question posted call
        ((List.replicate rounds question).flatten ++ posted query)

namespace Client

section Leaves

variable {S E : Type}

/-- A client whose round trips leave their requests in a log. A question that leaves nothing
has failed. -/
structure Leaves (log : S → List E) (question : List E) (posted : String → List E)
    (client : Client (StateM S)) : Prop where
  status : Emits log
    (fun outcome emitted => emitted = question ∧ (question = [] → ∃ error, outcome = .error error))
    client.transport.status
  interpret : ∀ query, Emits log (fun _ emitted => emitted = posted query)
    (client.transport.interpret query)
  pause : ∀ seconds, Emits log (fun _ emitted => emitted = []) (client.transport.pause seconds)

namespace Leaves

variable {log : S → List E} {question : List E} {posted : String → List E}
  {client : Client (StateM S)}

theorem probe (leaves : Leaves log question posted client) :
    Emits log (fun result emitted => emitted = question ∧ (result = .ok () → question ≠ []))
      client.probe := by
  refine leaves.status.bind fun outcome => .pure ?_
  rintro emitted ⟨rfl, failed⟩
  refine ⟨List.append_nil _, fun available unreached => ?_⟩
  obtain ⟨error, rfl⟩ := failed unreached
  exact nomatch available

/-- The rounds of a wait that makes at most some number of them. -/
def Waits (question : List E) (rounds : Nat) (result : Except SubmitError Unit)
    (emitted : List E) : Prop :=
  ∃ made ≤ rounds, emitted = (List.replicate made question).flatten ∧
    (0 < rounds → 1 ≤ made) ∧ (result = .ok () → question ≠ [])

theorem awaitWithin (leaves : Leaves log question posted client) (rounds : Nat) :
    ∀ last : Option SubmitError,
      Emits log (Waits question rounds) (client.awaitWithin rounds last) := by
  induction rounds with
  | zero => exact fun last => .pure ⟨0, Nat.le_refl 0, rfl, nofun, nofun⟩
  | succ rounds ih =>
      intro last
      rw [Client.awaitWithin]
      refine leaves.probe.bind fun answer => ?_
      cases answer with
      | ok available =>
          refine .pure ?_
          rintro emitted ⟨rfl, reached⟩
          refine ⟨1, Nat.le_add_left 1 rounds, ?_, fun _ => Nat.le_refl 1, fun _ => reached rfl⟩
          rw [List.append_nil, List.replicate_one, List.flatten_singleton]
      | error cause =>
          -- The rounds that follow are put behind this one.
          have later : Emits log (fun result later => ∀ earlier,
              earlier = question ∧ (Except.error cause = Except.ok () → question ≠ []) →
                Waits question (rounds + 1) result (earlier ++ later))
              (client.awaitWithin rounds (some cause)) := by
            refine (ih (some cause)).mono ?_
            rintro result later ⟨made, within, rfl, _, reached⟩ earlier ⟨rfl, _⟩
            refine ⟨made + 1, Nat.succ_le_succ within, ?_, fun _ => Nat.le_add_left 1 made, reached⟩
            rw [List.replicate_succ, List.flatten_cons]
          by_cases more : 0 < rounds
          · simp only [more, if_true]
            refine (leaves.pause client.retryInterval).bind fun _ => later.mono ?_
            rintro result emitted fits paused rfl
            exact fits
          · simp only [more, if_false]
            exact later

theorem waitUntilAvailable (leaves : Leaves log question posted client) :
    Emits log (Waits question client.maxAttempts) client.waitUntilAvailable :=
  leaves.awaitWithin client.maxAttempts none

theorem submitBytes (leaves : Leaves log question posted client)
    (positive : 0 < client.maxAttempts) {call : Call} {query : String}
    (submits : call.query? = some query) :
    Emits log (fun _ emitted => call.Leaves client.maxAttempts question posted emitted)
      (client.submitBytes query) := by
  refine leaves.waitUntilAvailable.bind fun waited => ?_
  cases waited with
  | error cause =>
      refine .pure ?_
      rintro earlier ⟨made, within, rfl, asked, _⟩
      rw [List.append_nil]
      exact .rounds (asked positive) within
  | ok available =>
      refine (leaves.interpret query).bind fun _ => .pure ?_
      rintro emitted rfl earlier ⟨made, within, rfl, asked, reached⟩
      rw [List.append_nil]
      exact .query (asked positive) within (reached rfl) submits

theorem submit (leaves : Leaves log question posted client) (positive : 0 < client.maxAttempts)
    (query : String) :
    Emits log (fun _ emitted =>
      (Call.submit query).Leaves client.maxAttempts question posted emitted)
      (client.submit query) := by
  refine (leaves.submitBytes positive rfl).bind_quiet fun result => ?_
  cases result with
  | error cause => exact .pure rfl
  | ok body => exact .pure rfl

theorem submitAndExport (leaves : Leaves log question posted client)
    (positive : 0 < client.maxAttempts) {storage : Storage (StateM S)}
    (quiet : ∀ path content, Emits log (fun _ emitted => emitted = [])
      (storage.write path content)) (query path : String) :
    Emits log (fun _ emitted =>
      (Call.submitAndExport query path).Leaves client.maxAttempts question posted emitted)
      (client.submitAndExport storage query path) := by
  refine (leaves.submitBytes positive rfl).bind_quiet fun result => ?_
  cases result with
  | error cause => exact .pure rfl
  | ok body =>
      refine (quiet path body).bind_quiet fun outcome => ?_
      cases outcome with
      | error cause => exact .pure rfl
      | ok done => exact .pure rfl

/-- **A call leaves the questions of its rounds, and perhaps its query.** -/
theorem perform (leaves : Leaves log question posted client) (positive : 0 < client.maxAttempts)
    {storage : Storage (StateM S)}
    (quiet : ∀ path content, Emits log (fun _ emitted => emitted = [])
      (storage.write path content)) (call : Call) :
    Emits log (fun _ emitted => call.Leaves client.maxAttempts question posted emitted)
      (call.perform client storage) := by
  cases call with
  | probe =>
      have asked : Emits log (fun _ emitted =>
          Call.probe.Leaves client.maxAttempts question posted emitted) client.probe := by
        refine leaves.probe.mono ?_
        have once : Call.probe.Leaves client.maxAttempts question posted
            (List.replicate 1 question).flatten := .rounds (Nat.le_refl 1) positive
        rw [List.replicate_one, List.flatten_singleton] at once
        rintro _ _ ⟨rfl, _⟩
        exact once
      exact asked.bind_quiet fun _ => .pure rfl
  | wait =>
      have waited : Emits log (fun _ emitted =>
          Call.wait.Leaves client.maxAttempts question posted emitted)
          client.waitUntilAvailable := by
        refine leaves.waitUntilAvailable.mono ?_
        rintro _ _ ⟨made, within, rfl, asked, _⟩
        exact .rounds (asked positive) within
      exact waited.bind_quiet fun _ => .pure rfl
  | submit query => exact (leaves.submit positive query).bind_quiet fun _ => .pure rfl
  | submitBytes query => exact (leaves.submitBytes positive rfl).bind_quiet fun _ => .pure rfl
  | submitAndExport query path =>
      exact (leaves.submitAndExport positive quiet query path).bind_quiet fun _ => .pure rfl

end Leaves

end Leaves

end Client

end OverpassQuery

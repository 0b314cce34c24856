import OverpassQuery.Scripted.Engine

/-!
# Submission in rounds

A round is one question to the status endpoint. It fails when the endpoint is not
reached, it is busy when the answer is no 200 and says so, and in all other cases
the engine is available (`Outcome.Failed`, `Outcome.Busy`, `Outcome.Available`).

On a scripted engine the whole course of a submission follows from its rounds
(`Client.submitBytes_in_rounds`). The first available round, if the limit reaches it,
is followed by one query, whose answer is final. If no round is available there is no
query, and the failure is that of the last round (`Outcome.FailsWith`).

One round is `Client.probe_run`. Rounds in a row are an induction on the limit, once up to
an available round (`Client.awaitWithin_of_available`) and once to the end of the limit
(`Client.awaitWithin_of_none_available`).
-/

set_option autoImplicit false

namespace OverpassQuery

namespace Utf8

theorem occursIn_iff {needle chars : List Char} :
    occursIn needle chars = true ↔ needle <:+: chars := by
  induction chars with
  | nil => rw [occursIn, List.isEmpty_iff, List.infix_nil]
  | cons char rest ih =>
      rw [occursIn, Bool.or_eq_true, List.isPrefixOf_iff_prefix, ih, List.infix_cons_iff]

theorem contains_iff {bytes : Bytes} {needle : String} :
    contains bytes needle = true ↔ needle.toList <:+: (decodeLossy bytes).toList := by
  rw [contains, occursIn_iff, decodeLossy, String.toList_ofList]

end Utf8

/-! ## Kinds of rounds -/

namespace Outcome

/-- The endpoint was not reached. -/
def Failed (outcome : Outcome) : Prop := ∃ error, outcome = .error error

/-- The answer is no 200, and its text contains the phrase for a busy engine. -/
def Busy (outcome : Outcome) : Prop :=
  ∃ response, outcome = .ok response ∧ response.status ≠ 200 ∧
    rateLimitMarker.toList <:+: response.text.toList

/-- Everything else, also a 200 that contains the phrase, and a refusal without it. -/
def Available (outcome : Outcome) : Prop := ¬ outcome.Failed ∧ ¬ outcome.Busy

/-- The error of a round that is failed or busy. -/
inductive FailsWith : Outcome → SubmitError → Prop where
  | failed (error : TransportError) : FailsWith (.error error) (.transport error)
  | busy {response : Response} (busy : Busy (.ok response)) :
      FailsWith (.ok response) (.rateLimited response.text)

/-- What an answer to a query amounts to. -/
inductive Yields : Outcome → Except SubmitError Bytes → Prop where
  | body {response : Response} (accepted : response.status = 200) :
      Yields (.ok response) (.ok response.body)
  | refused {response : Response} (refused : response.status ≠ 200) :
      Yields (.ok response) (.error (.engine response.status response.text))
  | unreached (error : TransportError) : Yields (.error error) (.error (.transport error))

end Outcome

theorem Response.isBusy_iff {response : Response} :
    response.isBusy = true ↔ Outcome.Busy (.ok response) := by
  rw [isBusy, Bool.and_eq_true, bne_iff_ne, Utf8.contains_iff]
  constructor
  · rintro ⟨status, marked⟩
    exact ⟨response, rfl, status, marked⟩
  · rintro ⟨_, same, status, marked⟩
    cases same
    exact ⟨status, marked⟩

namespace Outcome

theorem busy_or_available (response : Response) :
    Busy (.ok response) ∨ Available (.ok response) := by
  by_cases busy : Busy (.ok response)
  · exact .inl busy
  · exact .inr ⟨nofun, busy⟩

theorem not_available_of_failsWith {outcome : Outcome} {cause : SubmitError}
    (fails : outcome.FailsWith cause) : ¬ outcome.Available := by
  cases fails with
  | failed error => exact fun available => available.1 ⟨error, rfl⟩
  | busy busy => exact fun available => available.2 busy

/-- The error of a round tells a busy round from a failed one. -/
theorem FailsWith.isRateLimited_iff {outcome : Outcome} {cause : SubmitError}
    (fails : outcome.FailsWith cause) : cause.isRateLimited = true ↔ outcome.Busy := by
  cases fails with
  | failed error => simp [SubmitError.isRateLimited, Busy]
  | busy busy => simp [SubmitError.isRateLimited, busy]

end Outcome

namespace Client

theorem availability_of_available {outcome : Outcome} (available : outcome.Available) :
    availability outcome = .ok () := by
  cases outcome with
  | error error => exact absurd ⟨error, rfl⟩ available.1
  | ok response =>
      have free : response.isBusy ≠ true := fun busy => available.2 (Response.isBusy_iff.mp busy)
      rw [availability, if_neg free]

theorem availability_of_not_available {outcome : Outcome} (unavailable : ¬ outcome.Available) :
    ∃ cause, outcome.FailsWith cause ∧ availability outcome = .error cause := by
  cases outcome with
  | error error => exact ⟨_, .failed error, rfl⟩
  | ok response =>
      have busy := (Outcome.busy_or_available response).resolve_right unavailable
      refine ⟨_, .busy busy, ?_⟩
      rw [availability, if_pos (Response.isBusy_iff.mpr busy)]

theorem received_yields (outcome : Outcome) : outcome.Yields (received outcome) := by
  cases outcome with
  | error error => exact .unreached error
  | ok response =>
      by_cases accepted : response.status = 200
      · rw [received, if_pos accepted]
        exact .body accepted
      · rw [received, if_neg accepted]
        exact .refused accepted

end Client

/-! ## Rounds on a scripted engine -/

namespace ScriptedEngine

/-- The outcome of a round, the next one being number 0. -/
def round (engine : ScriptedEngine) (index : Nat) : Outcome :=
  engine.probes.getD index afterScript

/-- An engine after a number of rounds. -/
def afterRounds (engine : ScriptedEngine) (rounds : Nat) : ScriptedEngine :=
  { engine with
    probes := engine.probes.drop rounds
    requests := engine.requests ++ List.replicate rounds .status }

/-- An engine after a query. -/
def afterQuery (engine : ScriptedEngine) (query : String) : ScriptedEngine :=
  { engine with
    answers := engine.answers.tail
    requests := engine.requests ++ [.interpret query] }

theorem round_succ (engine : ScriptedEngine) (index : Nat) :
    engine.round (index + 1) = (engine.afterRounds 1).round index := by
  simp [round, afterRounds, List.getD_eq_getElem?_getD]

theorem afterRounds_succ (engine : ScriptedEngine) (rounds : Nat) :
    engine.afterRounds (rounds + 1) = (engine.afterRounds 1).afterRounds rounds := by
  simp [afterRounds, List.replicate_succ]

end ScriptedEngine

namespace Client

open ScriptedEngine

/-- The client of a scripted engine, with its limit of rounds and its interval. -/
def scripted (attempts seconds : Nat) : Client (StateM ScriptedEngine) :=
  ((ofTransport ScriptedEngine.transport).withMaxAttempts attempts).withRetryInterval seconds

variable {attempts seconds : Nat}

theorem probe_run (engine : ScriptedEngine) :
    (scripted attempts seconds).probe.run engine
      = (availability (engine.round 0), engine.afterRounds 1) := by
  cases engine with
  | mk probes answers requests files =>
      cases probes with
      | nil => rfl
      | cons outcome rest => rfl

/-- A round that finds the engine available ends the waiting. -/
theorem awaitWithin_run_available {engine : ScriptedEngine}
    (available : (engine.round 0).Available) (rounds : Nat) (last : Option SubmitError) :
    ((scripted attempts seconds).awaitWithin (rounds + 1) last).run engine
      = (.ok (), engine.afterRounds 1) := by
  rw [awaitWithin, StateT.run_bind, probe_run, availability_of_available available]
  rfl

/-- Any other round hands its error to the next. -/
theorem awaitWithin_run_unavailable {engine : ScriptedEngine}
    (unavailable : ¬ (engine.round 0).Available) :
    ∃ cause, (engine.round 0).FailsWith cause ∧ ∀ rounds last,
      ((scripted attempts seconds).awaitWithin (rounds + 1) last).run engine
        = ((scripted attempts seconds).awaitWithin rounds (some cause)).run
            (engine.afterRounds 1) := by
  obtain ⟨cause, fails, found⟩ := availability_of_not_available unavailable
  refine ⟨cause, fails, fun rounds last => ?_⟩
  rw [awaitWithin, StateT.run_bind, probe_run, found]
  cases rounds with
  | zero => rfl
  | succ rounds => rfl

/-- Waiting takes as many rounds as it takes to find the engine available. -/
theorem awaitWithin_of_available (index : Nat) :
    ∀ {engine : ScriptedEngine} {rounds : Nat} (last : Option SubmitError), index < rounds →
      (engine.round index).Available →
      (∀ earlier < index, ¬ (engine.round earlier).Available) →
      ((scripted attempts seconds).awaitWithin rounds last).run engine
        = (.ok (), engine.afterRounds (index + 1)) := by
  induction index with
  | zero =>
      intro engine rounds last within available _
      obtain ⟨rounds, rfl⟩ := Nat.exists_eq_add_one_of_ne_zero (Nat.ne_of_gt within)
      exact awaitWithin_run_available available rounds last
  | succ index ih =>
      intro engine rounds last within available before
      obtain ⟨rounds, rfl⟩ := Nat.exists_eq_add_one_of_ne_zero (Nat.ne_zero_of_lt within)
      obtain ⟨cause, _, next⟩ := awaitWithin_run_unavailable (before 0 (Nat.succ_pos index))
      rw [next, afterRounds_succ engine (index + 1)]
      refine ih (some cause) (Nat.lt_of_succ_lt_succ within) ?_ fun earlier isEarlier => ?_
      · rw [← round_succ]
        exact available
      · rw [← round_succ]
        exact before (earlier + 1) (Nat.succ_lt_succ isEarlier)

/-- Waiting in vain takes all rounds, and ends with the error of the last of them. -/
theorem awaitWithin_of_none_available (rounds : Nat) :
    ∀ {engine : ScriptedEngine} (last : Option SubmitError),
      (∀ index < rounds + 1, ¬ (engine.round index).Available) →
      ∃ cause, (engine.round rounds).FailsWith cause ∧
        ((scripted attempts seconds).awaitWithin (rounds + 1) last).run engine
          = (.error (.unavailable (max attempts 1) (some cause)),
              engine.afterRounds (rounds + 1)) := by
  induction rounds with
  | zero =>
      intro engine last unavailable
      obtain ⟨cause, fails, next⟩ := awaitWithin_run_unavailable (unavailable 0 Nat.one_pos)
      exact ⟨cause, fails, next 0 last⟩
  | succ rounds ih =>
      intro engine last unavailable
      obtain ⟨first, _, next⟩ := awaitWithin_run_unavailable (unavailable 0 (Nat.succ_pos _))
      obtain ⟨cause, fails, waited⟩ := @ih (engine.afterRounds 1) (some first)
        fun index within => by
          rw [← round_succ]
          exact unavailable (index + 1) (Nat.succ_lt_succ within)
      refine ⟨cause, ?_, ?_⟩
      · rw [round_succ]
        exact fails
      · rw [next, waited, ← afterRounds_succ]

/-- A client that waits in vain asks as often as its limit says. -/
theorem waitUntilAvailable_of_none_available {engine : ScriptedEngine}
    (unavailable : ∀ index < max attempts 1, ¬ (engine.round index).Available) :
    ∃ cause, (engine.round (max attempts 1 - 1)).FailsWith cause ∧
      (scripted attempts seconds).waitUntilAvailable.run engine
        = (.error (.unavailable (max attempts 1) (some cause)),
            engine.afterRounds (max attempts 1)) := by
  obtain ⟨rounds, limit⟩ : ∃ rounds, max attempts 1 = rounds + 1 :=
    Nat.exists_eq_add_one_of_ne_zero (Nat.ne_of_gt (Nat.le_max_right attempts 1))
  rw [limit] at unavailable
  obtain ⟨cause, fails, waited⟩ :=
    @awaitWithin_of_none_available attempts seconds rounds engine none unavailable
  rw [← limit] at waited
  refine ⟨cause, ?_, waited⟩
  rw [limit]
  exact fails

/-! ## Submission -/

/-- The first available round is followed by the query. -/
theorem submitBytes_of_available {engine : ScriptedEngine} {index : Nat}
    (within : index < max attempts 1) (available : (engine.round index).Available)
    (before : ∀ earlier < index, ¬ (engine.round earlier).Available) (query : String) :
    ((scripted attempts seconds).submitBytes query).run engine
      = (received (engine.answers.headD afterScript),
          (engine.afterRounds (index + 1)).afterQuery query) := by
  have waited : (scripted attempts seconds).waitUntilAvailable.run engine
      = (.ok (), engine.afterRounds (index + 1)) :=
    awaitWithin_of_available index none within available before
  rw [submitBytes, StateT.run_bind, waited]
  rfl

/-- Without an available round there is no query. -/
theorem submitBytes_of_none_available {engine : ScriptedEngine}
    (unavailable : ∀ index < max attempts 1, ¬ (engine.round index).Available) (query : String) :
    ∃ cause, (engine.round (max attempts 1 - 1)).FailsWith cause ∧
      ((scripted attempts seconds).submitBytes query).run engine
        = (.error (.unavailable (max attempts 1) (some cause)),
            engine.afterRounds (max attempts 1)) := by
  obtain ⟨cause, fails, waited⟩ :=
    @waitUntilAvailable_of_none_available attempts seconds engine unavailable
  refine ⟨cause, fails, ?_⟩
  rw [submitBytes, StateT.run_bind, waited]
  rfl

/-- **The course of a submission.** Let the limit be `rounds`, which is at least one. If a
round within the limit is the first to find the engine available, the requests are the
questions up to that round and then the query, once; the result is what the answer to the
query yields. If no round within the limit finds it available, the requests are one
question for each round, and the result is that the engine was unavailable in so many
rounds, with the error of the last round; it counts as rate limited exactly when that
round was busy. In both cases the files are untouched. -/
theorem submitBytes_in_rounds (engine : ScriptedEngine) (attempts seconds : Nat)
    (query : String) :
    let rounds := max attempts 1
    let ended := ((scripted attempts seconds).submitBytes query).run engine
    (∀ index < rounds, (engine.round index).Available →
      (∀ earlier < index, ¬ (engine.round earlier).Available) →
        ended.2.requests
            = engine.requests ++ List.replicate (index + 1) .status ++ [.interpret query] ∧
          (engine.answers.headD afterScript).Yields ended.1 ∧
          ended.2 = (engine.afterRounds (index + 1)).afterQuery query) ∧
      ((∀ index < rounds, ¬ (engine.round index).Available) →
        ended.2.requests = engine.requests ++ List.replicate rounds .status ∧
          (∃ cause, (engine.round (rounds - 1)).FailsWith cause ∧
            ended.1 = .error (.unavailable rounds (some cause)) ∧
            ((SubmitError.unavailable rounds (some cause)).isRateLimited = true ↔
              (engine.round (rounds - 1)).Busy)) ∧
          ended.2 = engine.afterRounds rounds) := by
  intro rounds ended
  constructor
  · intro index within available before
    have run : ended = _ := submitBytes_of_available within available before query
    rw [run]
    exact ⟨rfl, received_yields _, rfl⟩
  · intro unavailable
    obtain ⟨cause, fails, run⟩ :=
      @submitBytes_of_none_available attempts seconds engine unavailable query
    have run : ended = _ := run
    rw [run]
    exact ⟨rfl, ⟨cause, fails, rfl, fails.isRateLimited_iff⟩, rfl⟩

/-- An engine that is busy, then cannot be reached, then is available although its answer
contains the phrase for a busy one. It refuses the query. -/
def reluctantEngine : ScriptedEngine :=
  let phrase := Utf8.encode "0 slots available after: 12:00"
  start [.ok ⟨429, phrase⟩, .error ⟨"status", "closed"⟩, .ok ⟨200, phrase⟩] [.ok ⟨400, []⟩]
    ⟨[], [], []⟩

theorem reluctantEngine_rounds :
    (reluctantEngine.round 2).Available ∧
      ∀ earlier < 2, ¬ (reluctantEngine.round earlier).Available := by
  have busy : Outcome.Busy (reluctantEngine.round 0) := Response.isBusy_iff.mp (by decide +kernel)
  refine ⟨⟨nofun, ?_⟩, fun earlier isEarlier => ?_⟩
  · rintro ⟨_, same, status, _⟩
    cases same
    exact status rfl
  · match earlier, isEarlier with
    | 0, _ => exact Outcome.not_available_of_failsWith (.busy busy)
    | 1, _ => exact Outcome.not_available_of_failsWith (.failed _)

/-- Three rounds reach the available one and post the query; two rounds do not, and end
with the failure of the second. -/
theorem reluctantEngine_in_rounds :
    (((scripted 3 5).submitBytes "out;").run reluctantEngine).2.requests
        = [.status, .status, .status, .interpret "out;"] ∧
      (((scripted 2 5).submitBytes "out;").run reluctantEngine).2.requests
        = [.status, .status] ∧
      ∃ cause, (Outcome.FailsWith (.error ⟨"status", "closed"⟩) cause) ∧
        (((scripted 2 5).submitBytes "out;").run reluctantEngine).1
          = .error (.unavailable 2 (some cause)) := by
  obtain ⟨available, before⟩ := reluctantEngine_rounds
  have reached :=
    (submitBytes_in_rounds reluctantEngine 3 5 "out;").1 2 (by decide) available before
  have inVain := (submitBytes_in_rounds reluctantEngine 2 5 "out;").2 before
  obtain ⟨cause, fails, failed, _⟩ := inVain.2.1
  exact ⟨reached.1, inVain.1, cause, fails, failed⟩

end Client

end OverpassQuery

import Mathlib.Data.List.Forall2

/-!
# Computations with a state

Two ways to speak about computations that read and change a state, without running them.

One computation goes along with another if from related states they come to related results
and leave related states (`Simulates`). The states may be of different kinds. With a relation
between a state and itself this says that a property of states is kept.

A state may hold a log that only grows. What a computation adds to it is described together
with its result (`Emits`). If only the kind of the entries matters, this is also a relation of
states that is kept (`Grown`).

Both are kept when computations are put together, so what is built from a few operations
needs these to be looked at alone.
-/

set_option autoImplicit false

namespace OverpassQuery

/-! ## Side by side -/

section Simulation

variable {S T α β γ δ ι : Type}

/-- From related states two computations come to related results and leave related states. -/
def Simulates (states : S → T → Prop) (results : α → β → Prop) (run : StateM S α)
    (other : StateM T β) : Prop :=
  ∀ state otherState, states state otherState →
    results (run.run state).1 (other.run otherState).1 ∧
      states (run.run state).2 (other.run otherState).2

namespace Simulates

variable {states : S → T → Prop} {results : α → β → Prop}

theorem pure {value : α} {otherValue : β} (related : results value otherValue) :
    Simulates states results (Pure.pure value) (Pure.pure otherValue) :=
  fun _ _ relatedStates => ⟨related, relatedStates⟩

theorem mono {looser : α → β → Prop} {run : StateM S α} {other : StateM T β}
    (simulates : Simulates states results run other)
    (loosened : ∀ value otherValue, results value otherValue → looser value otherValue) :
    Simulates states looser run other :=
  fun _ _ related => (simulates _ _ related).imp_left (loosened _ _)

theorem flip {run : StateM S α} {other : StateM T α} (simulates : Simulates states Eq run other) :
    Simulates (Function.swap states) Eq other run :=
  fun _ _ related => (simulates _ _ related).imp_left Eq.symm

/-- What one computation gives, the other gives too. -/
theorem run_eq {run : StateM S α} {other : StateM T α} {state after : S} {otherState : T}
    {value : α} (simulates : Simulates states Eq run other) (related : states state otherState)
    (ran : run.run state = (value, after)) :
    ∃ otherAfter, other.run otherState = (value, otherAfter) ∧ states after otherAfter := by
  obtain ⟨same, afterwards⟩ := simulates state otherState related
  rw [ran] at same afterwards
  exact ⟨(other.run otherState).2, Prod.ext same.symm rfl, afterwards⟩

theorem bind {lastly : γ → δ → Prop} {run : StateM S α} {other : StateM T β}
    {next : α → StateM S γ} {otherNext : β → StateM T δ}
    (simulates : Simulates states results run other)
    (nextSimulates : ∀ value otherValue, results value otherValue →
      Simulates states lastly (next value) (otherNext otherValue)) :
    Simulates states lastly (run >>= next) (other >>= otherNext) := by
  intro state otherState related
  obtain ⟨values, after⟩ := simulates state otherState related
  rw [StateT.run_bind, StateT.run_bind]
  exact nextSimulates _ _ values _ _ after

/-- One computation for each item of a list, in turn. -/
theorem mapM {visit : ι → StateM S α} {otherVisit : ι → StateM T β}
    (each : ∀ item, Simulates states results (visit item) (otherVisit item)) (items : List ι) :
    Simulates states (List.Forall₂ results) (items.mapM visit) (items.mapM otherVisit) := by
  induction items with
  | nil => exact pure .nil
  | cons item rest ih =>
      rw [List.mapM_cons, List.mapM_cons]
      exact (each item).bind fun _ _ first => ih.bind fun _ _ others => pure (.cons first others)

theorem forM {visit : ι → StateM S PUnit} {otherVisit : ι → StateM T PUnit}
    (each : ∀ item, Simulates states Eq (visit item) (otherVisit item)) (items : List ι) :
    Simulates states Eq (items.forM visit) (items.forM otherVisit) := by
  induction items with
  | nil => exact pure rfl
  | cons item rest ih =>
      rw [List.forM, List.forM]
      exact (each item).bind fun _ _ _ => ih

/-- One computation after another, either of which can fail. -/
theorem exceptT_bind {ε : Type} {first : ExceptT ε (StateM S) α} {other : ExceptT ε (StateM T) α}
    {next : α → ExceptT ε (StateM S) γ} {otherNext : α → ExceptT ε (StateM T) γ}
    (simulates : Simulates states Eq first.run other.run)
    (nextSimulates : ∀ value, Simulates states Eq (next value).run (otherNext value).run) :
    Simulates states Eq (first >>= next).run (other >>= otherNext).run := by
  rw [ExceptT.run_bind, ExceptT.run_bind]
  refine simulates.bind ?_
  rintro result _ rfl
  cases result with
  | error cause => exact pure rfl
  | ok value => exact nextSimulates value

theorem mapError {ε ε' : Type} {run : StateM S (Except ε α)} {other : StateM T (Except ε α)}
    (rename : ε → ε') (simulates : Simulates states Eq run other) :
    Simulates states Eq (ExceptT.mk do return (← run).mapError rename).run
      (ExceptT.mk do return (← other).mapError rename).run := by
  refine simulates.bind ?_
  rintro result _ rfl
  exact pure rfl

end Simulates

end Simulation

/-! ## What is added to a log -/

section Log

variable {S E α β ι : Type}

/-- A computation adds to the end of a log, and what it adds fits its result. -/
def Emits (log : S → List E) (fits : α → List E → Prop) (run : StateM S α) : Prop :=
  ∀ state, ∃ emitted, log (run.run state).2 = log state ++ emitted ∧
    fits (run.run state).1 emitted

namespace Emits

variable {log : S → List E} {fits : α → List E → Prop}

theorem pure {value : α} (fit : fits value []) : Emits log fits (Pure.pure value) :=
  fun _ => ⟨[], (List.append_nil _).symm, fit⟩

theorem mono {run : StateM S α} {looser : α → List E → Prop} (emits : Emits log fits run)
    (loosened : ∀ value emitted, fits value emitted → looser value emitted) :
    Emits log looser run := by
  intro state
  obtain ⟨emitted, added, fit⟩ := emits state
  exact ⟨emitted, added, loosened _ _ fit⟩

/-- What comes second is described with what was added first in front of it. -/
theorem bind {lastly : β → List E → Prop} {run : StateM S α} {next : α → StateM S β}
    (emits : Emits log fits run)
    (nextEmits : ∀ value, Emits log (fun result later =>
      ∀ earlier, fits value earlier → lastly result (earlier ++ later)) (next value)) :
    Emits log lastly (run >>= next) := by
  intro state
  obtain ⟨earlier, added, fit⟩ := emits state
  obtain ⟨later, addedLater, lastFit⟩ := nextEmits (run.run state).1 (run.run state).2
  refine ⟨earlier ++ later, ?_, lastFit earlier fit⟩
  rw [StateT.run_bind]
  exact addedLater.trans (by rw [added, List.append_assoc])

/-- What comes second may add nothing. -/
theorem bind_quiet {kept : List E → Prop} {run : StateM S α} {next : α → StateM S β}
    (emits : Emits log (fun _ emitted => kept emitted) run)
    (quiet : ∀ value, Emits log (fun _ emitted => emitted = []) (next value)) :
    Emits log (fun _ emitted => kept emitted) (run >>= next) := by
  refine emits.bind fun value => (quiet value).mono ?_
  rintro _ _ rfl earlier fit
  rwa [List.append_nil]

/-- What is added may be limited to entries of some kind. What comes second may use what is
known of the first result. -/
theorem bind_within {allowed : E → Prop} {kept : α → Prop} {lastly : β → Prop} {run : StateM S α}
    {next : α → StateM S β}
    (emits : Emits log (fun value emitted => kept value ∧ ∀ entry ∈ emitted, allowed entry) run)
    (nextEmits : ∀ value, kept value → Emits log
      (fun value emitted => lastly value ∧ ∀ entry ∈ emitted, allowed entry) (next value)) :
    Emits log (fun value emitted => lastly value ∧ ∀ entry ∈ emitted, allowed entry)
      (run >>= next) := by
  intro state
  obtain ⟨earlier, added, known, within⟩ := emits state
  obtain ⟨later, addedLater, lastKnown, withinLater⟩ := nextEmits _ known (run.run state).2
  refine ⟨earlier ++ later, ?_, lastKnown, List.forall_mem_append.mpr ⟨within, withinLater⟩⟩
  rw [StateT.run_bind]
  exact addedLater.trans (by rw [added, List.append_assoc])

theorem within {allowed : E → Prop} {entry : E} {run : StateM S α}
    (emits : Emits log (fun _ emitted => emitted = [entry]) run) (may : allowed entry) :
    Emits log (fun _ emitted => True ∧ ∀ other ∈ emitted, allowed other) run := by
  refine emits.mono ?_
  rintro _ _ rfl
  exact ⟨trivial, List.forall_mem_singleton.mpr may⟩

/-- One computation for each item of a list, each of which adds the same in every state. -/
theorem forM {visit : ι → StateM S PUnit} {part : ι → List E}
    (each : ∀ item, Emits log (fun _ emitted => emitted = part item) (visit item))
    (items : List ι) : Emits log (fun _ emitted => emitted = items.flatMap part)
      (items.forM visit) := by
  induction items with
  | nil => exact pure rfl
  | cons item rest ih =>
      rw [List.forM]
      refine (each item).bind fun _ => ih.mono ?_
      rintro _ _ rfl _ rfl
      rw [List.flatMap_cons]

theorem forM_quiet {visit : ι → StateM S PUnit}
    (each : ∀ item, Emits log (fun _ emitted => emitted = []) (visit item)) (items : List ι) :
    Emits log (fun _ emitted => emitted = []) (items.forM visit) := by
  refine (forM each items).mono ?_
  rintro _ _ rfl
  exact List.flatMap_eq_nil_iff.mpr fun _ _ => rfl

/-- One computation for each item of a list, in turn. -/
theorem mapM {visit : ι → StateM S α} {part : ι → List E → Prop}
    (each : ∀ item, Emits log (fun _ emitted => part item emitted) (visit item))
    (items : List ι) :
    Emits log (fun _ emitted => ∃ parts, List.Forall₂ part items parts ∧ emitted = parts.flatten)
      (items.mapM visit) := by
  induction items with
  | nil => exact pure ⟨[], .nil, rfl⟩
  | cons item rest ih =>
      rw [List.mapM_cons]
      refine (each item).bind fun first => ih.bind fun others => pure ?_
      rintro _ ⟨parts, fit, rfl⟩ emitted firstFit
      exact ⟨emitted :: parts, .cons firstFit fit, by rw [List.append_nil, List.flatten_cons]⟩

end Emits

/-! ## Logs as a relation of states -/

/-- States that are the same, with a log that has grown by some kind of entries. -/
def Grown (log : S → List E) (allowed : E → Prop) (base : List E) (state other : S) : Prop :=
  state = other ∧ ∃ added, log state = base ++ added ∧ ∀ entry ∈ added, allowed entry

theorem Emits.simulates {log : S → List E} {allowed : E → Prop} {run : StateM S α}
    (emits : Emits log (fun _ emitted => ∀ entry ∈ emitted, allowed entry) run) (base : List E) :
    Simulates (Grown log allowed base) Eq run run := by
  rintro state _ ⟨rfl, earlier, grown, within⟩
  obtain ⟨later, added, withinLater⟩ := emits state
  refine ⟨rfl, rfl, earlier ++ later, ?_, List.forall_mem_append.mpr ⟨within, withinLater⟩⟩
  rw [added, grown, List.append_assoc]

theorem Simulates.emits {log : S → List E} {allowed : E → Prop} {run : StateM S α}
    {results : α → α → Prop}
    (simulates : ∀ base, Simulates (Grown log allowed base) results run run) :
    Emits log (fun _ emitted => ∀ entry ∈ emitted, allowed entry) run := by
  intro state
  obtain ⟨-, -, added, grown, within⟩ := simulates (log state) state state
    ⟨rfl, [], (List.append_nil _).symm, nofun⟩
  exact ⟨added, grown, within⟩

end Log

/-! ## Two states held together -/

section Beside

variable {S T U α β : Type}

/-- A computation on the first of two states. -/
def onFirst (run : StateM S α) : StateM (S × T) α :=
  modifyGet fun states => ((run.run states.1).1, ((run.run states.1).2, states.2))

/-- A computation on the second of two states. -/
def onSecond (run : StateM T α) : StateM (S × T) α :=
  modifyGet fun states => ((run.run states.2).1, (states.1, (run.run states.2).2))

/-- First states that are related, beside the same second state. -/
def FirstRelated (related : S → U → Prop) (states : S × T) (others : U × T) : Prop :=
  related states.1 others.1 ∧ states.2 = others.2

theorem Simulates.onFirst {related : S → U → Prop} {results : α → β → Prop}
    {run : StateM S α} {other : StateM U β} (simulates : Simulates related results run other) :
    Simulates (FirstRelated (T := T) related) results (onFirst run) (onFirst other) := by
  rintro states others ⟨first, second⟩
  obtain ⟨values, after⟩ := simulates states.1 others.1 first
  exact ⟨values, after, second⟩

theorem Simulates.onSecond {related : S → U → Prop} (run : StateM T α) :
    Simulates (FirstRelated related) Eq (onSecond run) (onSecond run) := by
  rintro ⟨first, second⟩ ⟨other, _⟩ ⟨relatedFirst, rfl⟩
  exact ⟨rfl, relatedFirst, rfl⟩

theorem Emits.onFirst {E : Type} {log : S → List E} {fits : α → List E → Prop}
    {run : StateM S α} (emits : Emits log fits run) :
    Emits (fun states : S × T => log states.1) fits (onFirst run) :=
  fun states => emits states.1

theorem Emits.onSecond {E : Type} {log : S → List E} (run : StateM T α) :
    Emits (fun states : S × T => log states.1) (fun _ emitted => emitted = []) (onSecond run) :=
  fun _ => ⟨[], (List.append_nil _).symm, rfl⟩

end Beside

end OverpassQuery

import OverpassQuery.Proofs.Statement.Reachable
import OverpassQuery.Scripted.Engine

/-!
# Stored text is rendered text

Each node of a tree stores its text, and a block puts its text together from what
its members store. In a reachable statement the text stored at every node is the
one that `Statement.render` writes from the fields below it
(`Statement.WellFormed.text_eq_render`).

What a client hands to the query engine is observed by noting each query before it
is handed over (`Client.noting`). A submission hands over the query it was given,
once the engine is available (`Client.submitBytes_handsOver`), so executing a reachable
sequence hands over what its statements render to.
-/

set_option autoImplicit false

namespace OverpassQuery

namespace Statement

/-! ## Text of trees -/

/-- Statements that store what they render to do so as a list. -/
theorem texts_eq_renderAll {statements : List Statement}
    (rendered : ∀ statement ∈ statements, statement.text = statement.render) :
    texts statements = renderAll statements := by
  induction statements with
  | nil => exact texts_nil
  | cons statement rest ih =>
      rw [List.forall_mem_cons] at rendered
      rw [texts_cons, renderAll, rendered.1, ih rendered.2]

/-- A filter that is reachable stores the clause of its condition. -/
theorem map_written_of_reachable {filter : Option ElementFilter}
    (filtered : ∀ attached ∈ filter, attached.Reachable) :
    (filter.map fun attached => ElementFilter.written attached.condition) = filter := by
  cases filter with
  | none => rfl
  | some attached =>
      rw [Option.map_some, ← (filtered attached rfl).eq_written.2]

/-- **A well-formed statement stores what its fields render to.** -/
theorem WellFormed.text_eq_render {statement : Statement} (formed : statement.WellFormed) :
    statement.text = statement.render := by
  induction formed with
  | element elementType predicates filtered =>
      rw [ElementStatement.make, render, map_written_of_reachable filtered]
      rfl
  | setReference name => rfl
  | out verbosity => rfl
  | recurse direction => rfl
  | settings made => rfl
  | union named flat formed rendered =>
      rw [UnionStatement.written, render, ← texts_eq_renderAll rendered]
      simp only [text, UnionStatement.opening, UnionStatement.closing, String.append_assoc]
  | difference named flat _ _ first second =>
      rw [DifferenceStatement.written, render, ← first, ← second]
      rfl
  | sequence formed rendered =>
      rw [Sequence.ofList, render, ← texts_eq_renderAll rendered]
      rfl

end Statement

/-! ## Queries that are handed over -/

section Noting

variable {m : Type → Type} [Monad m]

/-- Round trips that note each query before it is handed over. -/
def Transport.noting (transport : Transport m) : Transport (StateT (List String) m) where
  status := liftM transport.status
  interpret query := do
    modify (· ++ [query])
    liftM (transport.interpret query)
  pause seconds := liftM (transport.pause seconds)

/-- A client that notes each query before it is handed over. -/
def Client.noting (client : Client m) : Client (StateT (List String) m) :=
  ⟨client.transport.noting, client.maxAttempts, client.retryInterval⟩

/-- File operations beside the notes. -/
def Storage.noting (storage : Storage m) : Storage (StateT (List String) m) where
  isFile path := liftM (storage.isFile path)
  read path := liftM (storage.read path)
  write path content := liftM (storage.write path content)

/-- A call that waits for the engine as the client does, and hands over one query, once,
exactly when the engine is available: whatever was noted before, the query is added to it
then, and nothing is added otherwise. -/
def HandsOver {α : Type} (client : Client m) (query : String)
    (call : StateT (List String) m (Except SubmitError α)) : Prop :=
  ∃ completed : m (Except SubmitError α), ∀ noted : List String, call.run noted = do
    match ← client.waitUntilAvailable with
    | .error cause => return (.error cause, noted)
    | .ok () => return (← completed, noted ++ [query])

theorem run_liftM {α : Type} (call : m α) (noted : List String) :
    (liftM call : StateT (List String) m α).run noted =
      call >>= fun result => pure (result, noted) := rfl

variable [LawfulMonad m]

/-- What follows such a call may use its result, and passes its failures on. -/
theorem HandsOver.bind {α β : Type} {client : Client m} {query : String}
    {call : StateT (List String) m (Except SubmitError α)} (hands : HandsOver client query call)
    (next : α → ExceptT SubmitError m β) :
    HandsOver client query (call >>= fun result => liftM (ExceptT.bindCont next result)) := by
  obtain ⟨completed, run⟩ := hands
  refine ⟨completed >>= ExceptT.bindCont next, fun noted => ?_⟩
  rw [StateT.run_bind, run, bind_assoc]
  congr 1
  funext outcome
  cases outcome with
  | error cause => simp [ExceptT.bindCont]
  | ok available => simp

namespace Client

theorem probe_noting (client : Client m) : client.noting.probe = liftM client.probe := by
  rw [probe, probe, liftM_bind]
  simp only [liftM_pure]
  rfl

/-- Waiting for the engine notes nothing. -/
theorem awaitWithin_noting (client : Client m) (rounds : Nat) :
    ∀ last : Option SubmitError,
      client.noting.awaitWithin rounds last = liftM (client.awaitWithin rounds last) := by
  induction rounds with
  | zero =>
      intro last
      rw [awaitWithin, awaitWithin, liftM_pure]
      rfl
  | succ rounds ih =>
      intro last
      rw [awaitWithin, awaitWithin, liftM_bind, probe_noting]
      congr 1
      funext outcome
      cases outcome with
      | ok available => exact (liftM_pure _).symm
      | error cause =>
          by_cases more : 0 < rounds
          · simp only [more, if_true, liftM_bind, ih]
            rfl
          · simp only [more, if_false, ih]

/-- **A submission hands over its query, once the engine is available.** -/
theorem submitBytes_handsOver (client : Client m) (query : String) :
    HandsOver client query (client.noting.submitBytes query) := by
  refine ⟨received <$> client.transport.interpret query, fun noted => ?_⟩
  have waited : client.noting.waitUntilAvailable = liftM client.waitUntilAvailable :=
    client.awaitWithin_noting client.maxAttempts none
  rw [submitBytes, waited, StateT.run_bind, run_liftM, bind_assoc]
  congr 1
  funext outcome
  rw [pure_bind]
  cases outcome with
  | error cause => simp
  | ok available => simp [noting, Transport.noting]

theorem submit_handsOver (client : Client m) (query : String) :
    HandsOver client query (client.noting.submit query) := by
  have lifted : client.noting.submit query = client.noting.submitBytes query >>= fun result =>
      liftM (ExceptT.bindCont (m := m) (fun body => pure (Utf8.decodeLossy body)) result) := by
    rw [submit]
    congr 1
    funext result
    cases result with
    | error cause => exact (liftM_pure _).symm
    | ok body => exact (liftM_pure _).symm
  rw [lifted]
  exact (client.submitBytes_handsOver query).bind _

/-- What is done with the bytes of an answer that is exported. -/
def writing (storage : Storage m) (path : String) (body : Bytes) : ExceptT SubmitError m String :=
  ExceptT.mk do
    let outcome ← storage.write path body
    return (outcome.mapError (SubmitError.unwritten path)).map fun _ => Utf8.decodeLossy body

theorem submitAndExport_handsOver (client : Client m) (storage : Storage m)
    (query path : String) :
    HandsOver client query (client.noting.submitAndExport storage.noting query path) := by
  have lifted : client.noting.submitAndExport storage.noting query path =
      client.noting.submitBytes query >>= fun result =>
        liftM (ExceptT.bindCont (writing storage path) result) := by
    rw [submitAndExport]
    congr 1
    funext result
    cases result with
    | error cause => exact (liftM_pure _).symm
    | ok body =>
        simp only [ExceptT.bindCont, writing, ExceptT.mk, liftM_bind]
        congr 1
        funext outcome
        cases outcome with
        | error cause => exact (liftM_pure _).symm
        | ok written => exact (liftM_pure _).symm
  rw [lifted]
  exact (client.submitBytes_handsOver query).bind _

end Client

end Noting

namespace Statement

/-- **Stored text is rendered text, and rendered text is what is submitted.** At every
node of a reachable statement the stored text is the rendering of the node's fields. For
a reachable sequence, each way of executing it hands the rendering of its statements in
their order to the query engine, once, exactly when the engine is available. -/
theorem Reachable.stored_text_is_rendered {statement : Statement}
    (reachable : statement.Reachable) :
    (∀ node ∈ statement.nodes, node.text = node.render) ∧
      ∀ sequence : Sequence, statement = .sequence sequence →
        ∀ {m : Type → Type} [Monad m] [LawfulMonad m] (client : Client m) (storage : Storage m)
          (path : String),
          HandsOver client (renderAll sequence.statements) (sequence.execute client.noting) ∧
          HandsOver client (renderAll sequence.statements)
            (sequence.executeBytes client.noting) ∧
          HandsOver client (renderAll sequence.statements)
            (sequence.executeAndExport client.noting storage.noting path) := by
  have formed := reachable.wellFormed
  refine ⟨fun node occurs => (formed.of_mem_nodes node occurs).text_eq_render, ?_⟩
  rintro sequence rfl m _ _ client storage path
  have stored : sequence.text = renderAll sequence.statements := formed.text_eq_render
  rw [← stored]
  exact ⟨client.submit_handsOver _, client.submitBytes_handsOver _,
    client.submitAndExport_handsOver storage _ path⟩

/-- The history of `grownUnion`, in a sequence that is executed on a scripted engine. -/
theorem stored_text_of_grownUnion :
    (Statement.sequence (Sequence.ofList [.union grownUnion])).Reachable ∧
      (∀ node ∈ (Statement.sequence (Sequence.ofList [.union grownUnion])).nodes,
        node.text = node.render) ∧
      HandsOver (Client.ofTransport ScriptedEngine.transport) "(<;out count;)->.roads;"
        ((Sequence.ofList [.union grownUnion]).executeBytes
          (Client.ofTransport ScriptedEngine.transport).noting) := by
  have reachable : (Statement.sequence (Sequence.ofList [.union grownUnion])).Reachable :=
    .sequence (List.forall_mem_singleton.mpr grownUnion_reachable)
  have rendered := reachable.stored_text_is_rendered
  refine ⟨reachable, rendered.1, ?_⟩
  have executed := (rendered.2 _ rfl (Client.ofTransport ScriptedEngine.transport)
    ScriptedEngine.storage "").2.1
  have text : renderAll [.union grownUnion] = "(<;out count;)->.roads;" := by decide +kernel
  rwa [← text]

end Statement

end OverpassQuery

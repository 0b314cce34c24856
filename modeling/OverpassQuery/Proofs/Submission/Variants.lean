import OverpassQuery.Proofs.Statement.StoredText
import OverpassQuery.Proofs.Storage.Written
import OverpassQuery.Proofs.Submission.Calls

/-!
# Three ways to submit a query

A submission for text or for a file is a submission for bytes, and something done with the bytes
afterwards: they are decoded (`Client.submit_eq_map`), or written and decoded
(`Client.submitAndExport_eq_bind`). This is so for a client in any lawful monad.

On a scripted engine the exchange itself leaves the files alone and, if it gives a body, has posted
the query once (`Client.submitBytes_run`). The three ways therefore make the same requests
and fail alike; only an answer that is exported reaches the disk, byte by byte
(`Client.submissions_share_exchange`).
-/

set_option autoImplicit false

namespace OverpassQuery

/-! ## After the bytes -/

namespace Client

section AnyMonad

variable {m : Type → Type} [Monad m]

theorem submit_eq_map [LawfulMonad m] (client : Client m) (query : String) :
    client.submit query = Except.map Utf8.decodeLossy <$> client.submitBytes query := by
  rw [submit, map_eq_pure_bind]
  congr 1
  funext result
  cases result with
  | error cause => rfl
  | ok body => rfl

theorem submitAndExport_eq_bind (client : Client m) (storage : Storage m) (query path : String) :
    client.submitAndExport storage query path =
      client.submitBytes query >>= ExceptT.bindCont (writing storage path) := by
  rw [submitAndExport]
  congr 1
  funext result
  cases result with
  | error cause => rfl
  | ok body =>
      simp only [ExceptT.bindCont, writing, ExceptT.mk]
      congr 1
      funext outcome
      cases outcome with
      | error cause => rfl
      | ok written => rfl

end AnyMonad

end Client

namespace ScriptedEngine

/-! ## What an exchange leaves -/

theorem posted_afterRounds (engine : ScriptedEngine) (rounds : Nat) :
    (engine.afterRounds rounds).posted = engine.posted := by
  rw [posted, afterRounds, List.filterMap_append, List.filterMap_replicate_of_none rfl,
    List.append_nil, posted]

theorem posted_afterQuery (engine : ScriptedEngine) (query : String) :
    (engine.afterQuery query).posted = engine.posted ++ [query] := by
  rw [posted, afterQuery, List.filterMap_append]
  rfl

end ScriptedEngine

namespace Client

open ScriptedEngine

variable {attempts seconds : Nat}

theorem submitBytes_keeps_files (engine : ScriptedEngine) (query : String) :
    (((scripted attempts seconds).submitBytes query).run engine).2.files = engine.files := by
  obtain ⟨index, _, ⟨cause, run⟩ | ⟨_, run⟩⟩ := @submitBytes_run attempts seconds engine query
  · rw [run, afterRounds]
  · rw [run, afterQuery, afterRounds]

/-- A body is the answer to a query that was posted once. -/
theorem submitBytes_posted {engine : ScriptedEngine} {query : String} {body : Bytes}
    (answered : (((scripted attempts seconds).submitBytes query).run engine).1 = .ok body) :
    (((scripted attempts seconds).submitBytes query).run engine).2.posted
      = engine.posted ++ [query] := by
  obtain ⟨index, _, ⟨cause, run⟩ | ⟨_, run⟩⟩ := @submitBytes_run attempts seconds engine query
  · rw [run] at answered
    cases answered
  · rw [run, posted_afterQuery, posted_afterRounds]

theorem submit_run (client : Client (StateM ScriptedEngine)) (engine : ScriptedEngine)
    (query : String) :
    (client.submit query).run engine =
      (((client.submitBytes query).run engine).1.map Utf8.decodeLossy,
        ((client.submitBytes query).run engine).2) := by
  rw [submit_eq_map]
  rfl

/-- A failed exchange has nothing to write. -/
theorem submitAndExport_run_error {client : Client (StateM ScriptedEngine)}
    {storage : Storage (StateM ScriptedEngine)} {engine : ScriptedEngine} {query path : String}
    {cause : SubmitError} (failed : ((client.submitBytes query).run engine).1 = .error cause) :
    (client.submitAndExport storage query path).run engine
      = (.error cause, ((client.submitBytes query).run engine).2) := by
  rw [submitAndExport_eq_bind]
  show StateT.run (ExceptT.bindCont (writing storage path)
    ((client.submitBytes query).run engine).1) _ = _
  rw [failed]
  rfl

/-- A body is handed to the disk once, and the disk decides what becomes of the export. -/
theorem submitAndExport_run_ok {client : Client (StateM ScriptedEngine)}
    {disk : Storage (StateM FileTree)} {engine : ScriptedEngine} {query path : String}
    {body : Bytes} (answered : ((client.submitBytes query).run engine).1 = .ok body) :
    (client.submitAndExport (storageOf disk) query path).run engine =
      let left := ((client.submitBytes query).run engine).2
      let written := (disk.write path body).run left.files
      ((written.1.mapError (.unwritten path)).map fun _ => Utf8.decodeLossy body,
        { left with files := written.2 }) := by
  rw [submitAndExport_eq_bind]
  show StateT.run (ExceptT.bindCont (writing (storageOf disk) path)
    ((client.submitBytes query).run engine).1) _ = _
  rw [answered]
  rfl

/-- On a file tree an export writes the body under the path, or leaves all as it is. -/
theorem submitAndExport_run_tree {client : Client (StateM ScriptedEngine)}
    {engine : ScriptedEngine} {query path : String} {body : Bytes}
    (answered : ((client.submitBytes query).run engine).1 = .ok body) :
    let left := ((client.submitBytes query).run engine).2
    (∃ files, left.files.HasWritten path body files ∧
        (client.submitAndExport ScriptedEngine.storage query path).run engine
          = (.ok (Utf8.decodeLossy body), { left with files := files })) ∨
      ∃ cause, left.files.write path body = .error cause ∧
        (client.submitAndExport ScriptedEngine.storage query path).run engine
          = (.error (.unwritten path cause), left) := by
  intro left
  have onTree := @submitAndExport_run_ok client (FileTree.storage id fun _ files => files) engine
    query path body answered
  rw [storageOf_fileTree] at onTree
  simp only [FileTree.run_storage_write, id] at onTree
  cases wrote : left.files.write path body with
  | ok files =>
      rw [wrote] at onTree
      exact .inl ⟨files, FileTree.hasWritten_of_write wrote, onTree⟩
  | error cause =>
      rw [wrote] at onTree
      exact .inr ⟨cause, rfl, onTree⟩

/-- **The three ways to submit a query share one exchange.** A submission for text and one for a
file leave the engine as the submission for bytes leaves it, with the same requests made, and
only an export changes files. If the exchange fails, all three fail with the same error and no
file is touched. If it gives a body, the query was posted once; the text is the lossy
decoding of the body, and an export hands the body itself to the disk, in one write to the
given path. On a file tree either the path then holds the body and all else is as before, or the
write fails, and so does the export, for that path and with nothing touched. The same holds for
a sequence whose text is the query. -/
theorem submissions_share_exchange (attempts seconds : Nat) (engine : ScriptedEngine)
    (query path : String) :
    let client := scripted attempts seconds
    let bytes := (client.submitBytes query).run engine
    let text := (client.submit query).run engine
    let exported (storage : Storage (StateM ScriptedEngine)) :=
      (client.submitAndExport storage query path).run engine
    (text.2 = bytes.2 ∧ bytes.2.files = engine.files ∧
        ∀ disk, ∃ files, (exported (storageOf disk)).2 = { bytes.2 with files := files }) ∧
      (∀ cause, bytes.1 = .error cause →
        text.1 = .error cause ∧ ∀ storage, exported storage = (.error cause, bytes.2)) ∧
      (∀ body, bytes.1 = .ok body →
        bytes.2.posted = engine.posted ++ [query] ∧
          text.1 = .ok (Utf8.decodeLossy body) ∧
          (∀ disk : Storage (StateM FileTree),
            let written := (disk.write path body).run engine.files
            exported (storageOf disk) =
              ((written.1.mapError (.unwritten path)).map fun _ => Utf8.decodeLossy body,
                { bytes.2 with files := written.2 })) ∧
          ((∃ files, engine.files.HasWritten path body files ∧
              exported ScriptedEngine.storage
                = (.ok (Utf8.decodeLossy body), { bytes.2 with files := files })) ∨
            ∃ cause, engine.files.write path body = .error cause ∧
              exported ScriptedEngine.storage = (.error (.unwritten path cause), bytes.2))) ∧
      ∀ sequence : Sequence, sequence.text = query →
        (sequence.executeBytes client).run engine = bytes ∧
          (sequence.execute client).run engine = text ∧
          ∀ storage, (sequence.executeAndExport client storage path).run engine
            = exported storage := by
  intro client bytes text exported
  have kept : bytes.2.files = engine.files := submitBytes_keeps_files engine query
  have decoded : text = (bytes.1.map Utf8.decodeLossy, bytes.2) := submit_run client engine query
  refine ⟨⟨by rw [decoded], kept, fun disk => ?_⟩, fun cause failed => ?_,
    fun body answered => ?_, ?_⟩
  · cases outcome : bytes.1 with
    | error cause => exact ⟨bytes.2.files, congrArg Prod.snd (submitAndExport_run_error outcome)⟩
    | ok body => exact ⟨_, congrArg Prod.snd (submitAndExport_run_ok outcome)⟩
  · exact ⟨by rw [decoded, failed]; rfl, fun storage => submitAndExport_run_error failed⟩
  · refine ⟨submitBytes_posted answered, by rw [decoded, answered]; rfl, fun disk => ?_, ?_⟩
    · rw [← kept]
      exact submitAndExport_run_ok answered
    · rw [← kept]
      exact submitAndExport_run_tree answered
  · rintro sequence rfl
    exact ⟨rfl, rfl, fun storage => rfl⟩

/-- A file holds the body of an answer although no text has these bytes. -/
theorem submissions_of_undecodable_body :
    let engine := start [.error ⟨"status", "closed"⟩] [.ok ⟨200, [0xFF]⟩] ⟨[], [], []⟩
    (((scripted 2 5).submitBytes "out;").run engine).1 = .ok [0xFF] ∧
      (((scripted 2 5).submit "out;").run engine).1 = .ok "\uFFFD" ∧
      (((scripted 2 5).submitAndExport ScriptedEngine.storage "out;" "answer").run
        engine).2.files.read "answer" = .ok [0xFF] := by
  intro engine
  have answered : (((scripted 2 5).submitBytes "out;").run engine).1 = .ok [0xFF] := by rfl
  obtain ⟨_, decoded, _, exported⟩ :=
    (submissions_share_exchange 2 5 engine "out;" "answer").2.2.1 [0xFF] answered
  have replaced : Utf8.decodeLossy [0xFF] = "\uFFFD" := by decide +kernel
  refine ⟨answered, by rw [decoded, replaced], ?_⟩
  rcases exported with ⟨files, written, exported⟩ | ⟨cause, refused, _⟩
  · exact (congrArg (·.2.files.read "answer") exported).trans written.read
  · cases refused

end Client

end OverpassQuery

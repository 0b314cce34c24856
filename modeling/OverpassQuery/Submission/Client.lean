import OverpassQuery.Statement
import OverpassQuery.Storage

/-!
# Submitting queries

Before a query is posted, the status endpoint is asked whether the engine is
available. It is busy when it answers with a status other than 200 and a body
that says when slots are available; every other answer counts as available. The
question is repeated in rounds up to a limit. Once the engine is available the
query is posted exactly once, and an answer with a status other than 200 is
final.

The client is written for any monad in which the two round trips can be made. It
does not say what it is doing: the lines that inform of its rounds are left out.
-/

set_option autoImplicit false

namespace OverpassQuery

/-- The answer of an endpoint. -/
structure Response where
  status : Nat
  body : Bytes
  deriving DecidableEq

/-- The phrase that the status endpoint uses when no slot is free. -/
def rateLimitMarker : String := "slots available after"

namespace Response

/-- The body as text, whatever its bytes. -/
def text (response : Response) : String := Utf8.decodeLossy response.body

/-- Whether the status endpoint says that no slot is free. -/
def isBusy (response : Response) : Bool :=
  response.status != 200 && Utf8.contains response.body rateLimitMarker

end Response

/-- The round trips to the query engine, and the pause between two rounds. -/
structure Transport (m : Type → Type) where
  status : m (Except TransportError Response)
  interpret : String → m (Except TransportError Response)
  pause : Nat → m Unit

/-- A client of the query engine. -/
structure Client (m : Type → Type) where
  transport : Transport m
  maxAttempts : Nat
  /-- Seconds between two rounds. -/
  retryInterval : Nat

namespace Client

variable {m : Type → Type} [Monad m]

/-- A client that asks once, and would wait five seconds between rounds. -/
def ofTransport (transport : Transport m) : Client m := ⟨transport, 1, 5⟩

/-- A client with another limit of rounds; there is always one. -/
def withMaxAttempts (client : Client m) (attempts : Nat) : Client m :=
  { client with maxAttempts := max attempts 1 }

/-- A client with another interval between rounds. -/
def withRetryInterval (client : Client m) (seconds : Nat) : Client m :=
  { client with retryInterval := seconds }

/-! ## Availability -/

/-- What the outcome of a status request says about the engine. -/
def availability : Except TransportError Response → Except SubmitError Unit
  | .error error => .error (.transport error)
  | .ok response => if response.isBusy then .error (.rateLimited response.text) else .ok ()

/-- One question whether the engine is available. -/
def probe (client : Client m) : m (Except SubmitError Unit) := do
  return availability (← client.transport.status)

/-- Rounds of questions until the engine is available; the cause of the last is kept. -/
def awaitWithin (client : Client m) : Nat → Option SubmitError → m (Except SubmitError Unit)
  | 0, last => return .error (.unavailable client.maxAttempts last)
  | rounds + 1, _ => do
      match ← client.probe with
      | .ok () => return .ok ()
      | .error cause =>
          if 0 < rounds then client.transport.pause client.retryInterval
          client.awaitWithin rounds (some cause)

/-- As many rounds of questions as the client makes. -/
def waitUntilAvailable (client : Client m) : m (Except SubmitError Unit) :=
  client.awaitWithin client.maxAttempts none

/-! ## Submission -/

/-- The body of the engine's answer to a query. -/
def received : Except TransportError Response → Except SubmitError Bytes
  | .error error => .error (.transport error)
  | .ok response =>
      if response.status = 200 then .ok response.body
      else .error (.engine response.status response.text)

/-- Submits a query once the engine is available. -/
def submitBytes (client : Client m) (query : String) : m (Except SubmitError Bytes) := do
  match ← client.waitUntilAvailable with
  | .error cause => return .error cause
  | .ok () => return received (← client.transport.interpret query)

/-- Submits a query and gives the answer as text. -/
def submit (client : Client m) (query : String) : m (Except SubmitError String) := do
  match ← client.submitBytes query with
  | .error cause => return .error cause
  | .ok body => return .ok (Utf8.decodeLossy body)

/-- Submits a query, writes the bytes of the answer to a file, and gives it as text. -/
def submitAndExport (client : Client m) (storage : Storage m) (query path : String) :
    m (Except SubmitError String) := do
  match ← client.submitBytes query with
  | .error cause => return .error cause
  | .ok body =>
      match ← storage.write path body with
      | .error cause => return .error (.unwritten path cause)
      | .ok () => return .ok (Utf8.decodeLossy body)

end Client

/-! ## Sequences -/

namespace Sequence

variable {m : Type → Type} [Monad m]

/-- Submits a sequence and gives the answer as text. -/
def execute (sequence : Sequence) (client : Client m) : m (Except SubmitError String) :=
  client.submit sequence.text

/-- Submits a sequence and gives the bytes of the answer. -/
def executeBytes (sequence : Sequence) (client : Client m) : m (Except SubmitError Bytes) :=
  client.submitBytes sequence.text

/-- Submits a sequence and writes the answer to a file. -/
def executeAndExport (sequence : Sequence) (client : Client m) (storage : Storage m)
    (path : String) : m (Except SubmitError String) :=
  client.submitAndExport storage sequence.text path

end Sequence

end OverpassQuery

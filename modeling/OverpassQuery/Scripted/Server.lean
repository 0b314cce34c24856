import OverpassQuery.Http.Exchange

/-!
# A scripted server

A server whose answers are a list prepared beforehand. Each request that reaches
it, whatever its path, takes the next one and is recorded, the latest last. Once
the list is used up connections are closed without an answer. Requests to
another address reach no server.
-/

set_option autoImplicit false

namespace OverpassQuery

/-- What a server does with a request. -/
inductive ServerAnswer where
  | reply (status : Nat) (content : Bytes)
  /-- The connection is closed before the whole content is sent. -/
  | brokenOff (status : Nat) (content : Bytes)
  /-- The connection is closed without an answer. -/
  | closed
  deriving DecidableEq

/-- The state of a scripted server. -/
structure ScriptedServer where
  host : String
  portNumber : Nat
  answers : List ServerAnswer
  requests : List Http.Request

namespace ServerAnswer

/-- What the client receives. -/
def outcome : ServerAnswer → Except String Response
  | .reply status content => .ok (Http.received status content)
  | .brokenOff status content =>
      if Http.isBodiless status then .ok (Http.received status content)
      else .error "connection closed before the end of the body"
  | .closed => .error "connection closed without an answer"

end ServerAnswer

namespace ScriptedServer

/-- A server before its first request. -/
def start (host : String) (portNumber : Nat) (answers : List ServerAnswer) : ScriptedServer :=
  ⟨host, portNumber, answers, []⟩

/-- Whether a request to an address reaches the server. -/
def isAt (server : ScriptedServer) (url : Url) : Bool :=
  url.scheme = .http && url.host = server.host && url.portNumber = server.portNumber

/-- The outcome of a request, and the server after it. -/
def handle (server : ScriptedServer) (request : Http.Request) :
    Except String Response × ScriptedServer :=
  if server.isAt request.url then
    ((server.answers.headD .closed).outcome,
      { server with
        answers := server.answers.tail
        requests := server.requests ++ [request] })
  else (.error "no server can be reached", server)

/-- Exchanges with a server inside a larger state. -/
def exchange {State : Type} (server : State → ScriptedServer)
    (withServer : State → ScriptedServer → State) : Http.Exchange (StateM State) :=
  fun request => do
    let state ← get
    let (outcome, server) := (server state).handle request
    set (withServer state server)
    return outcome

end ScriptedServer

end OverpassQuery

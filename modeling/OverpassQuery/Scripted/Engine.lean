import OverpassQuery.Submission.Client

/-!
# A scripted query engine

An engine whose answers are two lists prepared beforehand, one for the status
endpoint and one for queries. When a list is used up the answer is 200 with an
empty body. Every request is recorded, the latest last.
-/

set_option autoImplicit false

namespace OverpassQuery

/-- What comes of a request. -/
abbrev Outcome := Except TransportError Response

/-- A request to the query engine. -/
inductive EngineRequest where
  | status
  | interpret (query : String)
  deriving DecidableEq

/-- The state of a scripted engine, with the files that answers are written to. -/
structure ScriptedEngine where
  probes : List Outcome
  answers : List Outcome
  requests : List EngineRequest
  files : FileTree

namespace ScriptedEngine

/-- The answer of an engine whose script is used up. -/
def afterScript : Outcome := .ok ⟨200, []⟩

/-- An engine before its first request. -/
def start (probes answers : List Outcome) (files : FileTree) : ScriptedEngine :=
  ⟨probes, answers, [], files⟩

/-- The next answer of the status endpoint. -/
def takeProbe (engine : ScriptedEngine) : Outcome × ScriptedEngine :=
  (engine.probes.headD afterScript,
    { engine with probes := engine.probes.tail, requests := engine.requests ++ [.status] })

/-- The next answer to a query. -/
def takeAnswer (engine : ScriptedEngine) (query : String) : Outcome × ScriptedEngine :=
  (engine.answers.headD afterScript,
    { engine with
      answers := engine.answers.tail
      requests := engine.requests ++ [.interpret query] })

/-- The round trips to a scripted engine, without pauses. -/
def transport : Transport (StateM ScriptedEngine) where
  status := modifyGet takeProbe
  interpret query := modifyGet fun engine => engine.takeAnswer query
  pause _ := return ()

/-- The files beside a scripted engine. -/
def storage : Storage (StateM ScriptedEngine) :=
  FileTree.storage ScriptedEngine.files fun engine files => { engine with files := files }

/-- The number of status requests so far. -/
def probeCount (engine : ScriptedEngine) : Nat := engine.requests.count .status

/-- The queries posted so far, in order. -/
def posted (engine : ScriptedEngine) : List String :=
  engine.requests.filterMap fun request =>
    match request with
    | .interpret query => some query
    | .status => none

end ScriptedEngine

end OverpassQuery

import OverpassQuery.Configuration
import OverpassQuery.Proofs.Submission.AnyClient
import OverpassQuery.Scripted.Server

/-!
# Services behind one network

The query engine and the geocoder of a configuration are reached over one network: questions,
queries and searches take its answers in the order in which they are made, which depends on
the answers before them.

**Assumption.** Of the exchanges with a network only this is relied on (`Http.Reliable`): a
request to an address that is served takes the next answer, which is a status with a whole
body or a failed connection; any other request fails and reaches nothing. In which words a
failure is told is left open.

**Refinement.** The same services are also given over a list of answers, without any messages
(`Configuration.scripted`). Over a network they come to the same replies, use up the same
answers, and send the requests that are recorded there, in the same order
(`Configuration.overNetwork_refines_scripted`). A call on the engine sends the questions of its
rounds and after them at most one query, and a search sends one request
(`ServiceCall.Leaves`).

Files, pauses and diagnostics are those of any other state.
-/

set_option autoImplicit false

namespace OverpassQuery

/-! ## Calls on services -/

/-- The services of a configuration, with the files that answers are written to. -/
structure Services (m : Type → Type) where
  client : Client m
  storage : Storage m
  geocoder : Geocoder m

/-- What services can be called for. -/
inductive ServiceCall where
  | engine (call : Call)
  | resolve (place : String)

/-- What comes of a call. -/
inductive ServiceReply where
  | engine (result : Except SubmitError Reply)
  | resolve (result : Except GeocodeError Ring)

/-- Replies that are the same, up to the words in which a failure of the network is told. -/
inductive ServiceReply.Agree : ServiceReply → ServiceReply → Prop where
  | engine {result other : Except SubmitError Reply}
      (agree : OverpassQuery.Agree SubmitError.unworded result other) :
      Agree (.engine result) (.engine other)
  | resolve {result other : Except GeocodeError Ring}
      (agree : OverpassQuery.Agree GeocodeError.unworded result other) :
      Agree (.resolve result) (.resolve other)

section Perform

variable {m : Type → Type} [Monad m]

/-- Makes a call on services. -/
def ServiceCall.perform (services : Services m) : ServiceCall → m ServiceReply
  | .engine call => return .engine (← call.perform services.client services.storage)
  | .resolve place => return .resolve (← services.geocoder place)

/-- Makes calls on services, one after the other, whatever comes of them. -/
def Services.performAll (services : Services m) (calls : List ServiceCall) :
    m (List ServiceReply) :=
  calls.mapM (ServiceCall.perform services)

end Perform

/-! ## What is relied on -/

/-- What is relied on of the exchanges with a network. Its answers are statuses with whole
bodies, or nothing where a connection fails, and it logs the requests that reach it. -/
structure Http.Reliable {Network : Type} (serves : Url → Bool)
    (answers : Network → List (Option Response)) (log : Network → List Http.Request)
    (exchange : Http.Exchange (StateM Network)) : Prop where
  served : ∀ request network, serves request.url = true →
    ((exchange request).run network).1.toOption = (answers network).headD none ∧
      answers ((exchange request).run network).2 = (answers network).tail ∧
      log ((exchange request).run network).2 = log network ++ [request]
  unserved : ∀ request network, serves request.url = false →
    ((exchange request).run network).1.toOption = none ∧
      answers ((exchange request).run network).2 = answers network ∧
      log ((exchange request).run network).2 = log network

namespace ScriptedServer

/-- Exchanges with a scripted server at an address, which has answers left and has logged
requests. -/
def exchangeAt (host : String) (portNumber : Nat) :
    Http.Exchange (StateM (List ServerAnswer × List Http.Request)) :=
  exchange (fun network => ⟨host, portNumber, network.1, network.2⟩)
    fun _ server => (server.answers, server.requests)

/-- What an exchange gives and leaves. -/
theorem exchangeAt_run (host : String) (portNumber : Nat) (request : Http.Request)
    (network : List ServerAnswer × List Http.Request) :
    (exchangeAt host portNumber request).run network =
      if (start host portNumber []).isAt request.url then
        ((network.1.headD .closed).outcome, (network.1.tail, network.2 ++ [request]))
      else (.error "no server can be reached", network) := by
  have handled : (exchangeAt host portNumber request).run network =
      let after := handle ⟨host, portNumber, network.1, network.2⟩ request
      (after.1, (after.2.answers, after.2.requests)) := rfl
  have sameAddress : (ScriptedServer.mk host portNumber network.1 network.2).isAt request.url
      = (start host portNumber []).isAt request.url := rfl
  rw [handled, handle, sameAddress]
  by_cases isServed : (start host portNumber []).isAt request.url = true
  · rw [if_pos isServed, if_pos isServed]
  · rw [if_neg isServed, if_neg isServed]

/-- A scripted server can be relied on. -/
theorem reliable (host : String) (portNumber : Nat) :
    Http.Reliable (start host portNumber []).isAt
      (fun network => network.1.map fun answer => answer.outcome.toOption) Prod.snd
      (exchangeAt host portNumber) where
  served request network isServed := by
    rw [exchangeAt_run, if_pos isServed]
    cases network.1 with
    | nil => exact ⟨rfl, rfl, rfl⟩
    | cons answer rest => exact ⟨rfl, rfl, rfl⟩
  unserved request network isServed := by
    rw [exchangeAt_run, if_neg (ne_true_of_eq_false isServed)]
    exact ⟨rfl, rfl, rfl⟩

end ScriptedServer

/-! ## Services over a list of answers -/

/-- Answers that are given one after the other, and the requests that took them. -/
structure AnswerScript where
  answers : List (Option Response)
  requests : List Http.Request

namespace AnswerScript

/-- A script before the first request. -/
def start (answers : List (Option Response)) : AnswerScript := ⟨answers, []⟩

/-- What an endpoint answers: a status with its body as they are, or a failure that names the
endpoint. -/
def outcome (endpoint : String) : Option Response → Outcome
  | some response => .ok response
  | none => .error ⟨endpoint, ""⟩

/-- Takes the next answer for a request to an endpoint. Without a request nothing is taken. -/
def ask (endpoint : String) : Option Http.Request → StateM AnswerScript Outcome
  | none => return outcome endpoint none
  | some request => modifyGet fun script =>
      (outcome endpoint (script.answers.headD none),
        ⟨script.answers.tail, script.requests ++ [request]⟩)

end AnswerScript

/-- The storage of the second of two states. -/
def Storage.onSecond {S T : Type} (storage : Storage (StateM T)) : Storage (StateM (S × T)) where
  isFile path := OverpassQuery.onSecond (storage.isFile path)
  read path := OverpassQuery.onSecond (storage.read path)
  write path content := OverpassQuery.onSecond (storage.write path content)

namespace Configuration

section Requests

variable (configuration : Configuration) (serves : Url → Bool)

/-- The request that reaches a server, if its endpoint is the text of an address that is
served. -/
def reaching? (endpoint : String) (request : Url → Http.Request) : Option Http.Request :=
  ((Url.ofText? endpoint).map request).filter fun sent => serves sent.url

/-- The question whether the engine is available. -/
def question? : Option Http.Request :=
  reaching? serves configuration.statusEndpoint fun url =>
    { method := .get, url := url, userAgent := configuration.userAgent, contentType := none
      body := [] }

/-- The request that posts a query to the engine. -/
def posting? (query : String) : Option Http.Request :=
  reaching? serves configuration.interpreterEndpoint fun url =>
    { method := .post, url := url, userAgent := configuration.userAgent
      contentType := some "text/plain; charset=utf-8", body := Utf8.encode query }

/-- The request that searches for a place. -/
def search? (place : String) : Option Http.Request :=
  reaching? serves configuration.geocoderEndpoint fun url =>
    { method := .get
      url := url.withParameters [("format", "json"), ("limit", "5"), ("dedupe", "0"),
        ("polygon_geojson", "1"), ("q", place)]
      userAgent := configuration.userAgent, contentType := none, body := [] }

end Requests

section Services

variable {Network Rest : Type} (configuration : Configuration) (serves : Url → Bool)
  (storage : Storage (StateM Rest)) (pause : Nat → StateM Rest Unit)
  (warn : String → StateM Rest Unit)

/-- The services of a configuration over a network. -/
def overNetwork (exchange : Http.Exchange (StateM Network)) :
    Services (StateM (Network × Rest)) where
  client := configuration.client (fun request => onFirst (exchange request))
    fun seconds => onSecond (pause seconds)
  storage := storage.onSecond
  geocoder := configuration.geocoder (fun request => onFirst (exchange request))
    fun warning => onSecond (warn warning)

/-- The services of a configuration over a list of answers. -/
def scripted : Services (StateM (AnswerScript × Rest)) where
  client :=
    { transport :=
        { status := onFirst
            (AnswerScript.ask configuration.statusEndpoint (configuration.question? serves))
          interpret := fun query => onFirst
            (AnswerScript.ask configuration.interpreterEndpoint
              (configuration.posting? serves query))
          pause := fun seconds => onSecond (pause seconds) }
      maxAttempts := max configuration.maxAttempts 1
      retryInterval := configuration.retryInterval }
  storage := storage.onSecond
  geocoder place := do
    let outcome ← onFirst
      (AnswerScript.ask configuration.geocoderEndpoint (configuration.search? serves place))
    match outcome with
    | .error failure => return .error (.transport failure)
    | .ok response =>
        if response.status = 200 then
          (SearchHit.bodyWarnings response.body).forM fun warning => onSecond (warn warning)
          return SearchHit.firstPolygon response.body place
        else return .error (.decode (.status response.status response.text))

end Services

end Configuration

/-! ## Requests side by side -/

/-- A network and a script that have the same answers left, and the same requests made since
the log held some others. -/
def Follows {Network : Type} (answers : Network → List (Option Response))
    (log : Network → List Http.Request) (before : List Http.Request) (network : Network)
    (script : AnswerScript) : Prop :=
  answers network = script.answers ∧ log network = before ++ script.requests

section Refinement

variable {Network Rest : Type} {serves : Url → Bool}
  {answers : Network → List (Option Response)} {log : Network → List Http.Request}
  {exchange : Http.Exchange (StateM Network)}

namespace Http

theorem outcome_agree {outcome : Except String Response} {answer : Option Response}
    (endpoint : String) (same : outcome.toOption = answer) :
    Agree TransportError.unworded (outcome.mapError fun message => ⟨endpoint, message⟩)
      (AnswerScript.outcome endpoint answer) := by
  subst same
  cases outcome with
  | error message => exact .error rfl
  | ok response => exact .ok response

/-- A request to an endpoint goes along with the script that has its answers. -/
theorem Reliable.send (reliable : Reliable serves answers log exchange)
    (before : List Request) (endpoint : String) (request : Url → Request) :
    Simulates (Follows answers log before) (Agree TransportError.unworded)
      (Http.send exchange endpoint request)
      (AnswerScript.ask endpoint (Configuration.reaching? serves endpoint request)) := by
  rw [Http.send, Configuration.reaching?]
  cases Url.ofText? endpoint with
  | none => exact .pure (.error rfl)
  | some url =>
      rintro network script ⟨sameAnswers, sameLog⟩
      rw [Option.map_some, Option.filter_some]
      cases isServed : serves (request url).url with
      | false =>
          obtain ⟨failed, kept, unlogged⟩ := reliable.unserved (request url) network isServed
          simp only [Bool.false_eq_true, if_false]
          exact ⟨outcome_agree endpoint failed, kept.trans sameAnswers, unlogged.trans sameLog⟩
      | true =>
          obtain ⟨given, taken, logged⟩ := reliable.served (request url) network isServed
          simp only [if_true]
          refine ⟨outcome_agree endpoint (given.trans ?_), taken.trans ?_, logged.trans ?_⟩
          · rw [sameAnswers]
          · rw [sameAnswers]
            rfl
          · rw [sameLog, List.append_assoc]
            rfl

theorem send_onFirst (endpoint : String) (request : Url → Request) :
    Http.send (fun sent => onFirst (T := Rest) (exchange sent)) endpoint request
      = onFirst (Http.send exchange endpoint request) := by
  rw [Http.send, Http.send]
  cases Url.ofText? endpoint with
  | none => rfl
  | some url => rfl

/-- The same with another state beside both. -/
theorem Reliable.send_beside (reliable : Reliable serves answers log exchange)
    (before : List Request) (endpoint : String) (request : Url → Request) :
    Simulates (FirstRelated (T := Rest) (Follows answers log before))
      (Agree TransportError.unworded)
      (Http.send (fun sent => onFirst (exchange sent)) endpoint request)
      (onFirst (AnswerScript.ask endpoint (Configuration.reaching? serves endpoint request))) := by
  rw [send_onFirst]
  exact (reliable.send before endpoint request).onFirst

end Http

namespace Configuration

variable (configuration : Configuration) (storage : Storage (StateM Rest))
  (pause : Nat → StateM Rest Unit) (warn : String → StateM Rest Unit)

theorem client_beside (reliable : Http.Reliable serves answers log exchange)
    (before : List Http.Request) :
    Client.Beside TransportError.unworded (FirstRelated (Follows answers log before))
      (configuration.overNetwork storage pause warn exchange).client
      (configuration.scripted serves storage pause warn).client where
  status := reliable.send_beside before configuration.statusEndpoint _
  pause := .onSecond (pause configuration.retryInterval)
  maxAttempts := rfl

theorem geocoder_beside (reliable : Http.Reliable serves answers log exchange)
    (before : List Http.Request) (place : String) :
    Simulates (FirstRelated (Follows answers log before)) (Agree GeocodeError.unworded)
      ((configuration.overNetwork storage pause warn exchange).geocoder place)
      ((configuration.scripted serves storage pause warn).geocoder place) := by
  refine (reliable.send_beside before configuration.geocoderEndpoint _).bind
    fun outcome other agree => ?_
  cases agree with
  | error same => exact .pure (.error (congrArg GeocodeError.transport same))
  | ok response =>
      rw [located, searchWarnings]
      by_cases good : response.status = 200
      · simp only [good, if_true]
        exact (Simulates.forM (fun warning => .onSecond (warn warning)) _).bind
          fun _ _ _ => .pure (.refl _)
      · simp only [good, if_false]
        exact .pure (.refl _)

/-- Each call comes to the same over a network as over the script of its answers. -/
theorem perform_beside (reliable : Http.Reliable serves answers log exchange)
    (before : List Http.Request) (call : ServiceCall) :
    Simulates (FirstRelated (Follows answers log before)) ServiceReply.Agree
      (call.perform (configuration.overNetwork storage pause warn exchange))
      (call.perform (configuration.scripted serves storage pause warn)) := by
  cases call with
  | engine call =>
      have beside := configuration.client_beside storage pause warn reliable before
      exact (beside.perform
        (fun _ => reliable.send_beside before configuration.interpreterEndpoint _)
        (fun path content => .onSecond (storage.write path content)) call).bind
          fun _ _ agree => .pure (.engine agree)
  | resolve place =>
      exact (configuration.geocoder_beside storage pause warn reliable before place).bind
        fun _ _ agree => .pure (.resolve agree)

end Configuration

end Refinement

/-! ## The requests of a call -/

/-- What a call sends: a call on the engine asks a few rounds of questions and then perhaps
posts its query, and a search is one request. A request to an endpoint that is not served
reaches nothing. -/
def ServiceCall.Leaves (configuration : Configuration) (serves : Url → Bool) :
    ServiceCall → List Http.Request → Prop
  | .engine call => call.Leaves (max configuration.maxAttempts 1)
      (configuration.question? serves).toList
      fun query => (configuration.posting? serves query).toList
  | .resolve place => fun sent => sent = (configuration.search? serves place).toList

section Requests

variable {Rest : Type}

/-- The requests recorded in a script beside another state. -/
def AnswerScript.recorded (states : AnswerScript × Rest) : List Http.Request := states.1.requests

/-- Without a request there is no answer. -/
theorem AnswerScript.emits_ask (endpoint : String) (sent? : Option Http.Request) :
    Emits AnswerScript.requests
      (fun outcome emitted => emitted = sent?.toList ∧
        (sent?.toList = [] → ∃ error, outcome = .error error))
      (ask endpoint sent?) := by
  cases sent? with
  | none => exact fun script => ⟨[], (List.append_nil _).symm, rfl, fun _ => ⟨_, rfl⟩⟩
  | some request => exact fun script => ⟨[request], rfl, rfl, nofun⟩

namespace Configuration

variable (configuration : Configuration) (serves : Url → Bool) (storage : Storage (StateM Rest))
  (pause : Nat → StateM Rest Unit) (warn : String → StateM Rest Unit)

theorem scripted_client_leaves :
    Client.Leaves AnswerScript.recorded (configuration.question? serves).toList
      (fun query => (configuration.posting? serves query).toList)
      (configuration.scripted serves storage pause warn).client where
  status := (AnswerScript.emits_ask configuration.statusEndpoint _).onFirst
  interpret _ := (AnswerScript.emits_ask configuration.interpreterEndpoint _).onFirst.mono
    fun _ _ asked => asked.1
  pause seconds := .onSecond (pause seconds)

theorem scripted_geocoder_leaves (place : String) :
    Emits AnswerScript.recorded
      (fun _ sent => sent = (configuration.search? serves place).toList)
      ((configuration.scripted serves storage pause warn).geocoder place) := by
  refine ((AnswerScript.emits_ask configuration.geocoderEndpoint _).onFirst.mono
    fun _ _ asked => asked.1).bind_quiet fun outcome => ?_
  cases outcome with
  | error failure => exact .pure rfl
  | ok response =>
      by_cases good : response.status = 200
      · simp only [good, if_true]
        exact (Emits.forM_quiet (fun warning => .onSecond (warn warning)) _).bind_quiet
          fun _ => .pure rfl
      · simp only [good, if_false]
        exact .pure rfl

/-- Each call over a script records the requests that it is to send. -/
theorem scripted_perform_leaves (call : ServiceCall) :
    Emits AnswerScript.recorded (fun _ sent => call.Leaves configuration serves sent)
      (call.perform (configuration.scripted serves storage pause warn)) := by
  cases call with
  | engine call =>
      have leaves := configuration.scripted_client_leaves serves storage pause warn
      exact (leaves.perform (Nat.le_max_right configuration.maxAttempts 1)
        (fun path content => .onSecond (storage.write path content)) call).bind_quiet
          fun _ => .pure rfl
  | resolve place =>
      exact (configuration.scripted_geocoder_leaves serves storage pause warn place).bind_quiet
        fun _ => .pure rfl

end Configuration

end Requests

/-! ## All calls -/

/-- **Services over a network refine the scripted ones.** -/
theorem Configuration.overNetwork_refines_scripted {Network Rest : Type}
    (configuration : Configuration) {serves : Url → Bool}
    {answers : Network → List (Option Response)} {log : Network → List Http.Request}
    {exchange : Http.Exchange (StateM Network)}
    (reliable : Http.Reliable serves answers log exchange) (storage : Storage (StateM Rest))
    (pause : Nat → StateM Rest Unit) (warn : String → StateM Rest Unit)
    (calls : List ServiceCall) (network : Network) (rest : Rest) :
    let remote := ((configuration.overNetwork storage pause warn exchange).performAll calls).run
      (network, rest)
    let scripted := ((configuration.scripted serves storage pause warn).performAll calls).run
      (AnswerScript.start (answers network), rest)
    List.Forall₂ ServiceReply.Agree remote.1 scripted.1 ∧
      answers remote.2.1 = scripted.2.1.answers ∧ remote.2.2 = scripted.2.2 ∧
      log remote.2.1 = log network ++ scripted.2.1.requests ∧
      ∃ parts, List.Forall₂ (ServiceCall.Leaves configuration serves) calls parts ∧
        scripted.2.1.requests = parts.flatten := by
  intro remote scripted
  have related : FirstRelated (Follows answers log (log network)) (network, rest)
      (AnswerScript.start (answers network), rest) :=
    ⟨⟨rfl, (List.append_nil _).symm⟩, rfl⟩
  have perform_beside :=
    configuration.perform_beside storage pause warn reliable (log network)
  obtain ⟨replies, ⟨left, logged⟩, beside⟩ := Simulates.mapM perform_beside calls _ _ related
  obtain ⟨recorded, added, parts, leaves, rfl⟩ :=
    Emits.mapM (configuration.scripted_perform_leaves serves storage pause warn) calls
      (AnswerScript.start (answers network), rest)
  exact ⟨replies, left, beside, logged, parts, leaves, added.trans (List.nil_append _)⟩

/-- An engine at one host, and a geocoder at no address. -/
def remoteEngine : Configuration where
  interpreterEndpoint := "http://engine/interpreter"
  statusEndpoint := "http://engine/status"
  geocoderEndpoint := "geocoder"
  maxAttempts := 2

/-- The engine is busy, then available, and breaks off its answer; the search reaches nothing,
and the last question finds the connection closed. -/
theorem remoteEngine_refines_scripted :
    let asked : Http.Request :=
      ⟨.get, ⟨.http, "engine", 80, "/status", ""⟩, "osmquery/0.1.0", none, []⟩
    let posted : Http.Request :=
      ⟨.post, ⟨.http, "engine", 80, "/interpreter", ""⟩, "osmquery/0.1.0",
        some "text/plain; charset=utf-8", Utf8.encode "out;"⟩
    let answers := [.reply 429 (Utf8.encode "slots available after: 5 s"), .reply 200 [],
      .brokenOff 200 (Utf8.encode "no more")]
    let calls := [.engine (.submitBytes "out;"), .resolve "here", .engine .probe]
    (((remoteEngine.overNetwork (FileTree.storage id fun _ files => files) (fun _ => return ())
        (fun _ => return ()) (ScriptedServer.exchangeAt "engine" 80)).performAll calls).run
          ((answers, []), FileTree.mk [] [] [])).2.1 = ([], [asked, asked, posted, asked]) := by
  intro asked posted answers calls
  obtain ⟨-, left, -, logged, -⟩ := remoteEngine.overNetwork_refines_scripted
    (ScriptedServer.reliable "engine" 80) (FileTree.storage id fun _ files => files)
    (fun _ => return ()) (fun _ => return ()) calls (answers, []) (FileTree.mk [] [] [])
  refine Prod.ext (List.map_eq_nil_iff.mp (left.trans ?_)) (logged.trans ?_)
  · decide +kernel
  · decide +kernel

end OverpassQuery

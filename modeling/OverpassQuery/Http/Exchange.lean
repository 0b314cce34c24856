import OverpassQuery.Http.Url
import OverpassQuery.Submission.Client

/-!
# Exchanges with a server

A request and what comes of it: the complete answer of the server, or the reason
why there is none. An exchange is all that a program needs of a network.
-/

set_option autoImplicit false

namespace OverpassQuery

namespace Http

/-- The methods of requests. -/
inductive Method where
  | get
  | post
  deriving DecidableEq

/-- The name of a method in a request line. -/
def Method.name : Method → String
  | .get => "GET"
  | .post => "POST"

/-- A request. -/
structure Request where
  method : Method
  url : Url
  userAgent : String
  contentType : Option String
  body : Bytes
  deriving DecidableEq

/-- One request with its answer. -/
abbrev Exchange (m : Type → Type) := Request → m (Except String Response)

/-- Whether the answers with a status have no body, whatever follows their header. -/
def isBodiless (status : Nat) : Bool := status = 204 || status = 304

/-- The answer with a status and the octets that follow its header. -/
def received (status : Nat) (content : Bytes) : Response :=
  ⟨status, if isBodiless status then [] else content⟩

/-- A request for the resource at an address. -/
def getRequest (userAgent : String) (url : Url) : Request := ⟨.get, url, userAgent, none, []⟩

/-- The media type of a query. -/
def queryType : String := "text/plain; charset=utf-8"

/-- A request that posts a text to an address. -/
def postRequest (userAgent : String) (text : String) (url : Url) : Request :=
  ⟨.post, url, userAgent, some queryType, Utf8.encode text⟩

/-- The outcome of a request to an endpoint. Without an address no request is made; each
failure names the endpoint as it was given. -/
def send {m : Type → Type} [Monad m] (exchange : Exchange m) (endpoint : String)
    (request : Url → Request) : m (Except TransportError Response) := do
  match Url.ofText? endpoint with
  | none => return .error ⟨endpoint, "not an address that can be requested"⟩
  | some url => return (← exchange (request url)).mapError fun message => ⟨endpoint, message⟩

end Http

end OverpassQuery

import OverpassQuery.Http.Exchange
import OverpassQuery.Geocoding.SearchHit
import OverpassQuery.Preset.Query

/-!
# Configuration of a client

Where the query engine and the geocoder are, how often the engine is asked
whether it is available, and the name under which requests are made. From a
configuration and a way to exchange requests come the client of the engine and
the geocoder.
-/

set_option autoImplicit false

namespace OverpassQuery

/-- The settings of a client. -/
structure Configuration where
  interpreterEndpoint : String := "https://overpass-api.de/api/interpreter"
  statusEndpoint : String := "https://overpass-api.de/api/status"
  geocoderEndpoint : String := "https://nominatim.openstreetmap.org/search"
  /-- Rounds of questions whether the engine is available. -/
  maxAttempts : Nat := 1
  /-- Seconds between two rounds. -/
  retryInterval : Nat := 5
  userAgent : String := "osmquery/0.1.0"
  deriving DecidableEq

namespace Configuration

/-- The greatest limit of rounds. -/
def maxRounds : Nat := 4294967295

variable {m : Type → Type} [Monad m]

/-! ## The query engine -/

/-- The round trips to the engine that a configuration names. -/
def transport (configuration : Configuration) (exchange : Http.Exchange m)
    (pause : Nat → m Unit) : Transport m where
  status :=
    Http.send exchange configuration.statusEndpoint (Http.getRequest configuration.userAgent)
  interpret query :=
    Http.send exchange configuration.interpreterEndpoint
      (Http.postRequest configuration.userAgent query)
  pause := pause

/-- The client of the engine that a configuration names. -/
def client (configuration : Configuration) (exchange : Http.Exchange m)
    (pause : Nat → m Unit) : Client m :=
  ((Client.ofTransport (configuration.transport exchange pause)).withMaxAttempts
    configuration.maxAttempts).withRetryInterval configuration.retryInterval

/-! ## The geocoder -/

/-- The parameters of a search: five hits at most, each with its outline. -/
def searchParameters (place : String) : List (String × String) :=
  [("format", "json"), ("limit", "5"), ("dedupe", "0"), ("polygon_geojson", "1"), ("q", place)]

/-- The request of a search for a place. -/
def searchRequest (configuration : Configuration) (place : String) (url : Url) : Http.Request :=
  Http.getRequest configuration.userAgent (url.withParameters (searchParameters place))

/-- The ring that comes of a search for a place. -/
def located (place : String) : Except TransportError Response → Except GeocodeError Ring
  | .error error => .error (.transport error)
  | .ok response =>
      if response.status = 200 then SearchHit.firstPolygon response.body place
      else .error (.decode (.status response.status response.text))

/-- The warnings that come of a search. -/
def searchWarnings : Except TransportError Response → List String
  | .error _ => []
  | .ok response => if response.status = 200 then SearchHit.bodyWarnings response.body else []

/-- The geocoder that a configuration names. It warns about the hits it passes over; the lines
that inform of hits of other types and of the one that is used are left out. -/
def geocoder (configuration : Configuration) (exchange : Http.Exchange m)
    (warn : String → m Unit) : Geocoder m := fun place => do
  let outcome ← Http.send exchange configuration.geocoderEndpoint
    (configuration.searchRequest place)
  (searchWarnings outcome).forM warn
  return located place outcome

end Configuration

end OverpassQuery

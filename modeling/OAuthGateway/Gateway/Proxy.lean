import OAuthGateway.Admission.Check
import OAuthGateway.Gateway.Basic
import OAuthGateway.Gateway.Problem

/-!
# Gateway/Proxy — forwarding a request along its route

What no endpoint answers is forwarded or refused. `dispatch` decides: the path is screened, a route
is found, the body is received, the checks of the route run, and the first of these to fail gives
the answer; only what passes them all becomes an `Outgoing` request. `forward` sends that and hands
the reply back. Headers that belong to a single connection stay on it, in both directions.
-/

namespace OAuthGateway

open Http Procedure

/-- The headers that describe a single connection. -/
def connectionHeaders : List String := ["connection", "content-length", "host", "transfer-encoding"]

/-- The headers that go on to the next connection, added one by one. -/
def Http.Headers.passedOn (hs : Headers) : Headers :=
  hs.foldl (fun sent h => if connectionHeaders.contains h.name then sent else sent.add h) []

/-- A request to the service behind a route, as the client that sends it is given it. What becomes
of user information in the address is left to that client. -/
structure Outgoing where
  method : String
  url : String
  headers : Headers
  body : ByteArray

/-- What comes of a request to a service. -/
inductive Reply where
  | answered (status : Nat) (headers : Headers) (stream : Stream)
  | timedOut
  | unreachable
  | failed

/-- What lies behind the gateway: the reply to every request. -/
abbrev Network := Outgoing → Reply

namespace Outgoing

/-- The request that is sent along a route. It is built without a body, and is given one that is not
empty. -/
def ofRequest (route : Route) (r : Request) : Outgoing :=
  let out : Outgoing := {
    method := r.head.method
    url := route.url r.head.target.path r.head.target.query
    headers := r.head.headers.passedOn
    body := .empty
  }
  if r.body.isEmpty then out else { out with body := r.body }

/-- The address is one that requests can be sent to. -/
def isSendable (o : Outgoing) : Bool :=
  match Url.read o.url with
  | .ok url => url.scheme = "http".toList || url.scheme = "https".toList
  | .error _ => false

end Outgoing

/-- The answer that a reply becomes. -/
def Reply.response : Reply → Except Problem Response
  | answered status headers (.whole body) => .ok ⟨status, headers.passedOn, body⟩
  | answered _ _ .broken => .error (.badGateway "Failed to read upstream response body")
  | timedOut => .error (.badGateway "Request timed out while waiting for the upstream service")
  | unreachable =>
    .error (.badGateway "Connection error occurred while connecting to the upstream service")
  | failed => .error (.badGateway "Failed to send request to the upstream service")

/-- Sends a request and hands the reply back; what cannot be sent is not. -/
def forward (network : Network) (o : Outgoing) : Except Problem Response :=
  if o.isSendable then (network o).response else Reply.failed.response

namespace Gateway

/-- Receives the body of a request that is to be forwarded. -/
def receiveBody (g : Gateway) (stream : Stream) : Except Problem ByteArray :=
  match stream.receive g.settings.maxBodyBytes with
  | .ok body => .ok body
  | .error .tooLong => .error (.payloadTooLarge g.settings.maxBodyBytes)
  | .error .broken => .error (.malformed 400 "Failed to read request body")

/-- Decides whether and how a request is forwarded. -/
def dispatch (g : Gateway) (now : Time.Instant) (r : Incoming) : Procedure Problem Outgoing := do
  let path := r.head.target.path
  if Path.hasDotSegment path.toList then throw .invalidPath
  match g.routes.find r.head.method path with
  | none => throw (.routeNotFound path)
  | some route =>
    let body ← verdict (g.receiveBody r.stream)
    let request ← (screen Check.standard route now ⟨r.head, body⟩).mapError Problem.ofRejection
    return .ofRequest route request

/-- Forwards a request along its route. -/
def proxy (g : Gateway) (network : Network) (now : Time.Instant) (r : Incoming) :
    Procedure Problem Response := do
  let outgoing ← g.dispatch now r
  verdict (forward network outgoing)

end Gateway

end OAuthGateway

import OAuthGateway.Admission.Rejection
import OAuthGateway.Authority.Refusal
import OAuthGateway.Http.Message
import OAuthGateway.Json.Value

/-!
# Gateway/Problem — error answers

Every error that the gateway answers itself is a `Problem`: a status, a code for programs and a text
for people. One inside the gateway carries a trace id besides and tells nothing of its cause.
-/

namespace OAuthGateway

open Json

/-- An error answer. -/
structure Problem where
  status : Nat
  code : String
  message : String
  traceId : Option String
deriving DecidableEq, Repr

namespace Problem

/-- A problem without a trace id. -/
def plain (status : Nat) (code message : String) : Problem := ⟨status, code, message, none⟩

/-- The problem of a complaint; `traceId` is for the one inside the gateway. -/
def ofComplaint (traceId : String) (c : Complaint) : Problem :=
  match c with
  | .validation _ => plain 422 c.code c.message
  | .notFound _ => plain 404 c.code c.message
  | .forbidden _ | .invalidScopes _ => plain 403 c.code c.message
  | .internal _ => ⟨500, c.code, c.message, some traceId⟩

/-- The problem of a rejection. -/
def ofRejection (r : Rejection) : Problem := plain r.status r.code r.message

/-- The administrator's key is missing or wrong. -/
def unauthorized (message : String) : Problem := plain 401 "unauthorized" message

/-- The service behind a route did not answer. -/
def badGateway (message : String) : Problem := plain 502 "bad_gateway" message

/-- No route applies. -/
def routeNotFound (path : String) : Problem :=
  plain 404 "route_not_found" ("no route matches " ++ path)

/-- The path of a request contains a dot segment. -/
def invalidPath : Problem :=
  plain 400 "invalid_path" "path must not contain '.' or '..' segments"

/-- The body of a request is longer than `limit` bytes. -/
def payloadTooLarge (limit : Nat) : Problem :=
  plain 413 "payload_too_large"
    ("request body exceeds " ++ String.ofList (Text.natural limit) ++ " bytes")

/-- A request that could not be read. -/
def malformed (status : Nat) (message : String) : Problem :=
  plain status "malformed_request" message

/-- The body of a problem. -/
def toValue (p : Problem) : Value :=
  .object (("code", .text p.code) :: ("message", .text p.message) ::
    match p.traceId with
    | some id => [("trace_id", .text id)]
    | none => [])

end Problem

/-- The header of an answer in JSON. -/
def jsonType : Http.Header := ⟨"content-type", "application/json"⟩

/-- An answer in JSON. -/
def jsonResponse (status : Nat) (v : Value) : Http.Response :=
  ⟨status, [jsonType], (String.ofList v.render).toUTF8⟩

/-- The answer a problem is told in. -/
def Problem.response (p : Problem) : Http.Response := jsonResponse p.status p.toValue

end OAuthGateway

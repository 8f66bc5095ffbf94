import OAuthGateway.Gateway.Problem
import OAuthGateway.Http.Form
import OAuthGateway.Http.MediaType
import OAuthGateway.Json.Record
import OAuthGateway.Message.Basic

/-!
# Gateway/Intake — what an endpoint reads from its request

A message comes as a JSON body: first its media type is looked at, then it is received, then it is
read. A window over a listing comes as a query, the id of an application as a part of the path.
-/

namespace OAuthGateway

open Http Text

/-- The length in bytes up to which an endpoint receives a body. -/
def maxMessageBytes : Nat := 2097152

/-- Reads a message. -/
def readMessage {α : Type} (f : Json.Format α) (r : Incoming) : Except Problem α :=
  if !r.head.headers.sayJson then
    .error (.malformed 415 "Expected request with \x60Content-Type: application/json\x60")
  else match r.stream.receive maxMessageBytes with
    | .error .tooLong => .error (.malformed 413 "Failed to buffer the request body")
    | .error .broken => .error (.malformed 400 "Failed to buffer the request body")
    | .ok body =>
      match Json.readAll f.read (pieces body) with
      | .ok a => .ok a
      | .error .grammar => .error (.malformed 400 "Failed to parse the request body as JSON")
      | .error .shape => .error (.plain 422 "validation_error"
          "Failed to deserialize the JSON body into the target type")

/-- The integer of a parameter that may be missing; the outer `none` is a refusal. -/
def integerParameter? (name : String) (ps : List Parameter) : Option (Option Int) :=
  match Parameter.once? name ps with
  | some (some value) => (signed? value.toList).map some
  | some none => some none
  | none => none

/-- Reads the window that a query asks for. -/
def readWindow (r : Incoming) : Except Problem Window :=
  let ps := Parameter.listOfQuery (r.head.target.query.getD "")
  match integerParameter? "offset" ps, integerParameter? "limit" ps with
  | some offset, some limit => .ok (Window.clamped offset limit)
  | _, _ => .error (.malformed 400 "Failed to deserialize query string")

/-- Reads the id in a path. -/
def readId (id : List Char) : Except Problem Int :=
  match percentDecoded? id >>= signed? with
  | some i => .ok i
  | none => .error (.malformed 400 "Invalid URL")

end OAuthGateway

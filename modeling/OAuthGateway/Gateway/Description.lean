import OAuthGateway.Json.Value
import OAuthGateway.Text.Ascii

/-!
# Gateway/Description — what the gateway says of its endpoints

A description lists the documented endpoints by path and method: what each takes and with which
status it may answer. `ofGateway` is the description of the gateway, `toValue` its form as an
OpenAPI document, in which messages have no schemas.
-/

namespace OAuthGateway

open Json

/-- A group of endpoints. -/
structure EndpointGroup where
  name : String
  summary : String
deriving DecidableEq, Repr

/-- Where a parameter stands. -/
inductive ParameterPlace where
  | query
  | path
deriving DecidableEq, Repr

/-- The name of a place. -/
def ParameterPlace.name : ParameterPlace → String
  | query => "query"
  | path => "path"

/-- What is said of one endpoint. -/
structure EndpointNote where
  path : String
  method : String
  group : EndpointGroup
  parameters : List (ParameterPlace × String)
  hasBody : Bool
  answers : List (Nat × String)
deriving DecidableEq, Repr

/-- What is said of a program's endpoints. -/
structure ApiDescription where
  title : String
  summary : String
  version : String
  groups : List EndpointGroup
  endpoints : List EndpointNote
deriving DecidableEq, Repr

namespace ApiDescription

/-- The endpoints that tell how the gateway is. -/
def health : EndpointGroup := ⟨"Health API", "Health check endpoints"⟩

/-- The endpoints of the authority. -/
def authority : EndpointGroup :=
  ⟨"OAuth API", "OAuth2 authorization and application management endpoints"⟩

/-- The description of the gateway, sorted by path and method. -/
def ofGateway : ApiDescription where
  title := "API Gateway"
  summary := "API gateway with an embedded OAuth2 authorization server"
  version := "1.0.0"
  groups := [health, authority]
  endpoints := [
    ⟨"/health", "get", health, [], false, [(200, "Service is healthy")]⟩,
    ⟨"/oauth/applications", "get", authority, [(.query, "limit"), (.query, "offset")], false,
      [(200, "A page of applications"), (401, "Missing or invalid admin API key")]⟩,
    ⟨"/oauth/applications", "post", authority, [], true,
      [(201, "Application registered"), (422, "Missing or invalid fields")]⟩,
    ⟨"/oauth/applications/\x7bid\x7d", "delete", authority, [(.path, "id")], false,
      [(204, "Application revoked"), (404, "No such application, or already revoked")]⟩,
    ⟨"/oauth/applications/\x7bid\x7d", "get", authority, [(.path, "id")], false,
      [(200, "The application"), (404, "No such application")]⟩,
    ⟨"/oauth/applications/\x7bid\x7d", "put", authority, [(.path, "id")], true,
      [(200, "Application updated"), (404, "No such application")]⟩,
    ⟨"/oauth/authorizations", "post", authority, [], true,
      [(201, "Grant or access token issued"),
        (403, "Scopes or flow not allowed for the application"),
        (404, "Unknown client credentials"), (422, "Missing or invalid fields")]⟩,
    ⟨"/oauth/authorizations/revoke", "post", authority, [], true,
      [(200, "Token revoked"), (404, "Unknown or already revoked token"), (422, "Missing token")]⟩,
    ⟨"/oauth/authorizations/token", "post", authority, [], true,
      [(201, "Access token issued"),
        (403, "Code or refresh token already used, expired or foreign"),
        (404, "Unknown client, code or refresh token"), (422, "Missing or invalid fields")]⟩,
    ⟨"/ready", "get", health, [], false,
      [(200, "Service is ready"), (503, "Service is not ready")]⟩]

end ApiDescription

/-- The text of a status. -/
def statusText (status : Nat) : String := String.ofList (Text.natural status)

namespace EndpointGroup

/-- A group in a document. -/
def toValue (g : EndpointGroup) : Value :=
  .object [("name", .text g.name), ("description", .text g.summary)]

end EndpointGroup

namespace EndpointNote

/-- A parameter in a document: one in the path is required. -/
def parameterValue (p : ParameterPlace × String) : Value :=
  .object [("name", .text p.2), ("in", .text p.1.name), ("required", .bool (p.1 = .path)),
    ("schema", .object [("type", .text "integer"), ("format", .text "int64")])]

/-- The body of a request in a document. -/
def bodyValue : Value :=
  .object [("content", .object [("application/json", .object [])]), ("required", .bool true)]

/-- An endpoint in a document. -/
def toValue (e : EndpointNote) : Value :=
  .object <|
    [("tags", .list [.text e.group.name])] ++
    (if e.parameters.isEmpty then []
      else [("parameters", .list (e.parameters.map parameterValue))]) ++
    (if e.hasBody then [("requestBody", bodyValue)] else []) ++
    [("responses", .object (e.answers.map fun (status, summary) =>
      (statusText status, .object [("description", .text summary)])))]

end EndpointNote

namespace ApiDescription

/-- The endpoints by path; those of one path stand together. -/
def paths (d : ApiDescription) : List (String × Value) :=
  (d.endpoints.map (·.path)).eraseDups.map fun path =>
    (path, .object ((d.endpoints.filter (·.path = path)).map fun e => (e.method, e.toValue)))

/-- The document of a description. -/
def toValue (d : ApiDescription) : Value :=
  .object [("openapi", .text "3.1.0"),
    ("info", .object [("title", .text d.title), ("description", .text d.summary),
      ("version", .text d.version)]),
    ("paths", .object d.paths), ("tags", .list (d.groups.map EndpointGroup.toValue))]

end ApiDescription

end OAuthGateway

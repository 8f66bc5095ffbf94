import OAuthGateway.Authority.Registry
import OAuthGateway.Authority.Service
import OAuthGateway.Gateway.Description
import OAuthGateway.Gateway.Endpoint
import OAuthGateway.Gateway.Guard
import OAuthGateway.Gateway.Intake
import OAuthGateway.Gateway.Proxy
import OAuthGateway.Message.Schema

/-!
# Gateway/Answer — the answer to a request

A request for a resource of the gateway is answered by the resource's endpoint, any other is
forwarded. On guarded resources the guard comes first, before the method is looked at. `handle` is
the whole gateway: from a request and a database to a response and a database.
-/

namespace OAuthGateway

open Http Procedure

/-- A call of the authority or the registry, with its refusals told as problems. -/
def told {α : Type} (fresh : Credential.Fresh) (procedure : Procedure Refusal α) :
    Procedure Problem α :=
  procedure.mapError fun r => Problem.ofComplaint fresh.traceId r.complaint

/-- How the gateway is. -/
def healthResponse (status : Nat) (word : String) (database : Option String) : Response :=
  jsonResponse status (.object (("status", .text word) ::
    match database with
    | some s => [("database_status", .text s)]
    | none => []))

/-- The page that shows the description to people. -/
def referencePage : Response :=
  ⟨200, [⟨"content-type", "text/html; charset=utf-8"⟩],
    "<!doctype html><title>API Gateway</title><a href=\"/openapi.json\">API description</a>".toUTF8⟩

namespace Gateway

variable (g : Gateway) (now : Time.Instant) (fresh : Credential.Fresh)

/-- Asks the database for a sign of life. -/
def readiness : Procedure Problem Response := fun faults => ExceptT.mk fun db =>
  match Procedure.ping.perform faults db with
  | (.ok (), db) => (.ok (healthResponse 200 "ok" (some "healthy")), db)
  | (.error _, db) => (.ok (healthResponse 503 "error" (some "unreachable")), db)

/-- What an endpoint does with a request. -/
def run (r : Incoming) : Endpoint → Procedure Problem Response
  | .showHealth => pure (healthResponse 200 "ok" none)
  | .showReadiness => readiness
  | .describe => pure (jsonResponse 200 ApiDescription.ofGateway.toValue)
  | .showReference => pure referencePage
  | .authorize => do
    let request ← verdict (readMessage GrantRequest.schema.format r)
    let issued ← told fresh (g.authority.grantor now fresh request)
    return jsonResponse 201 ((Issued.format.toValue issued).getD .null)
  | .redeem => do
    let request ← verdict (readMessage TokenRequest.schema.format r)
    let view ← told fresh (g.authority.token now fresh request)
    return jsonResponse 201 (AccessTokenView.schema.toValue view)
  | .revokeToken => do
    let request ← verdict (readMessage RevokeRequest.schema.format r)
    told fresh (Authority.revokeToken now request)
    return jsonResponse 200 (.object [("message", .text "token revoked")])
  | .listApplications => do
    let window ← verdict (readWindow r)
    let page ← told fresh (Registry.list window)
    return jsonResponse 200 (ApplicationList.schema.toValue page)
  | .createApplication => do
    let form ← verdict (readMessage ApplicationForm.schema.format r)
    let app ← told fresh (Registry.create now fresh form)
    return jsonResponse 201 (Application.schema.toValue app)
  | .showApplication id => do
    let app ← told fresh (Registry.one (← verdict (readId id)))
    return jsonResponse 200 (Application.schema.toValue app)
  | .updateApplication id => do
    let id ← verdict (readId id)
    let form ← verdict (readMessage ApplicationForm.schema.format r)
    let app ← told fresh (Registry.update now id form)
    return jsonResponse 200 (Application.schema.toValue app)
  | .revokeApplication id => do
    told fresh (Registry.revoke now (← verdict (readId id)))
    return ⟨204, [], ByteArray.empty⟩

/-- Lets a request for a resource pass, if it may. -/
def guard (resource : Resource) (r : Incoming) : Except Problem Unit :=
  if resource.isGuarded then guardKey g.settings.admin.apiKey r.head.headers else .ok ()

/-- What a resource answers to a method it does not know; the guard's answer names the others, too.
-/
def otherMethod (resource : Resource) (r : Incoming) : Response :=
  let answer : Response := match g.guard resource r with
    | .ok () => ⟨405, [], ByteArray.empty⟩
    | .error p => p.response
  { answer with headers := answer.headers ++ [⟨"allow", resource.allowed⟩] }

/-- The answer of a resource. -/
def answerAt (resource : Resource) (r : Incoming) : Procedure Problem Response :=
  match resource.endpoint? r.head.method with
  | some endpoint => do
    verdict (g.guard resource r)
    g.run now fresh r endpoint
  | none => pure (g.otherMethod resource r)

/-- The answer to a request. -/
def answer (network : Network) (r : Incoming) : Procedure Problem Response :=
  match Resource.at? r.head.target.path with
  | some resource => g.answerAt now fresh resource r
  | none => g.proxy network now r

/-- Handles a request: problems become answers, and what was asked for without a body goes without.
-/
def handle (network : Network) (faults : Faults) (db : Database) (r : Incoming) :
    Response × Database :=
  let (result, db) := (g.answer now fresh network r).perform faults db
  let response := match result with
    | .ok response => response
    | .error p => p.response
  (if r.head.method = "HEAD" then { response with body := ByteArray.empty } else response, db)

end Gateway

end OAuthGateway

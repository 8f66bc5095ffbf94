import OAuthGateway.Admission.Bearer
import OAuthGateway.Admission.Rejection
import OAuthGateway.Json.Record
import OAuthGateway.Route.Basic
import OAuthGateway.Scope
import OAuthGateway.Store.Database

/-!
# Admission/Check — what a request has to present before it is forwarded

A check acts on the routes that ask for its kind of credential and lets the requests of all others
pass. A request first loses the identity headers its client may have sent; a check that accepts a
credential sets them to what the store says, so nobody else ever does.
-/

namespace OAuthGateway

open Http Procedure

/-- The header that names the resource owner of an accepted token. -/
def ownerHeader : String := "x-resource-owner-id"

/-- The header that names the application of an accepted credential. -/
def applicationHeader : String := "x-application-id"

namespace Http.Request

/-- The request without identity headers. -/
def withoutIdentity (r : Request) : Request :=
  { r with head.headers := (r.head.headers.without ownerHeader).without applicationHeader }

/-- The request with an identity header, if the value can stand in a header. -/
def withIdentity (name value : String) (r : Request) : Request :=
  if Header.isLegalValue value then { r with head.headers := r.head.headers.set name value } else r

end Http.Request

/-- The credentials that a body may carry, beside anything else. -/
structure ClientCredentials where
  clientUid : Option String
  clientSecret : Option String
deriving DecidableEq, Repr

/-- The schema of credentials in a body. -/
def ClientCredentials.schema : Json.Schema ClientCredentials where
  fields := [.optional "client_uid" .text, .optional "client_secret" .text]
  ofRecord := fun (a, b, ()) => ⟨a, b⟩
  toRecord r := (r.clientUid, r.clientSecret, ())

/-- The credentials in a body, both of them present and not empty. What is wrong with a body that
does not have their shape is said in the words of its reader. -/
def ClientCredentials.ofBody (body : ByteArray) : Except Rejection (String × String) :=
  if body.isEmpty then .error .missingBody
  else match Json.readAll ClientCredentials.schema.format.read (Text.pieces body) with
    | .error fault => .error (.malformedBody fault.words)
    | .ok ⟨some uid, some secret⟩ =>
      if uid = "" || secret = "" then .error .missingCredentials else .ok (uid, secret)
    | .ok _ => .error .missingCredentials

/-- An access token opens a route: it is neither revoked nor expired and has the scopes asked for.
-/
def AccessToken.opens (t : AccessToken) (route : Route) (now : Time.Instant) :
    Except Rejection Unit :=
  if Expiring.isRevoked t then .error .revokedToken
  else if Expiring.isExpired t now then .error .expiredToken
  else match Scope.missing (route.scope.getD "") t.scopes with
    | [] => .ok ()
    | scopes => .error (.missingScopes scopes)

/-- The kinds of check. -/
inductive Check where
  | bearerToken
  | clientCredentials
deriving DecidableEq, Repr

namespace Check

/-- The checks of a gateway, in order. -/
def standard : List Check := [bearerToken, clientCredentials]

/-- Looks up the access token of a request and accepts it. -/
def acceptToken (route : Route) (now : Time.Instant) (r : Request) :
    Procedure Rejection Request := do
  let text ← match Bearer.ofHeaders? r.head.headers with
    | some text => pure text
    | none => throw .malformedBearer
  let token ← (Database.accessTokenOfText text).mapError (Rejection.ofLookup .unknownToken)
  verdict (token.opens route now)
  return (r.withIdentity ownerHeader token.resourceOwnerId).withIdentity applicationHeader
    (String.ofList (Text.integer token.applicationId))

/-- Looks up the application whose credentials a request carries and accepts it. -/
def acceptClient (r : Request) : Procedure Rejection Request := do
  let (uid, secret) ← verdict (ClientCredentials.ofBody r.body)
  let app ← (Database.client uid secret).mapError (Rejection.ofLookup .unknownApplication)
  return r.withIdentity applicationHeader (String.ofList (Text.integer app.id))

/-- Runs one check. -/
def run (check : Check) (route : Route) (now : Time.Instant) (r : Request) :
    Procedure Rejection Request :=
  match check, route.auth with
  | bearerToken, .token => acceptToken route now r
  | clientCredentials, .client => acceptClient r
  | _, _ => pure r

end Check

/-- Runs some checks in order; the first rejection ends it. -/
def screen (checks : List Check) (route : Route) (now : Time.Instant) (r : Request) :
    Procedure Rejection Request :=
  checks.foldlM (fun r check => check.run route now r) r.withoutIdentity

end OAuthGateway

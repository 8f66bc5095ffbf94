/-!
# Gateway/Endpoint — what the gateway answers itself

A resource is found at a path, exactly as it is written; an endpoint is what can be done with it by
one method. A known resource answers a method it does not know itself, and lists those it does know:
such a request never reaches a route. `HEAD` is `GET` without the body.
-/

namespace OAuthGateway

/-- What the gateway can be asked to do, other than to forward. -/
inductive Endpoint where
  | showHealth
  | showReadiness
  | describe
  | showReference
  | authorize
  | redeem
  | revokeToken
  | listApplications
  | createApplication
  | showApplication (id : List Char)
  | updateApplication (id : List Char)
  | revokeApplication (id : List Char)
deriving DecidableEq, Repr

/-- What is found at the gateway's own paths; the id of an application is as it stands in the path.
-/
inductive Resource where
  | health
  | readiness
  | description
  | reference
  | authorizations
  | redemptions
  | revocations
  | applications
  | application (id : List Char)
deriving DecidableEq, Repr

namespace Resource

/-- How the path of an application starts. -/
def applicationStart : String := "/oauth/applications/"

/-- The application at a path below the list of applications. -/
def applicationAt? (path : List Char) : Option Resource :=
  if applicationStart.toList.isPrefixOf path then
    let id := path.drop applicationStart.length
    if id.isEmpty || id.contains '/' then none else some (application id)
  else none

/-- The resource at a path. -/
def at? (path : String) : Option Resource :=
  match path with
  | "/health" => some health
  | "/ready" => some readiness
  | "/openapi.json" => some description
  | "/scalar" => some reference
  | "/oauth/authorizations" => some authorizations
  | "/oauth/authorizations/token" => some redemptions
  | "/oauth/authorizations/revoke" => some revocations
  | "/oauth/applications" => some applications
  | path => applicationAt? path.toList

/-- The methods of a resource, each with its endpoint. -/
def endpoints : Resource → List (String × Endpoint)
  | health => [("GET", .showHealth)]
  | readiness => [("GET", .showReadiness)]
  | description => [("GET", .describe)]
  | reference => [("GET", .showReference)]
  | authorizations => [("POST", .authorize)]
  | redemptions => [("POST", .redeem)]
  | revocations => [("POST", .revokeToken)]
  | applications => [("GET", .listApplications), ("POST", .createApplication)]
  | application id =>
    [("GET", .showApplication id), ("PUT", .updateApplication id),
      ("DELETE", .revokeApplication id)]

/-- The endpoint of a method. -/
def endpoint? (r : Resource) (method : String) : Option Endpoint :=
  r.endpoints.lookup (if method = "HEAD" then "GET" else method)

/-- The methods that a resource names when it is asked with another. -/
def allowed (r : Resource) : String :=
  ",".intercalate (r.endpoints.flatMap fun (method, _) =>
    if method = "GET" then ["GET", "HEAD"] else [method])

/-- The resource is open to administrators only. -/
def isGuarded : Resource → Bool
  | applications | application _ => true
  | _ => false

end Resource

end OAuthGateway

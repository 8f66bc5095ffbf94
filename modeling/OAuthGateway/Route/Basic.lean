import OAuthGateway.Http.Message
import OAuthGateway.Route.Path
import OAuthGateway.Text.Blank
import OAuthGateway.Url.Basic

/-!
# Route/Basic — routes: what they match, and where they lead

A route covers a path and everything below it, for some methods or for all, and names the service
behind the gateway to which requests go. `validate` admits a route and brings its path to the form
in which it is matched; `url` is the address of a request behind the gateway.
-/

namespace OAuthGateway

open Text

/-- What a request has to present before it is forwarded. -/
inductive AuthMode where
  | anyone
  | token
  | client
deriving DecidableEq, Repr

namespace AuthMode

/-- The name of a mode in a route file. -/
def name : AuthMode → String
  | anyone => "none"
  | token => "oauth"
  | client => "oauth_application"

/-- The mode of a name, exactly as written. -/
def ofName? (s : String) : Option AuthMode :=
  if s = "none" then some anyone
  else if s = "oauth" then some token
  else if s = "oauth_application" then some client else none

end AuthMode

/-- A route: the path it covers, the service it leads to, and what it asks for. -/
structure Route where
  name : String
  path : String
  service : String
  auth : AuthMode
  scope : Option String
  methods : Option (List String)
  stripsPath : Bool
deriving DecidableEq, Repr

/-- What is wrong with a route. -/
inductive RouteFlaw where
  | relativePath (path : String)
  | badService (service : String) (fault : Url.Fault)
  | badMethod (method : String)
deriving DecidableEq, Repr

/-- The text of a flaw. -/
def RouteFlaw.message : RouteFlaw → String
  | relativePath path => "path '" ++ path ++ "' must start with '/'"
  | badService service fault => "invalid upstream '" ++ service ++ "': " ++ fault.message
  | badMethod method => "invalid method '" ++ method ++ "'"

namespace Route

/-- The characters outside ASCII whose upper-case form is in ASCII letters: sharp and long s,
dotless i and the ligatures of f and s. -/
def hasAsciiUpper (c : Char) : Bool :=
  c = 'ß' || c = 'ı' || c = 'ſ' || (0xFB00 ≤ c.toNat && c.toNat ≤ 0xFB06)

/-- The name of a method: in upper case it has to be a token. -/
def isMethodName (s : String) : Bool :=
  !s.toList.isEmpty && s.toList.all fun c => Http.isTokenChar c || hasAsciiUpper c

/-- A path in the form in which it is matched: without slashes at its end, unless it is one slash.
-/
def normalPath (path : String) : String :=
  if path.utf8ByteSize ≤ 1 then path
  else String.ofList (dropEndWhile (· = '/') path.toList)

/-- Admits a route, or names the first flaw in path, service and methods. -/
def validate (r : Route) : Except RouteFlaw Route :=
  if r.path.toList.head? ≠ some '/' then .error (.relativePath r.path)
  else match Url.read r.service with
    | .error fault => .error (.badService r.service fault)
    | .ok _ =>
      match (r.methods.getD []).find? fun m => !isMethodName m with
      | some m => .error (.badMethod m)
      | none => .ok { r with path := normalPath r.path }

/-- The path of the route is the path, or the path goes on below it. -/
def matchesPath (r : Route) (path : String) : Bool :=
  r.path = "/" ||
    match after? r.path.toList path.toList with
    | some [] | some ('/' :: _) => true
    | _ => false

/-- The route is open to the method; without a list of methods it is open to all. -/
def allows (r : Route) (method : String) : Bool :=
  match r.methods with
  | some methods => methods.any fun m => sameFold m.toList method.toList
  | none => true

/-- The route applies to a request. -/
def accepts (r : Route) (method path : String) : Bool := r.matchesPath path && r.allows method

/-- The path that is sent on: without the route's own path, where the route strips it. -/
def forwardedPath (r : Route) (path : String) : List Char :=
  if r.stripsPath && r.path ≠ "/" then (after? r.path.toList path.toList).getD path.toList
  else path.toList

/-- The address of the service, without slashes at its end. -/
def base (r : Route) : List Char := dropEndWhile (· = '/') r.service.toList

/-- The address of a request behind the gateway: the service, one slash, the forwarded path without
the slashes it starts with, and the query. -/
def url (r : Route) (path : String) (query : Option String) : String :=
  let forwarded := (r.forwardedPath path).dropWhile (· = '/')
  let address := r.base ++ '/' :: forwarded
  String.ofList <| match query with
    | some query => address ++ '?' :: query.toList
    | none => address

end Route

end OAuthGateway

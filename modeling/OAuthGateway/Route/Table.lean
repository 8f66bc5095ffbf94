import OAuthGateway.Route.Basic

/-!
# Route/Table — choosing the route of a request

A table is a list of admitted routes. Of the routes that apply to a request the one with the longest
path is chosen, and of several equally long ones the last.
-/

namespace OAuthGateway

/-- Why there is no route table. -/
inductive RouteFault where
  | unreadable
  | malformed
  | flawed (name : String) (flaw : RouteFlaw)
deriving DecidableEq, Repr

/-- The text of a flaw with the name of its route. -/
def RouteFlaw.messageFor (name : String) (flaw : RouteFlaw) : String :=
  "route '" ++ name ++ "': " ++ flaw.message

/-- The routes of a gateway. -/
structure RouteTable where
  routes : List Route
deriving DecidableEq, Repr

namespace RouteTable

/-- The table without routes. -/
def empty : RouteTable := ⟨[]⟩

/-- The table of some routes, all of which have to be admitted; the first flaw is reported. -/
def ofRoutes (routes : List Route) : Except RouteFault RouteTable := do
  let admitted ← routes.mapM fun r =>
    match r.validate with
    | .ok r => .ok r
    | .error flaw => .error (RouteFault.flawed r.name flaw)
  return ⟨admitted⟩

/-- The better of two routes: the one with the longer path, or the later one. -/
def better (earlier : Option Route) (later : Route) : Option Route :=
  match earlier with
  | some r => if r.path.utf8ByteSize ≤ later.path.utf8ByteSize then some later else some r
  | none => some later

/-- The route of a request. -/
def find (t : RouteTable) (method path : String) : Option Route :=
  (t.routes.filter fun r => r.accepts method path).foldl better none

end RouteTable

end OAuthGateway

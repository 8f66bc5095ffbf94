import OAuthGateway.Route.File
import OAuthGateway.Settings.Basic
import OAuthGateway.Store.Location

/-!
# Gateway/Basic — a gateway, and what can keep it from starting

A gateway is put together once, from its settings and its route file. `start` reports the first
obstacle in a fixed order: the name of the database, the lengths of time, the database itself, the
routes.
-/

namespace OAuthGateway

/-- A gateway that has started. -/
structure Gateway where
  settings : Settings
  authority : Authority
  routes : RouteTable

/-- Why a gateway does not start. -/
inductive StartFault where
  | settings (fault : SettingsFault)
  | database (error : StoreError)
  | routes (fault : RouteFault)
deriving DecidableEq, Repr

/-- What a gateway finds where it starts. -/
structure Surroundings where
  /-- The database at this place can be opened or made. -/
  opens : StoreLocation → Bool
  /-- What stands in the file of a name. -/
  content : String → FileContent

namespace Gateway

/-- Opens a database; one that is given no time does not answer in time. -/
def openDatabase (around : Surroundings) (address : String) (callTimeout : Time.Span) :
    Except StartFault Unit :=
  match StoreLocation.read? address with
  | some place =>
    if around.opens place && (callTimeout.secs ≠ 0 || callTimeout.nanos ≠ 0) then .ok ()
    else .error (.database .database)
  | none => .error (.database .database)

/-- Starts a gateway. -/
def start (around : Surroundings) (s : Settings) : Except StartFault Gateway := do
  let database ← s.authorityDatabase.mapError .settings
  let durations ← s.authority.durations.mapError .settings
  let callTimeout ← database.callTimeout.mapError .settings
  openDatabase around database.url callTimeout
  let routes ← (RouteTable.load (around.content s.routesFile)).mapError .routes
  return ⟨s, durations.authority, routes⟩

end Gateway

end OAuthGateway

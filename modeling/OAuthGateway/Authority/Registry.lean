import OAuthGateway.Authority.Issue
import OAuthGateway.Authority.Rules
import OAuthGateway.Store.Database

/-!
# Authority/Registry — the applications under administration

Applications are registered with fresh credentials, listed by windows, changed in description and
scopes, and revoked. Each statement commits on its own: reading an application back is a second
call, and if that one fails the first has taken effect.
-/

namespace OAuthGateway.Registry

open Time Procedure

/-- Lists the applications of a window, with the number of all of them. -/
def list (w : Window) : Procedure Refusal ApplicationList := do
  let total ← Database.applicationCount.mapError fun _ => .internal .listApplications
  let items ← (Database.applications w).mapError fun _ => .internal .listApplications
  return ⟨items, ⟨w.offset, w.limit, total⟩⟩

/-- Shows one application. -/
def one (id : Int) : Procedure Refusal Application :=
  (Database.application id).mapError (Refusal.ofLookup .getApplication .application)

/-- Registers an application. -/
def create (now : Instant) (fresh : Credential.Fresh) (form : ApplicationForm) :
    Procedure Refusal Application := do
  let ownerType ← verdict form.validate
  let id ← (Database.addApplication
    (form.draft ownerType now fresh.clientUid fresh.clientSecret)).mapError
      fun _ => .internal .createApplication
  (Database.application id).mapError fun _ => .internal .createApplication

/-- Changes description and scopes of an application and shows it. -/
def update (now : Instant) (id : Int) (form : ApplicationForm) : Procedure Refusal Application := do
  (Database.updateApplication id (form.changes now)).mapError
    (Refusal.ofLookup .updateApplication .application)
  one id

/-- Revokes an application; its credentials are good for nothing from then on. -/
def revoke (now : Instant) (id : Int) : Procedure Refusal Unit :=
  (Database.revokeApplication id now).mapError (Refusal.ofLookup .revokeApplication .application)

end OAuthGateway.Registry

import OAuthGateway.Json.Record
import OAuthGateway.Record

/-!
# Store/Schema — rows as records

A row of a credential table as structured data has a field per column, under the column's name. What
a client is shown of a credential is another matter: there the time that is left stands beside the
time of expiry.
-/

namespace OAuthGateway

open Json

/-- The schema of a row of the table of authorization codes. -/
def Grant.schema : Schema Grant where
  fields := [.required "id" .integer, .required "application_id" .integer,
    .required "resource_owner_id" .text, .required "scopes" .text, .required "code" .text,
    .required "redirect_uri" .text, .required "expires_in" .instant,
    .required "created_at" .instant, .optional "revoked_at" .instant]
  ofRecord := fun (a, b, c, d, e, f, g, h, i, ()) => ⟨a, b, c, d, e, f, g, h, i⟩
  toRecord r := (r.id, r.applicationId, r.resourceOwnerId, r.scopes, r.code, r.redirectUri,
    r.expiresAt, r.createdAt, r.revokedAt, ())

/-- The schema of a row of the table of access tokens. -/
def AccessToken.schema : Schema AccessToken where
  fields := [.required "id" .integer, .required "application_id" .integer,
    .required "resource_owner_id" .text, .required "token" .text, .required "scopes" .text,
    .required "expires_in" .instant, .required "created_at" .instant,
    .optional "revoked_at" .instant]
  ofRecord := fun (a, b, c, d, e, f, g, h, ()) => ⟨a, b, c, d, e, f, g, h⟩
  toRecord r := (r.id, r.applicationId, r.resourceOwnerId, r.token, r.scopes, r.expiresAt,
    r.createdAt, r.revokedAt, ())

/-- The schema of a row of the table of refresh tokens. -/
def RefreshToken.schema : Schema RefreshToken where
  fields := [.required "id" .integer, .required "access_token_id" .integer,
    .required "token" .text, .required "expires_in" .instant, .required "created_at" .instant,
    .optional "revoked_at" .instant]
  ofRecord := fun (a, b, c, d, e, f, ()) => ⟨a, b, c, d, e, f⟩
  toRecord r := (r.id, r.accessTokenId, r.token, r.expiresAt, r.createdAt, r.revokedAt, ())

end OAuthGateway

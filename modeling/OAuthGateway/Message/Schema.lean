import OAuthGateway.Json.Record
import OAuthGateway.Message.Basic

/-!
# Message/Schema — messages as JSON

Each message is a record; its schema lists the fields in the order in which they are written. The
one message that is no record is `Issued`: it is written as the view it holds, and read by trying
the view of a grant first.
-/

namespace OAuthGateway

open Json

/-- The format of an owner type. -/
def OwnerType.format : Format OwnerType := .named OwnerType.ofName? OwnerType.name

/-- The schema of a grant request. -/
def GrantRequest.schema : Schema GrantRequest where
  fields := [.optional "response_type" .text, .optional "resource_owner_id" .text,
    .optional "client_uid" .text, .optional "client_secret" .text, .optional "redirect_uri" .text,
    .optional "scopes" .text]
  ofRecord := fun (a, b, c, d, e, f, ()) => ⟨a, b, c, d, e, f⟩
  toRecord r := (r.responseType, r.resourceOwnerId, r.clientUid, r.clientSecret, r.redirectUri,
    r.scopes, ())

/-- The schema of a token request. -/
def TokenRequest.schema : Schema TokenRequest where
  fields := [.optional "grant_type" .text, .optional "client_uid" .text,
    .optional "client_secret" .text, .optional "code" .text, .optional "refresh_token" .text,
    .optional "redirect_uri" .text]
  ofRecord := fun (a, b, c, d, e, f, ()) => ⟨a, b, c, d, e, f⟩
  toRecord r := (r.grantType, r.clientUid, r.clientSecret, r.code, r.refreshToken,
    r.redirectUri, ())

/-- The schema of a revocation request. -/
def RevokeRequest.schema : Schema RevokeRequest where
  fields := [.optional "token" .text]
  ofRecord := fun (a, ()) => ⟨a⟩
  toRecord r := (r.token, ())

/-- The schema of an application form. -/
def ApplicationForm.schema : Schema ApplicationForm where
  fields := [.optional "owner_id" .text, .optional "owner_type" .text,
    .optional "description" .text, .optional "scopes" .text]
  ofRecord := fun (a, b, c, d, ()) => ⟨a, b, c, d⟩
  toRecord r := (r.ownerId, r.ownerType, r.description, r.scopes, ())

/-- The schema of an application. -/
def Application.schema : Schema Application where
  fields := [.required "id" .integer, .optional "owner_id" .text,
    .required "owner_type" OwnerType.format, .optional "description" .text,
    .required "scopes" .text, .required "client_uid" .text, .required "client_secret" .text,
    .required "created_at" .instant, .required "updated_at" .instant,
    .optional "revoked_at" .instant]
  ofRecord := fun (a, b, c, d, e, f, g, h, i, j, ()) => ⟨a, b, c, d, e, f, g, h, i, j⟩
  toRecord r := (r.id, r.ownerId, r.ownerType, r.description, r.scopes, r.clientUid, r.clientSecret,
    r.createdAt, r.updatedAt, r.revokedAt, ())

/-- The schema of an authorization code. -/
def GrantView.schema : Schema GrantView where
  fields := [.required "id" .integer, .required "application_id" .integer,
    .required "resource_owner_id" .text, .required "scopes" .text, .required "code" .text,
    .required "redirect_uri" .text, .required "expires_in" .integer,
    .required "expires_at" .instant, .required "created_at" .instant,
    .optional "revoked_at" .instant]
  ofRecord := fun (a, b, c, d, e, f, g, h, i, j, ()) => ⟨a, b, c, d, e, f, g, h, i, j⟩
  toRecord r := (r.id, r.applicationId, r.resourceOwnerId, r.scopes, r.code, r.redirectUri,
    r.expiresIn, r.expiresAt, r.createdAt, r.revokedAt, ())

/-- The schema of an access token. -/
def AccessTokenView.schema : Schema AccessTokenView where
  fields := [.required "id" .integer, .required "application_id" .integer,
    .required "resource_owner_id" .text, .required "token" .text, .required "token_type" .text,
    .required "scopes" .text, .required "expires_in" .integer, .required "expires_at" .instant,
    .required "created_at" .instant, .optional "refresh_token" .text,
    .optional "revoked_at" .instant]
  ofRecord := fun (a, b, c, d, e, f, g, h, i, j, k, ()) => ⟨a, b, c, d, e, f, g, h, i, j, k⟩
  toRecord r := (r.id, r.applicationId, r.resourceOwnerId, r.token, r.tokenType, r.scopes,
    r.expiresIn, r.expiresAt, r.createdAt, r.refreshToken, r.revokedAt, ())

/-- The format of what a grant request yields: whole values are read, and told apart by their
fields. -/
def Issued.format : Format Issued where
  read ts := do
    let (v, rest) ← build ts
    match ofValue? v with
    | some issued => return (issued, rest)
    | none => throw .shape
  ofValue?
  toValue
    | .grant view => GrantView.schema.format.toValue view
    | .token view => AccessTokenView.schema.format.toValue view
where
  /-- Tries the view of a grant, then that of a token. -/
  ofValue? (v : Value) : Option Issued :=
    (GrantView.schema.format.ofValue? v).map .grant <|>
      (AccessTokenView.schema.format.ofValue? v).map .token

/-- The schema of a window. -/
def Window.schema : Schema Window where
  fields := [.required "offset" .integer, .required "limit" .integer]
  ofRecord := fun (a, b, ()) => ⟨a, b⟩
  toRecord r := (r.offset, r.limit, ())

/-- The schema of a window with its total. -/
def ListingInfo.schema : Schema ListingInfo where
  fields := [.required "offset" .integer, .required "limit" .integer, .required "total" .integer]
  ofRecord := fun (a, b, c, ()) => ⟨a, b, c⟩
  toRecord r := (r.offset, r.limit, r.total, ())

/-- The schema of a listing. -/
def ApplicationList.schema : Schema ApplicationList where
  fields := [.required "items" (.list Application.schema.format),
    .required "meta" ListingInfo.schema.format]
  ofRecord := fun (a, b, ()) => ⟨a, b⟩
  toRecord r := (r.items, r.info, ())

end OAuthGateway

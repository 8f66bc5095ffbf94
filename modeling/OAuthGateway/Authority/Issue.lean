import OAuthGateway.Credential
import OAuthGateway.Message.Basic

/-!
# Authority/Issue — what is issued, and how it is shown

A draft takes owner, scopes and application from the request, grant or token it stems from, and its
expiry from the lifetimes; a view adds the seconds that are left. Nothing here looks at the store.
-/

namespace OAuthGateway

open Time

/-- How long credentials of each kind live. -/
structure Lifetimes where
  accessToken : Duration
  authorizationCode : Duration
  refreshToken : Duration
deriving DecidableEq

namespace Lifetimes

/-- A day, ten minutes, and thirty days. -/
def standard : Lifetimes :=
  ⟨.ofSeconds 86400 (by decide), .ofSeconds 600 (by decide), .ofSeconds 2592000 (by decide)⟩

/-- The authorization code for a grant request. -/
def codeFor (l : Lifetimes) (r : GrantRequest) (app : Application) (now : Instant) (code : String) :
    GrantDraft :=
  ⟨app.id, r.resourceOwnerId.getD "", r.scopes.getD "", code, r.redirectUri.getD "",
    expiry now l.authorizationCode, now⟩

/-- The access token of the implicit flow. -/
def tokenFor (l : Lifetimes) (r : GrantRequest) (app : Application) (now : Instant)
    (token : String) : AccessTokenDraft :=
  ⟨app.id, r.resourceOwnerId.getD "", token, r.scopes.getD "", expiry now l.accessToken, now⟩

/-- The access token a redeemed code is exchanged for. -/
def tokenForGrant (l : Lifetimes) (g : Grant) (now : Instant) (token : String) : AccessTokenDraft :=
  ⟨g.applicationId, g.resourceOwnerId, token, g.scopes, expiry now l.accessToken, now⟩

/-- The access token that replaces one whose refresh token is redeemed. -/
def tokenForToken (l : Lifetimes) (old : AccessToken) (now : Instant) (token : String) :
    AccessTokenDraft :=
  ⟨old.applicationId, old.resourceOwnerId, token, old.scopes, expiry now l.accessToken, now⟩

/-- The refresh token that goes with an access token. -/
def refreshTokenFor (l : Lifetimes) (accessTokenId : Int) (now : Instant) (token : String) :
    RefreshTokenDraft :=
  ⟨accessTokenId, token, expiry now l.refreshToken, now⟩

end Lifetimes

namespace ApplicationForm

/-- The application a form registers, with fresh credentials. -/
def draft (form : ApplicationForm) (ownerType : OwnerType) (now : Instant)
    (clientUid clientSecret : String) : ApplicationDraft :=
  ⟨form.ownerId, ownerType, form.description, form.scopes.getD "", clientUid, clientSecret, now⟩

/-- What a form changes in an application: description and scopes, and nothing else. -/
def changes (form : ApplicationForm) (now : Instant) : ApplicationChanges :=
  ⟨form.description, form.scopes, now⟩

end ApplicationForm

/-- The type of every access token. -/
def tokenType : String := "Bearer"

/-- A grant as its client sees it. -/
def Grant.view (g : Grant) (now : Instant) : GrantView :=
  ⟨g.id, g.applicationId, g.resourceOwnerId, g.scopes, g.code, g.redirectUri,
    secondsUntil g.expiresAt now, g.expiresAt, g.createdAt, g.revokedAt⟩

/-- An access token, with the refresh token that goes with it, as their client sees them. -/
def AccessToken.view (t : AccessToken) (refresh : Option RefreshToken) (now : Instant) :
    AccessTokenView :=
  ⟨t.id, t.applicationId, t.resourceOwnerId, t.token, tokenType, t.scopes,
    secondsUntil t.expiresAt now, t.expiresAt, t.createdAt, refresh.map (·.token), t.revokedAt⟩

end OAuthGateway

import OAuthGateway.Authority.Issue
import OAuthGateway.Authority.Rules
import OAuthGateway.Store.Database

/-!
# Authority/Service — granting, redeeming and revoking

The authority answers three kinds of request. `grantor` issues an authorization code or, in the
implicit flow, an access token: `entitle` authenticates the client and checks what it asks for, then
`addCode` or `addToken` runs one transaction. `token` redeems a code or a refresh token, in two
steps as well: `prepare` authenticates the client, looks up the credential and checks it against
what is committed at that moment; `redeem` runs one transaction that first marks the credential as
used and then issues the tokens. Between the two the store may have changed, and marking a
credential that was used meanwhile refuses the request as an earlier check would have done.
`revokeToken` ends an access token.

Time and fresh credentials are parameters. Whatever is refused has changed nothing.
-/

namespace OAuthGateway

open Time Procedure

/-- The operation that answers a response type. -/
def ResponseType.operation : ResponseType → Operation
  | code => .grant
  | token => .grantToken

/-- How the authority is configured. -/
structure Authority where
  lifetimes : Lifetimes
  refreshEnabled : Bool
deriving DecidableEq

/-- A credential found, checked, and about to be redeemed. -/
inductive Redemption where
  | code (grant : Grant)
  | refresh (used : RefreshToken) (old : AccessToken)
deriving DecidableEq

namespace Authority

variable (auth : Authority)

/-- Any failure of the store, as a failure of the operation. -/
def failure (operation : Operation) : StoreError → Refusal := fun _ => .internal operation

/-- The application whose credentials are presented. -/
def authenticate (operation : Operation) (uid secret : Option String) :
    Procedure Refusal Application :=
  match uid, secret with
  | some uid, some secret =>
    (Database.client uid secret).mapError (Refusal.ofLookup operation .application)
  | _, _ => throw .missingClientCredentials

/-- Adds an access token and, if refresh tokens are enabled, the one that goes with it, and reads
both back. -/
def issue (operation : Operation) (draft : AccessTokenDraft) (now : Instant)
    (refreshText : String) : Procedure Refusal (AccessToken × Option RefreshToken) := do
  let id ← (Database.addAccessToken draft).mapError (failure operation)
  let refresh ←
    if auth.refreshEnabled then do
      let refreshId ← (Database.addRefreshToken
        (auth.lifetimes.refreshTokenFor id now refreshText)).mapError (failure operation)
      some <$> (Database.refreshToken refreshId).mapError (failure operation)
    else pure none
  let token ← (Database.accessToken id).mapError (failure operation)
  return (token, refresh)

/-- The application of a grant request, which may have what it asks for, and asks for no other
kind. -/
def entitle (kind : ResponseType) (r : GrantRequest) : Procedure Refusal Application := do
  let app ← authenticate kind.operation r.clientUid r.clientSecret
  if (← verdict (r.validate app)) ≠ kind then throw (.otherResponseType kind)
  return app

/-- The statements behind an authorization code: it is added and read back. -/
def codeSteps (now : Instant) (fresh : Credential.Fresh) (r : GrantRequest) (app : Application) :
    Procedure Refusal GrantView := do
  let id ← (Database.addGrant (auth.lifetimes.codeFor r app now fresh.code)).mapError
    (failure .grant)
  let grant ← (Database.grant id).mapError (failure .grant)
  return grant.view now

/-- The statements behind an access token without a code. -/
def tokenSteps (now : Instant) (fresh : Credential.Fresh) (r : GrantRequest) (app : Application) :
    Procedure Refusal AccessTokenView := do
  let draft := auth.lifetimes.tokenFor r app now fresh.token
  let (token, refresh) ← auth.issue .grantToken draft now fresh.refreshToken
  return token.view refresh now

/-- Adds the authorization code of an entitled request, and shows it. -/
def addCode (now : Instant) (fresh : Credential.Fresh) (r : GrantRequest) (app : Application) :
    Procedure Refusal GrantView :=
  transaction (failure .grant) (auth.codeSteps now fresh r app)

/-- Adds the access token of an entitled request, and shows it. -/
def addToken (now : Instant) (fresh : Credential.Fresh) (r : GrantRequest) (app : Application) :
    Procedure Refusal AccessTokenView :=
  transaction (failure .grantToken) (auth.tokenSteps now fresh r app)

/-- Issues an authorization code. -/
def grant (now : Instant) (fresh : Credential.Fresh) (r : GrantRequest) :
    Procedure Refusal GrantView := do
  let app ← entitle .code r
  auth.addCode now fresh r app

/-- Issues an access token without a code. -/
def grantToken (now : Instant) (fresh : Credential.Fresh) (r : GrantRequest) :
    Procedure Refusal AccessTokenView := do
  let app ← entitle .token r
  auth.addToken now fresh r app

/-- Issues what the response type asks for. -/
def grantor (now : Instant) (fresh : Credential.Fresh) (r : GrantRequest) :
    Procedure Refusal Issued := do
  match ← verdict (required r.responseType "response_type" >>= ResponseType.parse) with
  | .code => .grant <$> auth.grant now fresh r
  | .token => .token <$> auth.grantToken now fresh r

/-- Finds and checks the code that a request redeems. -/
def prepareExchange (now : Instant) (r : TokenRequest) (app : Application) :
    Procedure Refusal Redemption := do
  let grant ← (Database.grantOfCode (r.code.getD "")).mapError
    (Refusal.ofLookup .exchange .authorizationCode)
  verdict (grant.redeemable r app now)
  return .code grant

/-- Finds and checks the refresh token that a request redeems, and the access token behind it. -/
def prepareRotation (now : Instant) (r : TokenRequest) (app : Application) :
    Procedure Refusal Redemption := do
  let used ← (Database.refreshTokenOfText (r.refreshToken.getD "")).mapError
    (Refusal.ofLookup .rotation .refreshToken)
  verdict (used.redeemable now)
  let old ← (Database.accessToken used.accessTokenId).mapError
    (Refusal.ofLookup .rotation .accessToken)
  verdict (old.ownedBy app)
  return .refresh used old

/-- The first step of redeeming: all that is read and checked beforehand. -/
def prepare (now : Instant) (r : TokenRequest) : Procedure Refusal Redemption := do
  let app ← authenticate .token r.clientUid r.clientSecret
  match ← verdict (r.validate auth.refreshEnabled) with
  | .authorizationCode => prepareExchange now r app
  | .refreshToken => prepareRotation now r app

/-- Marks a credential as used: not to find it unused means that another request was faster. -/
def markUsed (operation : Operation) (used : Refusal) : StoreError → Refusal
  | .notFound => used
  | _ => .internal operation

/-- The statements that exchange a code for an access token. -/
def exchangeSteps (now : Instant) (fresh : Credential.Fresh) (grant : Grant) :
    Procedure Refusal AccessTokenView := do
  (Database.revokeGrant grant.code now).mapError (markUsed .exchange .codeUsed)
  let (token, refresh) ← auth.issue .exchange
    (auth.lifetimes.tokenForGrant grant now fresh.token) now fresh.refreshToken
  return token.view refresh now

/-- The statements that replace an access token and its refresh token by new ones. -/
def rotationSteps (now : Instant) (fresh : Credential.Fresh) (used : RefreshToken)
    (old : AccessToken) : Procedure Refusal AccessTokenView := do
  (Database.revokeRefreshToken used.token now).mapError (markUsed .rotation .refreshTokenUsed)
  let id ← (Database.addAccessToken (auth.lifetimes.tokenForToken old now fresh.token)).mapError
    (failure .rotation)
  let refreshId ← (Database.addRefreshToken
    (auth.lifetimes.refreshTokenFor id now fresh.refreshToken)).mapError (failure .rotation)
  let token ← (Database.accessToken id).mapError (failure .rotation)
  let refresh ← (Database.refreshToken refreshId).mapError (failure .rotation)
  return token.view (some refresh) now

/-- Exchanges a code for an access token. -/
def exchange (now : Instant) (fresh : Credential.Fresh) (grant : Grant) :
    Procedure Refusal AccessTokenView :=
  transaction (failure .exchange) (auth.exchangeSteps now fresh grant)

/-- Replaces an access token and its refresh token by new ones. -/
def rotate (now : Instant) (fresh : Credential.Fresh) (used : RefreshToken) (old : AccessToken) :
    Procedure Refusal AccessTokenView :=
  transaction (failure .rotation) (auth.rotationSteps now fresh used old)

/-- The second step of redeeming: one transaction. -/
def redeem (now : Instant) (fresh : Credential.Fresh) :
    Redemption → Procedure Refusal AccessTokenView
  | .code grant => auth.exchange now fresh grant
  | .refresh used old => auth.rotate now fresh used old

/-- Redeems an authorization code or a refresh token. -/
def token (now : Instant) (fresh : Credential.Fresh) (r : TokenRequest) :
    Procedure Refusal AccessTokenView := do
  let redemption ← auth.prepare now r
  auth.redeem now fresh redemption

/-- Revokes a live access token by its text. -/
def revokeToken (now : Instant) (r : RevokeRequest) : Procedure Refusal Unit := do
  let token ← verdict (required r.token "token")
  (Database.revokeAccessToken token now).mapError (Refusal.ofLookup .revoke .token)

end Authority

end OAuthGateway

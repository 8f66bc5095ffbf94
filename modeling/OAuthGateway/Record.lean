import OAuthGateway.Time.Instant

/-!
# Record — applications and the credentials issued to them

An application is a registered client. A grant is an authorization code, exchanged once for an
access token; an access token opens protected routes; a refresh token replaces the access token it
belongs to. A draft holds what the store needs to add a row: all but the row's id and its later
changes.
-/

namespace OAuthGateway

open Time

/-- Whether an application can be trusted to keep a secret. -/
inductive OwnerType where
  | confidentialClient
  | publicClient
deriving DecidableEq, Repr

namespace OwnerType

/-- The name of an owner type. -/
def name : OwnerType → String
  | confidentialClient => "confidential"
  | publicClient => "public"

/-- The owner type of a name, exactly as written. -/
def ofName? (s : String) : Option OwnerType :=
  if s = "confidential" then some confidentialClient
  else if s = "public" then some publicClient else none

theorem ofName?_name (t : OwnerType) : ofName? t.name = some t := by
  cases t <;> decide

/-- The complaint about a name that is no owner type. -/
def unknownMessage (s : String) : String := "unknown owner type '" ++ s ++ "'"

end OwnerType

/-- A registered client application. -/
structure Application where
  id : Int
  ownerId : Option String
  ownerType : OwnerType
  description : Option String
  scopes : String
  clientUid : String
  clientSecret : String
  createdAt : Instant
  updatedAt : Instant
  revokedAt : Option Instant
deriving DecidableEq

/-- What is needed to register an application. -/
structure ApplicationDraft where
  ownerId : Option String
  ownerType : OwnerType
  description : Option String
  scopes : String
  clientUid : String
  clientSecret : String
  createdAt : Instant
deriving DecidableEq

/-- New values for what may change in an application; an absent one leaves the old value. -/
structure ApplicationChanges where
  description : Option String
  scopes : Option String
  updatedAt : Instant
deriving DecidableEq

/-- An authorization code. -/
structure Grant where
  id : Int
  applicationId : Int
  resourceOwnerId : String
  scopes : String
  code : String
  redirectUri : String
  expiresAt : Instant
  createdAt : Instant
  revokedAt : Option Instant
deriving DecidableEq

/-- What is needed to issue an authorization code. -/
structure GrantDraft where
  applicationId : Int
  resourceOwnerId : String
  scopes : String
  code : String
  redirectUri : String
  expiresAt : Instant
  createdAt : Instant
deriving DecidableEq

/-- An access token. -/
structure AccessToken where
  id : Int
  applicationId : Int
  resourceOwnerId : String
  token : String
  scopes : String
  expiresAt : Instant
  createdAt : Instant
  revokedAt : Option Instant
deriving DecidableEq

/-- What is needed to issue an access token. -/
structure AccessTokenDraft where
  applicationId : Int
  resourceOwnerId : String
  token : String
  scopes : String
  expiresAt : Instant
  createdAt : Instant
deriving DecidableEq

/-- A refresh token, bound to the access token it was issued with. -/
structure RefreshToken where
  id : Int
  accessTokenId : Int
  token : String
  expiresAt : Instant
  createdAt : Instant
  revokedAt : Option Instant
deriving DecidableEq

/-- What is needed to issue a refresh token. -/
structure RefreshTokenDraft where
  accessTokenId : Int
  token : String
  expiresAt : Instant
  createdAt : Instant
deriving DecidableEq

/-- Credentials that expire and can be revoked. -/
class Expiring (α : Type) where
  /-- From this instant on the credential has expired. -/
  expiresAt : α → Instant
  /-- When it was revoked, if it was. -/
  revokedAt : α → Option Instant

instance : Expiring Grant := ⟨Grant.expiresAt, Grant.revokedAt⟩
instance : Expiring AccessToken := ⟨AccessToken.expiresAt, AccessToken.revokedAt⟩
instance : Expiring RefreshToken := ⟨RefreshToken.expiresAt, RefreshToken.revokedAt⟩

namespace Expiring

variable {α : Type} [Expiring α]

/-- The credential was revoked. -/
def isRevoked (x : α) : Bool := (revokedAt x).isSome

/-- The credential's time is over; at its expiry it already is. -/
def isExpired (x : α) (now : Instant) : Bool := decide (expiresAt x ≤ now)

/-- The credential is neither revoked nor expired. -/
def isLive (x : α) (now : Instant) : Bool := !isRevoked x && !isExpired x now

end Expiring

end OAuthGateway

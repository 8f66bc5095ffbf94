import OAuthGateway.Record

/-!
# Message/Basic — what clients send and what they are told

In a request every field may be absent, which is not the same as empty. An application is shown as
it is stored; a grant and an access token are shown with the seconds that are left to them.
-/

namespace OAuthGateway

open Time

/-- A request for an authorization code or, in the implicit flow, for an access token. -/
structure GrantRequest where
  responseType : Option String
  resourceOwnerId : Option String
  clientUid : Option String
  clientSecret : Option String
  redirectUri : Option String
  scopes : Option String
deriving DecidableEq, Repr

/-- A request to redeem an authorization code or a refresh token. -/
structure TokenRequest where
  grantType : Option String
  clientUid : Option String
  clientSecret : Option String
  code : Option String
  refreshToken : Option String
  redirectUri : Option String
deriving DecidableEq, Repr

/-- A request to revoke an access token. -/
structure RevokeRequest where
  token : Option String
deriving DecidableEq, Repr

/-- What an administrator states of an application when registering or updating it. -/
structure ApplicationForm where
  ownerId : Option String
  ownerType : Option String
  description : Option String
  scopes : Option String
deriving DecidableEq, Repr

/-- An authorization code as its client sees it. -/
structure GrantView where
  id : Int
  applicationId : Int
  resourceOwnerId : String
  scopes : String
  code : String
  redirectUri : String
  expiresIn : Int
  expiresAt : Instant
  createdAt : Instant
  revokedAt : Option Instant
deriving DecidableEq

/-- An access token, and the refresh token issued with it, as their client sees them. -/
structure AccessTokenView where
  id : Int
  applicationId : Int
  resourceOwnerId : String
  token : String
  tokenType : String
  scopes : String
  expiresIn : Int
  expiresAt : Instant
  createdAt : Instant
  refreshToken : Option String
  revokedAt : Option Instant
deriving DecidableEq

/-- What a grant request yields, depending on the response type it asks for. -/
inductive Issued where
  | grant (view : GrantView)
  | token (view : AccessTokenView)
deriving DecidableEq

/-- A window over a listing. -/
structure Window where
  offset : Int
  limit : Int
deriving DecidableEq, Repr

namespace Window

/-- The number of items when none is asked for. -/
def defaultLimit : Int := 20

/-- The greatest number of items. -/
def maxLimit : Int := 100

/-- A usable window: no negative offset, and between 1 and 100 items. -/
def clamped (offset limit : Option Int) : Window :=
  ⟨max 0 (offset.getD 0), min maxLimit (max 1 (limit.getD defaultLimit))⟩

end Window

/-- A window and the number of all items there are. -/
structure ListingInfo where
  offset : Int
  limit : Int
  total : Int
deriving DecidableEq, Repr

/-- Some of the applications. -/
structure ApplicationList where
  items : List Application
  info : ListingInfo
deriving DecidableEq

end OAuthGateway

import OAuthGateway.Store.Basic

/-!
# Authority/Refusal — why a request is refused

A `Refusal` is a cause. What a client is told of it is its `Complaint`: a kind and a text. Causes
inside the service keep to themselves; a client learns only the operation that failed.
-/

namespace OAuthGateway

/-- What a grant request asks for. -/
inductive ResponseType where
  | code
  | token
deriving DecidableEq, Repr

namespace ResponseType

/-- The name of a response type in a request. -/
def name : ResponseType → String
  | code => "code"
  | token => "token"

end ResponseType

/-- What a token request redeems. -/
inductive GrantType where
  | authorizationCode
  | refreshToken
deriving DecidableEq, Repr

/-- Things that are looked up. -/
inductive Entity where
  | application
  | authorizationCode
  | refreshToken
  | accessToken
  | token
deriving DecidableEq, Repr

namespace Entity

/-- The name of a thing in a complaint. -/
def name : Entity → String
  | application => "application"
  | authorizationCode => "authorization code"
  | refreshToken => "refresh token"
  | accessToken => "access token"
  | token => "token"

end Entity

/-- The operations in which the service may fail. -/
inductive Operation where
  | grant | grantToken | token | exchange | rotation | revoke
  | listApplications | getApplication | createApplication | updateApplication | revokeApplication
deriving DecidableEq, Repr

namespace Operation

/-- The name of an operation in a complaint. -/
def name : Operation → String
  | grant => "grant"
  | grantToken => "grant_token"
  | token => "token"
  | exchange => "authorization_code exchange"
  | rotation => "refresh_token rotation"
  | revoke => "revoke"
  | listApplications => "list applications"
  | getApplication => "get application"
  | createApplication => "create application"
  | updateApplication => "update application"
  | revokeApplication => "revoke application"

end Operation

/-- A complaint as a client hears it. -/
inductive Complaint where
  | validation (message : String)
  | notFound (entity : String)
  | forbidden (message : String)
  | invalidScopes (scopes : List String)
  | internal (operation : String)
deriving DecidableEq, Repr

namespace Complaint

/-- The text of a complaint. -/
def message : Complaint → String
  | validation m => m
  | notFound e => e ++ " not found"
  | forbidden m => m
  | invalidScopes scopes => "invalid scopes: " ++ " ".intercalate scopes
  | internal operation => "internal error during " ++ operation

/-- The code of a complaint's kind. -/
def code : Complaint → String
  | validation _ => "validation_error"
  | notFound _ => "not_found"
  | forbidden _ | invalidScopes _ => "forbidden"
  | internal _ => "internal_error"

end Complaint

/-- Why a request is refused. -/
inductive Refusal where
  | missing (field : String)
  | unknownOwnerType
  | unsupportedResponseType (value : String)
  | otherResponseType (expected : ResponseType)
  | unsupportedGrantType (value : String)
  | missingClientCredentials
  | implicitForPublicClient
  | invalidScopes (scopes : List String)
  | codeOfOtherApplication
  | codeUsed
  | codeExpired
  | redirectMismatch
  | refreshTokenUsed
  | refreshTokenExpired
  | refreshTokenOfOtherApplication
  | unknown (entity : Entity)
  | internal (operation : Operation)
deriving DecidableEq, Repr

namespace Refusal

/-- What the client is told. -/
def complaint : Refusal → Complaint
  | missing field => .validation (field ++ " is required")
  | unknownOwnerType => .validation "owner_type must be one of: confidential, public"
  | unsupportedResponseType v => .validation ("unsupported response_type '" ++ v ++ "'")
  | otherResponseType t => .validation ("response_type must be '" ++ t.name ++ "'")
  | unsupportedGrantType v => .validation ("unsupported grant_type '" ++ v ++ "'")
  | missingClientCredentials => .validation "client_uid and client_secret are required"
  | implicitForPublicClient =>
    .forbidden "response_type 'token' is only allowed for confidential applications"
  | invalidScopes scopes => .invalidScopes scopes
  | codeOfOtherApplication => .forbidden "authorization code was issued to another application"
  | codeUsed => .forbidden "authorization code already used"
  | codeExpired => .forbidden "authorization code expired"
  | redirectMismatch => .forbidden "redirect_uri does not match"
  | refreshTokenUsed => .forbidden "refresh token already used"
  | refreshTokenExpired => .forbidden "refresh token expired"
  | refreshTokenOfOtherApplication => .forbidden "refresh token was issued to another application"
  | unknown entity => .notFound entity.name
  | internal operation => .internal operation.name

/-- A store error where a lookup may fail to find its row: that is the client's concern. -/
def ofLookup (operation : Operation) (entity : Entity) : StoreError → Refusal
  | .notFound => unknown entity
  | _ => internal operation

end Refusal

end OAuthGateway

import OAuthGateway.Store.Basic

/-!
# Admission/Rejection — why a request is not forwarded

A rejection is a cause. The client is told a status, a code and a text; of a failing store only that
it is unavailable.
-/

namespace OAuthGateway

/-- Why a request does not get past the checks of its route. -/
inductive Rejection where
  | malformedBearer
  | unknownToken
  | expiredToken
  | revokedToken
  | missingScopes (scopes : List String)
  | missingBody
  | malformedBody (detail : String)
  | missingCredentials
  | unknownApplication
  | storeUnavailable
deriving DecidableEq, Repr

namespace Rejection

/-- The status of the answer. -/
def status : Rejection → Nat
  | malformedBearer | unknownToken | expiredToken | revokedToken | unknownApplication => 401
  | missingScopes _ => 403
  | missingBody | missingCredentials => 422
  | malformedBody _ => 400
  | storeUnavailable => 503

/-- The code of a rejection. -/
def code : Rejection → String
  | malformedBearer => "invalid_bearer_format"
  | unknownToken => "token_not_found"
  | expiredToken => "token_expired"
  | revokedToken => "token_revoked"
  | missingScopes _ => "insufficient_scope"
  | missingBody => "missing_body"
  | malformedBody _ => "malformed_body"
  | missingCredentials => "missing_credentials"
  | unknownApplication => "application_not_found"
  | storeUnavailable => "service_unavailable"

/-- The text of a rejection. -/
def message : Rejection → String
  | malformedBearer => "missing or malformed bearer token"
  | unknownToken => "access token not found"
  | expiredToken => "access token expired"
  | revokedToken => "access token revoked"
  | missingScopes scopes => "access token lacks required scopes: " ++ " ".intercalate scopes
  | missingBody => "request body is required"
  | malformedBody detail => "request body is not valid JSON: " ++ detail
  | missingCredentials => "client_uid and client_secret are required"
  | unknownApplication => "application not found"
  | storeUnavailable => "credential store unavailable"

/-- A failed lookup: a credential that is not found is `unknown`, anything else is the store's
fault. -/
def ofLookup (unknown : Rejection) : StoreError → Rejection
  | .notFound => unknown
  | _ => storeUnavailable

end Rejection

end OAuthGateway

import OAuthGateway.Authority.Refusal
import OAuthGateway.Scope

/-!
# Authority/Rules — what is checked before anything is issued

Each rule looks at a request and at stored rows and answers with the first condition that fails, in
the order in which the rule states them. The time is a parameter, so the same input always gets the
same verdict.
-/

namespace OAuthGateway

open Time

/-- A field that is present and not empty. -/
def required (value : Option String) (field : String) : Except Refusal String :=
  match value with
  | some v => if v = "" then .error (.missing field) else .ok v
  | none => .error (.missing field)

theorem required_eq_ok_iff {value : Option String} {field v : String} :
    required value field = .ok v ↔ value = some v ∧ v ≠ "" := by
  cases value with
  | none => simp [required]
  | some w =>
    simp only [required, Option.some.injEq]
    split <;> rename_i h
    · constructor
      · simp
      · rintro ⟨rfl, hv⟩
        exact absurd h hv
    · constructor
      · rintro ⟨⟩
        exact ⟨rfl, h⟩
      · rintro ⟨rfl, -⟩
        rfl

/-- The response type of a name. -/
def ResponseType.parse (value : String) : Except Refusal ResponseType :=
  if value = "code" then .ok .code
  else if value = "token" then .ok .token
  else .error (.unsupportedResponseType value)

/-- An application form names an owner type. -/
def ApplicationForm.validate (form : ApplicationForm) : Except Refusal OwnerType := do
  let name ← required form.ownerType "owner_type"
  match OwnerType.ofName? name with
  | some t => return t
  | none => throw .unknownOwnerType

/-- A grant request is complete, and its application may have what it asks for. The implicit flow is
refused to public clients before the scopes are looked at. -/
def GrantRequest.validate (r : GrantRequest) (app : Application) : Except Refusal ResponseType := do
  let kind ← required r.responseType "response_type" >>= ResponseType.parse
  discard (required r.resourceOwnerId "resource_owner_id")
  discard (required r.redirectUri "redirect_uri")
  if kind = .token ∧ app.ownerType ≠ .confidentialClient then throw .implicitForPublicClient
  match Scope.missing (r.scopes.getD "") app.scopes with
  | [] => return kind
  | scopes => throw (.invalidScopes scopes)

/-- A token request names a known grant type and has the fields that it needs. Without refresh
tokens their grant type is as unknown as any other. -/
def TokenRequest.validate (r : TokenRequest) (refreshEnabled : Bool) :
    Except Refusal GrantType := do
  let name ← required r.grantType "grant_type"
  if name = "authorization_code" then
    discard (required r.code "code")
    discard (required r.redirectUri "redirect_uri")
    return .authorizationCode
  else if name = "refresh_token" ∧ refreshEnabled then
    discard (required r.refreshToken "refresh_token")
    return .refreshToken
  else throw (.unsupportedGrantType name)

/-- A code may be redeemed by the application it was issued to, once, before it expires, and with
the redirect URI it was asked for. -/
def Grant.redeemable (g : Grant) (r : TokenRequest) (app : Application) (now : Instant) :
    Except Refusal Unit :=
  if g.applicationId ≠ app.id then .error .codeOfOtherApplication
  else if Expiring.isRevoked g then .error .codeUsed
  else if Expiring.isExpired g now then .error .codeExpired
  else if r.redirectUri ≠ some g.redirectUri then .error .redirectMismatch
  else .ok ()

/-- A refresh token may be redeemed once, before it expires. -/
def RefreshToken.redeemable (t : RefreshToken) (now : Instant) : Except Refusal Unit :=
  if Expiring.isRevoked t then .error .refreshTokenUsed
  else if Expiring.isExpired t now then .error .refreshTokenExpired
  else .ok ()

/-- The access token behind a refresh token belongs to the application that redeems it. -/
def AccessToken.ownedBy (t : AccessToken) (app : Application) : Except Refusal Unit :=
  if t.applicationId ≠ app.id then .error .refreshTokenOfOtherApplication else .ok ()

end OAuthGateway

import OAuthGateway.Message.Basic

/-!
# Store/Basic — the tables, and what one statement does to them

A `Store` is four tables, each a list of rows in the order of their insertion. Rows are never
removed, so the next id of a table is one more than its length (`nextId`). A statement is a function
from a store to an answer and a new store, or to a `StoreError`; on an error the store stays as it
was, because there is no other store to go on with.

Client ids, codes and tokens are unique in their tables, and an `applicationId` or `accessTokenId`
has to name a row. Revoking is a compare-and-swap: it succeeds once per row and is `notFound` ever
after.
-/

namespace OAuthGateway

open Time

/-- Why the store did not answer. -/
inductive StoreError where
  | notFound
  | timeout
  | database
  | migration
deriving DecidableEq, Repr

/-- All that is stored. -/
structure Store where
  applications : List Application
  grants : List Grant
  accessTokens : List AccessToken
  refreshTokens : List RefreshToken
deriving DecidableEq

/-! ## Rows of drafts -/

/-- The application of a draft, as it is added under an id. -/
def ApplicationDraft.row (d : ApplicationDraft) (id : Int) : Application :=
  ⟨id, d.ownerId, d.ownerType, d.description, d.scopes, d.clientUid, d.clientSecret, d.createdAt,
    d.createdAt, none⟩

/-- The grant of a draft, as it is added under an id. -/
def GrantDraft.row (d : GrantDraft) (id : Int) : Grant :=
  ⟨id, d.applicationId, d.resourceOwnerId, d.scopes, d.code, d.redirectUri, d.expiresAt,
    d.createdAt, none⟩

/-- The access token of a draft, as it is added under an id. -/
def AccessTokenDraft.row (d : AccessTokenDraft) (id : Int) : AccessToken :=
  ⟨id, d.applicationId, d.resourceOwnerId, d.token, d.scopes, d.expiresAt, d.createdAt, none⟩

/-- The refresh token of a draft, as it is added under an id. -/
def RefreshTokenDraft.row (d : RefreshTokenDraft) (id : Int) : RefreshToken :=
  ⟨id, d.accessTokenId, d.token, d.expiresAt, d.createdAt, none⟩

namespace Store

/-- The store after the tables have been created. -/
def empty : Store := ⟨[], [], [], []⟩

instance : Inhabited Store := ⟨empty⟩

/-- The id that the next row of a table gets. -/
def nextId {α : Type} (rows : List α) : Int := rows.length + 1

/-- The row found, or the error that there is none. -/
def found {α : Type} : Option α → Except StoreError α
  | some row => .ok row
  | none => .error .notFound

/-- Changes the row that satisfies `p`; without one, nothing is found. -/
def amend {α : Type} (p : α → Bool) (f : α → α) (rows : List α) : Except StoreError (List α) :=
  if rows.any p then .ok (rows.map fun row => if p row then f row else row) else .error .notFound

/-! ## Applications -/

/-- The application with an id. -/
def application (s : Store) (id : Int) : Except StoreError Application :=
  found (s.applications.find? fun a => a.id == id)

/-- The application with both credentials, unless it has been revoked. -/
def client (s : Store) (uid secret : String) : Except StoreError Application :=
  found (s.applications.find? fun a =>
    a.clientUid == uid && a.clientSecret == secret && a.revokedAt.isNone)

/-- The rows of a window: a negative offset is none, a negative limit is no limit. -/
def window {α : Type} (w : Window) (rows : List α) : List α :=
  let rest := rows.drop w.offset.toNat
  if w.limit < 0 then rest else rest.take w.limit.toNat

/-- Adds an application, whose client id has to be new. -/
def addApplication (s : Store) (d : ApplicationDraft) : Except StoreError (Int × Store) :=
  if s.applications.any fun a => a.clientUid == d.clientUid then .error .database
  else
    let id := nextId s.applications
    .ok (id, { s with applications := s.applications ++ [d.row id] })

/-- An application after a change. -/
def changed (c : ApplicationChanges) (a : Application) : Application :=
  { a with
    description := c.description <|> a.description
    scopes := c.scopes.getD a.scopes
    updatedAt := c.updatedAt }

/-- Changes the application with an id, revoked or not. -/
def updateApplication (s : Store) (id : Int) (c : ApplicationChanges) :
    Except StoreError (Unit × Store) := do
  let rows ← amend (fun a => a.id == id) (changed c) s.applications
  return ((), { s with applications := rows })

/-- Revokes the application with an id, once. -/
def revokeApplication (s : Store) (id : Int) (moment : Instant) :
    Except StoreError (Unit × Store) := do
  let rows ← amend (fun a => a.id == id && a.revokedAt.isNone)
    (fun a => { a with revokedAt := some moment, updatedAt := moment }) s.applications
  return ((), { s with applications := rows })

/-- The store holds an application with the id. -/
def hasApplication (s : Store) (id : Int) : Bool := s.applications.any fun a => a.id == id

/-! ## Authorization codes -/

/-- The grant with an id. -/
def grant (s : Store) (id : Int) : Except StoreError Grant :=
  found (s.grants.find? fun g => g.id == id)

/-- The grant of a code. -/
def grantOfCode (s : Store) (code : String) : Except StoreError Grant :=
  found (s.grants.find? fun g => g.code == code)

/-- Adds a grant: its code has to be new, its application has to exist. -/
def addGrant (s : Store) (d : GrantDraft) : Except StoreError (Int × Store) :=
  if s.grants.any (fun g => g.code == d.code) || !s.hasApplication d.applicationId then
    .error .database
  else
    let id := nextId s.grants
    .ok (id, { s with grants := s.grants ++ [d.row id] })

/-- Marks the grant of a code as used, once. -/
def revokeGrant (s : Store) (code : String) (moment : Instant) :
    Except StoreError (Unit × Store) := do
  let rows ← amend (fun g => g.code == code && g.revokedAt.isNone)
    (fun g => { g with revokedAt := some moment }) s.grants
  return ((), { s with grants := rows })

/-! ## Access tokens -/

/-- The access token with an id. -/
def accessToken (s : Store) (id : Int) : Except StoreError AccessToken :=
  found (s.accessTokens.find? fun t => t.id == id)

/-- The access token of a text. -/
def accessTokenOfText (s : Store) (token : String) : Except StoreError AccessToken :=
  found (s.accessTokens.find? fun t => t.token == token)

/-- Adds an access token: its text has to be new, its application has to exist. -/
def addAccessToken (s : Store) (d : AccessTokenDraft) : Except StoreError (Int × Store) :=
  if s.accessTokens.any (fun t => t.token == d.token) || !s.hasApplication d.applicationId then
    .error .database
  else
    let id := nextId s.accessTokens
    .ok (id, { s with accessTokens := s.accessTokens ++ [d.row id] })

/-- Revokes the access token of a text, once. -/
def revokeAccessToken (s : Store) (token : String) (moment : Instant) :
    Except StoreError (Unit × Store) := do
  let rows ← amend (fun t => t.token == token && t.revokedAt.isNone)
    (fun t => { t with revokedAt := some moment }) s.accessTokens
  return ((), { s with accessTokens := rows })

/-- The store holds an access token with the id. -/
def hasAccessToken (s : Store) (id : Int) : Bool := s.accessTokens.any fun t => t.id == id

/-! ## Refresh tokens -/

/-- The refresh token with an id. -/
def refreshToken (s : Store) (id : Int) : Except StoreError RefreshToken :=
  found (s.refreshTokens.find? fun t => t.id == id)

/-- The refresh token of a text. -/
def refreshTokenOfText (s : Store) (token : String) : Except StoreError RefreshToken :=
  found (s.refreshTokens.find? fun t => t.token == token)

/-- Adds a refresh token: its text has to be new, its access token has to exist. -/
def addRefreshToken (s : Store) (d : RefreshTokenDraft) : Except StoreError (Int × Store) :=
  if s.refreshTokens.any (fun t => t.token == d.token) || !s.hasAccessToken d.accessTokenId then
    .error .database
  else
    let id := nextId s.refreshTokens
    .ok (id, { s with refreshTokens := s.refreshTokens ++ [d.row id] })

/-- Marks the refresh token of a text as used, once. -/
def revokeRefreshToken (s : Store) (token : String) (moment : Instant) :
    Except StoreError (Unit × Store) := do
  let rows ← amend (fun t => t.token == token && t.revokedAt.isNone)
    (fun t => { t with revokedAt := some moment }) s.refreshTokens
  return ((), { s with refreshTokens := rows })

end Store

end OAuthGateway

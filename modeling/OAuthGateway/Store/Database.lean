import OAuthGateway.Store.Basic

/-!
# Store/Database — calls, transactions and failures

A `Database` is the committed store and, inside a transaction, the pending one. Statements see and
change the pending store while there is one; `commit` makes it the committed store, `rollback` drops
it.

Any call may fail before it has an effect. Which ones do is an input: `Faults` says it for every
call by its place in the run and by its kind, so a theorem about all faults is a theorem about every
pattern of failures. `transaction` runs a procedure between `begin` and `commit`; if the procedure
fails, or one of the two does, the committed store is what it was before.
-/

namespace OAuthGateway

/-- The calls that the database answers. -/
inductive Call where
  | applicationById | applicationByCredentials | applicationList | applicationCount
  | applicationCreate | applicationUpdate | applicationRevoke
  | grantById | grantByCode | grantCreate | grantRevoke
  | accessTokenById | accessTokenByText | accessTokenCreate | accessTokenRevoke
  | refreshTokenById | refreshTokenByText | refreshTokenCreate | refreshTokenRevoke
  | begin | commit | migrate | ping
deriving DecidableEq, Repr

/-- The name of a call: the table, and what is asked of it. -/
def Call.name : Call → String
  | .applicationById => "apps.one"
  | .applicationByCredentials => "apps.one_by_credentials"
  | .applicationList => "apps.list"
  | .applicationCount => "apps.count"
  | .applicationCreate => "apps.create"
  | .applicationUpdate => "apps.update"
  | .applicationRevoke => "apps.revoke"
  | .grantById => "grants.one"
  | .grantByCode => "grants.one_by_code"
  | .grantCreate => "grants.create"
  | .grantRevoke => "grants.revoke"
  | .accessTokenById => "tokens.one"
  | .accessTokenByText => "tokens.one_by_token"
  | .accessTokenCreate => "tokens.create"
  | .accessTokenRevoke => "tokens.revoke"
  | .refreshTokenById => "refresh.one"
  | .refreshTokenByText => "refresh.one_by_token"
  | .refreshTokenCreate => "refresh.create"
  | .refreshTokenRevoke => "refresh.revoke"
  | .begin => "begin"
  | .commit => "commit"
  | .migrate => "migrate"
  | .ping => "ping"

/-- Which calls fail, and how: by the number of calls made before, and the kind of the call. -/
abbrev Faults := Nat → Call → Option StoreError

namespace Faults

/-- Every call is answered. -/
def none : Faults := fun _ _ => .none

/-- Every call fails: the connections have been closed. -/
def closed : Faults := fun _ call => some (if call = .migrate then .migration else .database)

/-- The first faults where they say something, the second elsewhere. -/
def orElse (first second : Faults) : Faults := fun n call => first n call <|> second n call

end Faults

/-- The committed store, the pending one of an open transaction, and the number of calls made. -/
structure Database where
  committed : Store
  pending : Option Store
  calls : Nat

namespace Database

/-- A database with its tables created and nothing in them. -/
def empty : Database := ⟨Store.empty, none, 0⟩

instance : Inhabited Database := ⟨empty⟩

/-- What a statement sees. -/
def visible (db : Database) : Store := db.pending.getD db.committed

/-- The database after a statement that left the visible store as `s`. -/
def write (db : Database) (s : Store) : Database :=
  match db.pending with
  | some _ => { db with pending := some s }
  | none => { db with committed := s }

/-- The transaction opened on the committed store. -/
def opened (db : Database) : Database := { db with pending := some db.committed }

/-- The pending store made the committed one. -/
def closed (db : Database) : Database := ⟨db.visible, none, db.calls⟩

/-- The pending store dropped. -/
def rolledBack (db : Database) : Database := { db with pending := none }

end Database

/-- A computation that calls the database and may fail; the database keeps what was done before. -/
abbrev Procedure (ε α : Type) := ReaderT Faults (ExceptT ε (StateM Database)) α

namespace Procedure

variable {ε ε' α : Type}

/-- Runs a procedure against some faults and a database. -/
def perform (procedure : Procedure ε α) (faults : Faults) (db : Database) : Except ε α × Database :=
  procedure.run faults |>.run |>.run db

/-- The same procedure with its errors renamed. -/
def mapError (f : ε → ε') (procedure : Procedure ε α) : Procedure ε' α :=
  fun faults => ExceptT.mk fun db =>
    match procedure.perform faults db with
    | (.ok v, db) => (.ok v, db)
    | (.error e, db) => (.error (f e), db)

/-- A verdict reached without the database. -/
def verdict (v : Except ε α) : Procedure ε α := fun _ => ExceptT.mk (pure v)

/-- Makes a call: a fault comes before any effect, and an error of the statement has none. -/
def call (kind : Call) (statement : Store → Except StoreError (α × Store)) :
    Procedure StoreError α :=
  fun faults => ExceptT.mk fun db =>
    let counted := { db with calls := db.calls + 1 }
    match faults db.calls kind with
    | some e => (.error e, counted)
    | none =>
      match statement db.visible with
      | .ok (v, s) => (.ok v, counted.write s)
      | .error e => (.error e, counted)

/-- Makes a call that only looks. -/
def look (kind : Call) (statement : Store → Except StoreError α) : Procedure StoreError α :=
  call kind fun s => (statement s).map fun v => (v, s)

/-- Makes a call that changes the database itself and not its rows. -/
def control (kind : Call) (effect : Database → Database) : Procedure StoreError Unit :=
  fun faults => ExceptT.mk fun db =>
    let counted := { db with calls := db.calls + 1 }
    match faults db.calls kind with
    | some e => (.error e, counted)
    | none => (.ok (), effect counted)

/-- Opens a transaction. -/
def begin : Procedure StoreError Unit := control .begin Database.opened

/-- Makes the transaction's changes permanent. -/
def commit : Procedure StoreError Unit := control .commit Database.closed

/-- Creates the tables where they are missing; they never are. -/
def migrate : Procedure StoreError Unit := control .migrate id

/-- Asks for a sign of life. -/
def ping : Procedure StoreError Unit := control .ping id

/-- Drops what is pending if the procedure fails. -/
def orRollback (procedure : Procedure ε α) : Procedure ε α :=
  fun faults => ExceptT.mk fun db =>
    match procedure.perform faults db with
    | (.ok v, db) => (.ok v, db)
    | (.error e, db) => (.error e, db.rolledBack)

/-- Runs a procedure as one transaction; `failure` names the errors of `begin` and `commit`. -/
def transaction (failure : StoreError → ε) (procedure : Procedure ε α) : Procedure ε α := do
  begin.mapError failure
  orRollback do
    let v ← procedure
    commit.mapError failure
    return v

/-! ### What performing does, step by step -/

section Perform

variable {β : Type} (faults : Faults) (db : Database)

@[simp] theorem perform_pure (v : α) :
    (pure v : Procedure ε α).perform faults db = (.ok v, db) := rfl

@[simp] theorem perform_throw (e : ε) :
    (throw e : Procedure ε α).perform faults db = (.error e, db) := rfl

@[simp] theorem perform_verdict (v : Except ε α) : (verdict v).perform faults db = (v, db) := rfl

/-- The second step sees what the first one left, and is not taken after an error. -/
theorem perform_bind (p : Procedure ε α) (f : α → Procedure ε β) :
    (p >>= f).perform faults db =
      match p.perform faults db with
      | (.ok v, db) => (f v).perform faults db
      | (.error e, db) => (.error e, db) := by
  unfold perform
  simp only [bind, ReaderT.bind, ReaderT.run, ExceptT.bind, ExceptT.run, StateT.bind, StateT.run,
    ExceptT.mk, ExceptT.bindCont]
  rcases p faults db with ⟨v | e, db'⟩ <;> rfl

theorem perform_map (f : α → β) (p : Procedure ε α) :
    (f <$> p).perform faults db = ((p.perform faults db).1.map f, (p.perform faults db).2) := by
  rw [map_eq_pure_bind, perform_bind]
  rcases p.perform faults db with ⟨v | e, db'⟩ <;> rfl

theorem perform_mapError (g : ε → ε') (p : Procedure ε α) :
    (p.mapError g).perform faults db =
      ((p.perform faults db).1.mapError g, (p.perform faults db).2) := by
  unfold mapError
  change (match p.perform faults db with
    | (.ok v, db) => ((.ok v, db) : Except ε' α × Database)
    | (.error e, db) => (.error (g e), db)) = _
  rcases p.perform faults db with ⟨v | e, db'⟩ <;> rfl

theorem perform_call (kind : Call) (statement : Store → Except StoreError (α × Store)) :
    (call kind statement).perform faults db =
      match faults db.calls kind with
      | some e => (.error e, { db with calls := db.calls + 1 })
      | none =>
        match statement db.visible with
        | .ok (v, s) => (.ok v, ({ db with calls := db.calls + 1 } : Database).write s)
        | .error e => (.error e, { db with calls := db.calls + 1 }) := rfl

theorem perform_control (kind : Call) (effect : Database → Database) :
    (control kind effect).perform faults db =
      match faults db.calls kind with
      | some e => (.error e, { db with calls := db.calls + 1 })
      | none => (.ok (), effect { db with calls := db.calls + 1 }) := rfl

theorem perform_orRollback (p : Procedure ε α) :
    (orRollback p).perform faults db =
      match p.perform faults db with
      | (.ok v, db) => (.ok v, db)
      | (.error e, db) => (.error e, db.rolledBack) := rfl

end Perform

end Procedure

/-! ## The calls -/

namespace Database

open Procedure Time

/-- Looks up an application by its id. -/
def application (id : Int) : Procedure StoreError Application :=
  look .applicationById fun s => s.application id

/-- Looks up an application by its credentials; a revoked one is not found. -/
def client (uid secret : String) : Procedure StoreError Application :=
  look .applicationByCredentials fun s => s.client uid secret

/-- The applications of a window, in the order of their ids. -/
def applications (w : Window) : Procedure StoreError (List Application) :=
  look .applicationList fun s => .ok (Store.window w s.applications)

/-- The number of applications, revoked ones included. -/
def applicationCount : Procedure StoreError Nat :=
  look .applicationCount fun s => .ok s.applications.length

/-- Registers an application. -/
def addApplication (d : ApplicationDraft) : Procedure StoreError Int :=
  call .applicationCreate fun s => s.addApplication d

/-- Changes an application. -/
def updateApplication (id : Int) (c : ApplicationChanges) : Procedure StoreError Unit :=
  call .applicationUpdate fun s => s.updateApplication id c

/-- Revokes an application. -/
def revokeApplication (id : Int) (moment : Instant) : Procedure StoreError Unit :=
  call .applicationRevoke fun s => s.revokeApplication id moment

/-- Looks up a grant by its id. -/
def grant (id : Int) : Procedure StoreError Grant := look .grantById fun s => s.grant id

/-- Looks up a grant by its code. -/
def grantOfCode (code : String) : Procedure StoreError Grant :=
  look .grantByCode fun s => s.grantOfCode code

/-- Adds a grant. -/
def addGrant (d : GrantDraft) : Procedure StoreError Int := call .grantCreate fun s => s.addGrant d

/-- Marks a grant as used. -/
def revokeGrant (code : String) (moment : Instant) : Procedure StoreError Unit :=
  call .grantRevoke fun s => s.revokeGrant code moment

/-- Looks up an access token by its id. -/
def accessToken (id : Int) : Procedure StoreError AccessToken :=
  look .accessTokenById fun s => s.accessToken id

/-- Looks up an access token by its text. -/
def accessTokenOfText (token : String) : Procedure StoreError AccessToken :=
  look .accessTokenByText fun s => s.accessTokenOfText token

/-- Adds an access token. -/
def addAccessToken (d : AccessTokenDraft) : Procedure StoreError Int :=
  call .accessTokenCreate fun s => s.addAccessToken d

/-- Revokes an access token. -/
def revokeAccessToken (token : String) (moment : Instant) : Procedure StoreError Unit :=
  call .accessTokenRevoke fun s => s.revokeAccessToken token moment

/-- Looks up a refresh token by its id. -/
def refreshToken (id : Int) : Procedure StoreError RefreshToken :=
  look .refreshTokenById fun s => s.refreshToken id

/-- Looks up a refresh token by its text. -/
def refreshTokenOfText (token : String) : Procedure StoreError RefreshToken :=
  look .refreshTokenByText fun s => s.refreshTokenOfText token

/-- Adds a refresh token. -/
def addRefreshToken (d : RefreshTokenDraft) : Procedure StoreError Int :=
  call .refreshTokenCreate fun s => s.addRefreshToken d

/-- Marks a refresh token as used. -/
def revokeRefreshToken (token : String) (moment : Instant) : Procedure StoreError Unit :=
  call .refreshTokenRevoke fun s => s.revokeRefreshToken token moment

end Database

end OAuthGateway

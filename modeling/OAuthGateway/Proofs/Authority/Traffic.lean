import OAuthGateway.Authority.Registry
import OAuthGateway.Proofs.Authority.Outcome
import OAuthGateway.Proofs.Authority.Preparation

/-!
# Proofs/Authority/Traffic — requests that overlap

A `Traffic` is the committed store, the requests that have passed their checks and wait for their
transaction, and the log of all answers, the latest first.  A `Move` is one atomic thing that
happens next: the checks of a request, the transaction of a waiting one, a request given up, an
access token revoked, an errand of the administration; each under faults of its own.  `after` runs
any list of moves from an empty store, so a theorem about `after auth moves` for all `moves` is a
theorem about every order in which requests can overlap and every way in which the store can fail.

A move relates the rows before and after it as the statements do that it may make, whatever the
relation is (`Traffic.related_step`).  A revocation and an errand have frames of their own: the one
changes at most when access tokens were revoked (`Store.Withdrawn`), the other only applications
(`Store.Administered`).
-/

namespace OAuthGateway

open Time Procedure

/-- What an administrator may ask for. -/
inductive Errand where
  | list (w : Window)
  | one (id : Int)
  | create (form : ApplicationForm)
  | update (id : Int) (form : ApplicationForm)
  | revoke (id : Int)

/-- What an administrator is shown. -/
inductive Errand.Result where
  | page (list : ApplicationList)
  | application (app : Application)
  | done

/-- What the registry answers to an errand. -/
def Errand.answer (now : Instant) (fresh : Credential.Fresh) :
    Errand → Procedure Refusal Errand.Result
  | list w => .page <$> Registry.list w
  | one id => .application <$> Registry.one id
  | create form => .application <$> Registry.create now fresh form
  | update id form => .application <$> Registry.update now id form
  | revoke id => (fun _ => .done) <$> Registry.revoke now id

/-- A request whose checks have passed, at the time that its transaction will use. -/
structure Task where
  request : IssueRequest
  now : Instant
  clearance : Clearance

/-- Something that was asked, and the answer. -/
inductive Event where
  | issue (request : IssueRequest) (answer : Except Refusal Issued)
  | revoke (request : RevokeRequest) (answer : Except Refusal Unit)
  | administer (errand : Errand) (answer : Except Refusal Errand.Result)

/-- The committed store, the requests under way, and the answers given, the latest first. -/
structure Traffic where
  store : Store
  waiting : List Task
  log : List Event

/-- What may happen next. -/
inductive Move where
  | clear (request : IssueRequest) (now : Instant) (faults : Faults)
  | write (place : ℕ) (fresh : Credential.Fresh) (faults : Faults)
  | abandon (place : ℕ)
  | revoke (request : RevokeRequest) (now : Instant) (faults : Faults)
  | administer (errand : Errand) (now : Instant) (fresh : Credential.Fresh) (faults : Faults)

/-- A connection to committed rows, before its first call. -/
def Database.ofStore (s : Store) : Database := ⟨s, none, 0⟩

@[simp] theorem Database.visible_ofStore (s : Store) : (ofStore s).visible = s := rfl

@[simp] theorem Database.calls_ofStore (s : Store) : (ofStore s).calls = 0 := rfl

namespace Traffic

variable (auth : Authority)

/-- No rows, no requests, no answers. -/
def start : Traffic := ⟨.empty, [], []⟩

/-- The traffic after one move. -/
def step (w : Traffic) : Move → Traffic
  | .clear q now faults =>
    match (auth.clear now q).perform faults (.ofStore w.store) with
    | (.ok c, db) => ⟨db.committed, ⟨q, now, c⟩ :: w.waiting, w.log⟩
    | (.error e, db) => ⟨db.committed, w.waiting, .issue q (.error e) :: w.log⟩
  | .write place fresh faults =>
    match w.waiting[place]? with
    | some task =>
      let (answer, db) :=
        (auth.write task.now fresh task.clearance).perform faults (.ofStore w.store)
      ⟨db.committed, w.waiting.eraseIdx place, .issue task.request answer :: w.log⟩
    | none => w
  | .abandon place => { w with waiting := w.waiting.eraseIdx place }
  | .revoke r now faults =>
    let (answer, db) := (Authority.revokeToken now r).perform faults (.ofStore w.store)
    ⟨db.committed, w.waiting, .revoke r answer :: w.log⟩
  | .administer errand now fresh faults =>
    let (answer, db) := (errand.answer now fresh).perform faults (.ofStore w.store)
    ⟨db.committed, w.waiting, .administer errand answer :: w.log⟩

/-- The traffic after some moves, from nothing. -/
def after (moves : List Move) : Traffic := moves.foldl (step auth) start

variable {auth}

/-- A run goes on from where its first part has ended. -/
theorem after_append (moves later : List Move) :
    after auth (moves ++ later) = later.foldl (step auth) (after auth moves) :=
  List.foldl_append

/-- The last move of a run is made on what the others have left. -/
theorem after_concat (moves : List Move) (move : Move) :
    after auth (moves ++ [move]) = step auth (after auth moves) move :=
  after_append moves [move]

/-- What holds at the start and survives every move holds after any moves. -/
theorem after_induction {P : Traffic → Prop} (hstart : P start)
    (hstep : ∀ w move, P w → P (step auth w move)) (moves : List Move) : P (after auth moves) := by
  suffices h : ∀ w, P w → P (moves.foldl (step auth) w) from h start hstart
  induction moves with
  | nil => exact fun w hw => hw
  | cons move moves ih => exact fun w hw => ih _ (hstep w move hw)

end Traffic

/-! ## A race

One code is checked twice and then exchanged twice; the refresh token of the exchange that succeeds
is checked twice and then rotated twice. -/

namespace Race

/-- Refresh tokens are enabled. -/
def authority : Authority := ⟨.standard, true⟩

/-- Fresh credentials, told apart by a number. -/
def fresh (n : ℕ) : Credential.Fresh :=
  ⟨"uid", "secret", s!"code{n}", s!"token{n}", s!"refresh{n}", ""⟩

def form : ApplicationForm := ⟨none, some "confidential", none, none⟩

def grant : GrantRequest :=
  ⟨some "code", some "owner", some "uid", some "secret", some "uri", none⟩

def exchange : TokenRequest :=
  ⟨some "authorization_code", some "uid", some "secret", some "code1", none, some "uri"⟩

def rotation : TokenRequest :=
  ⟨some "refresh_token", some "uid", some "secret", none, some "refresh2", none⟩

def moves : List Move :=
  [.administer (.create form) .epoch (fresh 0) .none,
    .clear (.grant grant) .epoch .none, .write 0 (fresh 1) .none,
    .clear (.token exchange) .epoch .none, .clear (.token exchange) .epoch .none,
    .write 1 (fresh 2) .none, .write 0 (fresh 3) .none,
    .clear (.token rotation) .epoch .none, .clear (.token rotation) .epoch .none,
    .write 1 (fresh 4) .none, .write 0 (fresh 5) .none]

/-- The race when the code has been issued. -/
def granted : Traffic := Traffic.after authority (moves.take 3)

/-- The client of the race. -/
def client : Application :=
  ⟨1, none, .confidentialClient, none, "", "uid", "secret", .epoch, .epoch, none⟩

/-- The code that the race is about. -/
def code : Grant :=
  ⟨1, 1, "owner", "", "code1", "uri", expiry .epoch Lifetimes.standard.authorizationCode, .epoch,
    none⟩

/-- The race when the code has been exchanged, and the second exchange is still under way. -/
def exchanged : Traffic := Traffic.after authority (moves.take 6)

/-- Commits fail, and nothing else does. -/
def commitFails : Faults := fun _ call => if call = .commit then some .timeout else none

end Race

/-! ## Revocations leave all else alone

Revoking an access token amends one table, and in it one column. -/

/-- At most the revocation of access tokens has changed. -/
structure Store.Withdrawn (s s' : Store) : Prop where
  leads : s.Leads s'
  grants : s'.grants = s.grants
  refreshTokens : s'.refreshTokens = s.refreshTokens
  /-- What is fixed in an access token is as it was. -/
  accessTokens : ∀ {β : Type} {g : AccessToken → β}, (∀ {t t'}, Row.Kept t t' → g t' = g t) →
    s'.accessTokens.map g = s.accessTokens.map g

namespace Store.Withdrawn

variable {s s' : Store}

theorem refl (s : Store) : Withdrawn s s := ⟨.refl s, rfl, rfl, fun _ => rfl⟩

/-- The revocation of an access token changes at most when access tokens were revoked. -/
theorem revoke {text : String} {moment : Instant}
    (h : s.revokeAccessToken text moment = .ok ((), s')) : Withdrawn s s' := by
  have hleads : s.Leads s' := .single (.revokeAccessToken h)
  obtain ⟨rows, hamend, rfl⟩ := revokeAccessToken_ok h
  exact ⟨hleads, rfl, rfl, fun hg => Table.map_amend hg (kept_revokedAccessToken moment) hamend⟩

end Store.Withdrawn

/-! ## Errands leave credentials alone

The administration knows applications only. -/

/-- Statements have changed applications, and nothing else. -/
structure Store.Administered (s s' : Store) : Prop where
  leads : s.Leads s'
  grants : s'.grants = s.grants
  accessTokens : s'.accessTokens = s.accessTokens
  refreshTokens : s'.refreshTokens = s.refreshTokens

namespace Store.Administered

variable {s s' s'' : Store} {rows : List Application}

theorem refl (s : Store) : Administered s s := ⟨.refl s, rfl, rfl, rfl⟩

theorem trans (h : Administered s s') (h' : Administered s' s'') : Administered s s'' where
  leads := h.leads.trans h'.leads
  grants := h'.grants.trans h.grants
  accessTokens := h'.accessTokens.trans h.accessTokens
  refreshTokens := h'.refreshTokens.trans h.refreshTokens

/-- A registration changes applications only. -/
theorem add {d : ApplicationDraft} {id : Int} (h : s.addApplication d = .ok (id, s')) :
    Administered s s' := by
  have hleads : s.Leads s' := .single (.addApplication h)
  obtain ⟨-, -, rfl⟩ := addApplication_ok h
  exact ⟨hleads, rfl, rfl, rfl⟩

/-- An update changes applications only. -/
theorem update {id : Int} {changes : ApplicationChanges}
    (h : s.updateApplication id changes = .ok ((), s')) : Administered s s' := by
  have hleads : s.Leads s' := .single (.updateApplication h)
  obtain ⟨rows, -, rfl⟩ := updateApplication_ok h
  exact ⟨hleads, rfl, rfl, rfl⟩

/-- The revocation of an application changes applications only. -/
theorem revoke {id : Int} {moment : Instant}
    (h : s.revokeApplication id moment = .ok ((), s')) : Administered s s' := by
  have hleads : s.Leads s' := .single (.revokeApplication h)
  obtain ⟨rows, -, rfl⟩ := revokeApplication_ok h
  exact ⟨hleads, rfl, rfl, rfl⟩

end Store.Administered

namespace Errand

section Relation

variable {R : Store → Store → Prop} {refl : ∀ s, R s s}
  {trans : ∀ {s s' s''}, R s s' → R s' s'' → R s s''}

theorem keeps_outside_look {α : Type} (f : StoreError → Refusal) (kind : Call)
    (statement : Store → Except StoreError α) :
    Keeps (.outside R refl trans) ((look kind statement).mapError f) :=
  keeps_mapError f (keeps_untouched_look kind statement).outside_of_untouched

/-- **An errand changes rows by its statements**, whatever fails; of updates and revocations it is
only said for the one that the errand asks for. -/
theorem keeps_outside_answer (now : Instant) (fresh : Credential.Fresh) (errand : Errand)
    (hadd : ∀ d, Follows R fun s => s.addApplication d)
    (hupdate : ∀ id form, errand = .update id form →
      Follows R fun s => s.updateApplication id (form.changes now))
    (hrevoke : ∀ id, errand = .revoke id → Follows R fun s => s.revokeApplication id now) :
    Keeps (.outside R refl trans) (errand.answer now fresh) := by
  cases errand with
  | list w =>
    refine keeps_map _ (keeps_bind (keeps_outside_look _ _ _) fun total => ?_)
    exact keeps_bind (keeps_outside_look _ _ _) fun items => keeps_pure _
  | one id => exact keeps_map _ (keeps_outside_look _ _ _)
  | create form =>
    refine keeps_map _ (keeps_bind (keeps_verdict _) fun ownerType => ?_)
    refine keeps_bind (keeps_mapError _ (keeps_outside_call (hadd _))) fun id => ?_
    exact keeps_outside_look _ _ _
  | update id form =>
    refine keeps_map _ (keeps_bind (keeps_mapError _ ?_) fun _ => keeps_outside_look _ _ _)
    exact keeps_outside_call (hupdate id form rfl)
  | revoke id => exact keeps_map _ (keeps_mapError _ (keeps_outside_call (hrevoke id rfl)))

end Relation

/-- **An errand changes applications only**, whatever fails. -/
theorem keeps_administered_answer (now : Instant) (fresh : Credential.Fresh) (errand : Errand) :
    Keeps (.outside Store.Administered .refl .trans) (errand.answer now fresh) :=
  errand.keeps_outside_answer now fresh (fun _ _ _ _ => .add) (fun _ _ _ _ _ _ => .update)
    fun _ _ _ _ _ => .revoke

end Errand

/-! ## Moves relate rows as their statements do

Nothing has to be said about the order of moves: what every statement does is done by every move. -/

/-- Checks leave the rows, whether they pass or not. -/
theorem Traffic.store_step_clear {auth : Authority} (w : Traffic) (q : IssueRequest)
    (now : Instant) (faults : Faults) :
    (step auth w (.clear q now faults)).store = w.store := by
  have hkept := (auth.keeps_untouched_clear now q faults (.ofStore w.store)).1
  rcases hrun : (auth.clear now q).perform faults (.ofStore w.store) with ⟨e | c, db⟩ <;>
    rw [hrun] at hkept <;> simp only [step, hrun] <;> exact hkept

/-- **A move relates the rows before and after it** as the statements do that it may make: those of
the transactions that wait, of a revocation, and of its errand. -/
theorem Traffic.related_step {auth : Authority} {R : Store → Store → Prop} (refl : ∀ s, R s s)
    (trans : ∀ {s s' s''}, R s s' → R s' s'' → R s s'') {w : Traffic} {move : Move}
    (hwrite : ∀ task ∈ w.waiting, Authority.Statements R (task.clearance.refreshes auth))
    (hrevoke : ∀ text moment, Follows R fun s => s.revokeAccessToken text moment)
    (herrand : ∀ errand now fresh faults, move = .administer errand now fresh faults →
      Keeps (.outside R refl trans) (errand.answer now fresh)) :
    R w.store (step auth w move).store := by
  cases move with
  | clear q now faults => exact (store_step_clear w q now faults).symm ▸ refl _
  | write place fresh faults =>
    cases htask : w.waiting[place]? with
    | none => simp only [step, htask]; exact refl _
    | some task =>
      simp only [step, htask]
      have hkept : Keeps (.outside R refl trans) (auth.write task.now fresh task.clearance) :=
        auth.keeps_outside_write task.now fresh (hwrite task (List.mem_of_getElem? htask))
      exact (hkept faults (.ofStore w.store) rfl).2
  | abandon place => exact refl _
  | revoke r now faults =>
    have hkept : Keeps (.outside R refl trans) (Authority.revokeToken now r) :=
      Authority.keeps_outside_revokeToken now hrevoke r
    exact (hkept faults (.ofStore w.store) rfl).2
  | administer errand now fresh faults =>
    exact (herrand errand now fresh faults rfl faults (.ofStore w.store) rfl).2

end OAuthGateway

import OAuthGateway.Authority.Service
import OAuthGateway.Proofs.Store.Transaction

/-!
# Proofs/Authority/Clearance — every issue is a check, and then one transaction

An `IssueRequest` asks for something to be issued.  `clear` makes all its checks and only looks;
what comes out is a `Clearance`, and `write` is the transaction on it.  The answer of the authority
is one after the other (`answer_eq_bind`), so whatever is proved of `clear` and `write`, with
anything happening between them, holds of what the authority does.

Of each part the frame is settled here once: `clear` leaves everything untouched, and a transaction
relates the rows before and after as its `Statements` do, whatever the relation is
(`keeps_outside_write`).  With the relation that statements lead from one to the other, `write`,
every answer and `revokeToken` are atomic.
-/

namespace OAuthGateway

open Time Procedure

/-- A request to issue something. -/
inductive IssueRequest where
  | grantor (r : GrantRequest)
  | grant (r : GrantRequest)
  | grantToken (r : GrantRequest)
  | token (r : TokenRequest)

/-- What has passed its checks and waits for its transaction. -/
inductive Clearance where
  | code (r : GrantRequest) (app : Application)
  | token (r : GrantRequest) (app : Application)
  | redemption (redemption : Redemption)

/-- Its transaction makes statements on refresh tokens: it redeems one, or issues those that are
enabled. -/
def Clearance.refreshes (auth : Authority) : Clearance → Bool
  | .redemption (.refresh _ _) => true
  | _ => auth.refreshEnabled

namespace Authority

variable (auth : Authority) (now : Instant) (fresh : Credential.Fresh)

/-- Makes the checks of a request. -/
def clear : IssueRequest → Procedure Refusal Clearance
  | .grantor r => do
    match ← verdict (required r.responseType "response_type" >>= ResponseType.parse) with
    | .code => .code r <$> entitle .code r
    | .token => .token r <$> entitle .token r
  | .grant r => .code r <$> entitle .code r
  | .grantToken r => .token r <$> entitle .token r
  | .token r => .redemption <$> auth.prepare now r

/-- Runs the transaction of a clearance. -/
def write : Clearance → Procedure Refusal Issued
  | .code r app => .grant <$> auth.addCode now fresh r app
  | .token r app => .token <$> auth.addToken now fresh r app
  | .redemption redemption => .token <$> auth.redeem now fresh redemption

/-- What the authority answers to a request. -/
def answer : IssueRequest → Procedure Refusal Issued
  | .grantor r => auth.grantor now fresh r
  | .grant r => .grant <$> auth.grant now fresh r
  | .grantToken r => .token <$> auth.grantToken now fresh r
  | .token r => .token <$> auth.token now fresh r

/-- **An answer is a check and then a transaction.** -/
theorem answer_eq_bind (q : IssueRequest) :
    auth.answer now fresh q = auth.clear now q >>= auth.write now fresh := by
  cases q with
  | grantor r =>
    simp only [answer, grantor, clear, bind_assoc]
    refine bind_congr fun kind => ?_
    cases kind <;> simp only [grant, grantToken, write, map_eq_pure_bind, bind_assoc, pure_bind]
  | grant r => simp only [answer, grant, clear, write, map_eq_pure_bind, bind_assoc, pure_bind]
  | grantToken r =>
    simp only [answer, grantToken, clear, write, map_eq_pure_bind, bind_assoc, pure_bind]
  | token r => simp only [answer, token, clear, write, map_eq_pure_bind, bind_assoc, pure_bind]

/-! ## Checks only look

Every check is a look or a verdict, so they touch no rows in whatever order they are made. -/

theorem keeps_untouched_authenticate (operation : Operation) (uid secret : Option String) :
    Keeps .untouched (authenticate operation uid secret) := by
  unfold authenticate
  split
  · exact keeps_mapError _ (keeps_untouched_look _ _)
  · exact keeps_throw _

theorem keeps_untouched_entitle (kind : ResponseType) (r : GrantRequest) :
    Keeps .untouched (entitle kind r) := by
  refine keeps_bind (keeps_untouched_authenticate _ _ _) fun app => ?_
  refine keeps_bind (keeps_verdict _) fun asked => ?_
  split
  · exact keeps_bind (keeps_throw _) fun _ => keeps_pure _
  · exact keeps_pure _

theorem keeps_untouched_prepare (r : TokenRequest) : Keeps .untouched (auth.prepare now r) := by
  refine keeps_bind (keeps_untouched_authenticate _ _ _) fun app => ?_
  refine keeps_bind (keeps_verdict _) fun kind => ?_
  cases kind with
  | authorizationCode =>
    refine keeps_bind (keeps_mapError _ (keeps_untouched_look _ _)) fun g => ?_
    exact keeps_bind (keeps_verdict _) fun _ => keeps_pure _
  | refreshToken =>
    refine keeps_bind (keeps_mapError _ (keeps_untouched_look _ _)) fun u => ?_
    refine keeps_bind (keeps_verdict _) fun _ => ?_
    refine keeps_bind (keeps_mapError _ (keeps_untouched_look _ _)) fun t => ?_
    exact keeps_bind (keeps_verdict _) fun _ => keeps_pure _

/-- **The checks of a request touch no rows.** -/
theorem keeps_untouched_clear (q : IssueRequest) : Keeps .untouched (auth.clear now q) := by
  cases q with
  | grantor r =>
    refine keeps_bind (keeps_verdict _) fun kind => ?_
    cases kind <;> exact keeps_map _ (keeps_untouched_entitle _ _)
  | grant r => exact keeps_map _ (keeps_untouched_entitle _ _)
  | grantToken r => exact keeps_map _ (keeps_untouched_entitle _ _)
  | token r => exact keeps_map _ (auth.keeps_untouched_prepare now r)

/-! ## What transactions do to the rows

A transaction relates the rows before and after as its statements do, whatever the relation is. -/

/-- The statements that transactions are made of relate the rows before and after them so; of those
on refresh tokens it is only said where they are made. -/
structure Statements (R : Store → Store → Prop) (refresh : Bool) : Prop where
  addGrant : ∀ d, Follows R fun s => s.addGrant d
  revokeGrant : ∀ code moment, Follows R fun s => s.revokeGrant code moment
  addAccessToken : ∀ d, Follows R fun s => s.addAccessToken d
  addRefreshToken : refresh = true → ∀ d, Follows R fun s => s.addRefreshToken d
  revokeRefreshToken : refresh = true →
    ∀ text moment, Follows R fun s => s.revokeRefreshToken text moment

theorem statements_leads (refresh : Bool) : Statements Store.Leads refresh where
  addGrant _ _ _ _ h := .single (.addGrant h)
  revokeGrant _ _ _ _ _ h := .single (.revokeGrant h)
  addAccessToken _ _ _ _ h := .single (.addAccessToken h)
  addRefreshToken _ _ _ _ _ h := .single (.addRefreshToken h)
  revokeRefreshToken _ _ _ _ _ _ h := .single (.revokeRefreshToken h)

/-- Transactions leave applications alone. -/
theorem statements_of_applications {R : Store → Store → Prop}
    (hR : ∀ {s s' : Store}, s'.applications = s.applications → R s s') (refresh : Bool) :
    Statements R refresh where
  addGrant _ _ _ _ h := by
    obtain ⟨-, -, rfl⟩ := Store.addGrant_ok h
    exact hR rfl
  revokeGrant _ _ _ _ _ h := by
    obtain ⟨rows, -, rfl⟩ := Store.revokeGrant_ok h
    exact hR rfl
  addAccessToken _ _ _ _ h := by
    obtain ⟨-, -, rfl⟩ := Store.addAccessToken_ok h
    exact hR rfl
  addRefreshToken _ _ _ _ _ h := by
    obtain ⟨-, -, rfl⟩ := Store.addRefreshToken_ok h
    exact hR rfl
  revokeRefreshToken _ _ _ _ _ _ h := by
    obtain ⟨rows, -, rfl⟩ := Store.revokeRefreshToken_ok h
    exact hR rfl

section Relation

variable {R : Store → Store → Prop} {refl : ∀ s, R s s}
  {trans : ∀ {s s' s''}, R s s' → R s' s'' → R s s''}

theorem keeps_inside_look {ε α : Type} (f : StoreError → ε) (kind : Call)
    (statement : Store → Except StoreError α) :
    Keeps (.inside R refl trans) ((look kind statement).mapError f) :=
  keeps_mapError f (keeps_untouched_look kind statement).inside_of_untouched

/-- Issuing relates the rows as the statements do that add tokens. -/
theorem keeps_inside_issue (h : Statements R auth.refreshEnabled) (operation : Operation)
    (draft : AccessTokenDraft) (text : String) :
    Keeps (.inside R refl trans) (auth.issue operation draft now text) := by
  refine keeps_bind (keeps_mapError _ (keeps_inside_call (h.addAccessToken _))) fun id => ?_
  dsimp only
  split
  · rename_i henabled
    refine keeps_bind (keeps_mapError _ (keeps_inside_call (h.addRefreshToken henabled _)))
      fun refreshId => ?_
    refine keeps_bind (keeps_map _ (keeps_inside_look _ _ _)) fun refresh => ?_
    exact keeps_bind (keeps_inside_look _ _ _) fun token => keeps_pure _
  · refine keeps_bind (keeps_pure _) fun refresh => ?_
    exact keeps_bind (keeps_inside_look _ _ _) fun token => keeps_pure _

/-- The transaction for a code relates the rows as its statements do. -/
theorem keeps_inside_codeSteps (h : Statements R auth.refreshEnabled) (r : GrantRequest)
    (app : Application) : Keeps (.inside R refl trans) (auth.codeSteps now fresh r app) := by
  refine keeps_bind (keeps_mapError _ (keeps_inside_call (h.addGrant _))) fun id => ?_
  exact keeps_bind (keeps_inside_look _ _ _) fun grant => keeps_pure _

theorem keeps_inside_tokenSteps (h : Statements R auth.refreshEnabled) (r : GrantRequest)
    (app : Application) : Keeps (.inside R refl trans) (auth.tokenSteps now fresh r app) :=
  keeps_bind (auth.keeps_inside_issue now h _ _ _) fun _ => keeps_pure _

/-- The transaction of an exchange relates the rows as its statements do. -/
theorem keeps_inside_exchangeSteps (h : Statements R auth.refreshEnabled) (g : Grant) :
    Keeps (.inside R refl trans) (auth.exchangeSteps now fresh g) := by
  refine keeps_bind (keeps_mapError _ (keeps_inside_call (h.revokeGrant _ _))) fun _ => ?_
  exact keeps_bind (auth.keeps_inside_issue now h _ _ _) fun _ => keeps_pure _

/-- The transaction of a rotation relates the rows as its statements do, that of refresh tokens
among them. -/
theorem keeps_inside_rotationSteps (h : Statements R true) (used : RefreshToken)
    (old : AccessToken) : Keeps (.inside R refl trans) (auth.rotationSteps now fresh used old) := by
  refine keeps_bind (keeps_mapError _ (keeps_inside_call (h.revokeRefreshToken rfl _ _)))
    fun _ => ?_
  refine keeps_bind (keeps_mapError _ (keeps_inside_call (h.addAccessToken _))) fun id => ?_
  refine keeps_bind (keeps_mapError _ (keeps_inside_call (h.addRefreshToken rfl _)))
    fun refreshId => ?_
  refine keeps_bind (keeps_inside_look _ _ _) fun token => ?_
  exact keeps_bind (keeps_inside_look _ _ _) fun refresh => keeps_pure _

/-- **A transaction changes rows by its statements**, whether it succeeds or not. -/
theorem keeps_outside_write {c : Clearance} (h : Statements R (c.refreshes auth)) :
    Keeps (.outside R refl trans) (auth.write now fresh c) := by
  cases c with
  | code r app =>
    exact keeps_map _ (keeps_outside_transaction (auth.keeps_inside_codeSteps now fresh h r app))
  | token r app =>
    exact keeps_map _ (keeps_outside_transaction (auth.keeps_inside_tokenSteps now fresh h r app))
  | redemption redemption =>
    cases redemption with
    | code g =>
      exact keeps_map _ (keeps_outside_transaction
        (auth.keeps_inside_exchangeSteps now fresh h g))
    | refresh used old =>
      exact keeps_map _ (keeps_outside_transaction
        (auth.keeps_inside_rotationSteps now fresh h used old))

/-- A revocation relates the rows as its one statement does. -/
theorem keeps_outside_revokeToken
    (h : ∀ text moment, Follows R fun s => s.revokeAccessToken text moment) (r : RevokeRequest) :
    Keeps (.outside R refl trans) (revokeToken now r) := by
  refine keeps_bind (keeps_verdict _) fun text => ?_
  exact keeps_mapError _ (keeps_outside_call (h text now))

end Relation

/-! ## Operations are atomic

A transaction over statements is atomic, and checks before it change nothing of that. -/

theorem atomic_write (c : Clearance) : Atomic (auth.write now fresh c) := by
  have hleads := statements_leads auth.refreshEnabled
  cases c with
  | code r app =>
    exact atomic_map _ (atomic_transaction (auth.keeps_inside_codeSteps now fresh hleads r app))
  | token r app =>
    exact atomic_map _ (atomic_transaction (auth.keeps_inside_tokenSteps now fresh hleads r app))
  | redemption redemption =>
    cases redemption with
    | code g =>
      exact atomic_map _ (atomic_transaction (auth.keeps_inside_exchangeSteps now fresh hleads g))
    | refresh used old =>
      exact atomic_map _ (atomic_transaction
        (auth.keeps_inside_rotationSteps now fresh (statements_leads true) used old))

/-- **Every answer of the authority is atomic.** -/
theorem atomic_answer (q : IssueRequest) : Atomic (auth.answer now fresh q) := by
  rw [answer_eq_bind]
  exact atomic_bind (auth.keeps_untouched_clear now q) fun c => auth.atomic_write now fresh c

theorem atomic_revokeToken (r : RevokeRequest) : Atomic (revokeToken now r) := by
  refine atomic_bind (keeps_verdict _) fun text => ?_
  exact atomic_mapError _ (atomic_call fun h => .single (.revokeAccessToken h))

end Authority

end OAuthGateway

import OAuthGateway.Proofs.Admission.Bearer
import OAuthGateway.Proofs.Authority.Withdrawal
import OAuthGateway.Proofs.Gateway.Mediation

/-!
# Proofs/Gateway/DeadToken — a dead access token stays dead

An access token is `Dead` at an instant when its row is revoked or has expired.  No statement takes
a revocation back or moves an expiry, and no other row ever has the same text, so it is dead at
every later instant in every later store (`Dead.mono`), and the gateway `Shuts` out whoever presents
it.  Until then it `Opens` the routes whose scopes it has, and no others.

The authority decides which of the two it is, and the gateway only reads the row
(`dead_tokens_stay_dead`): the answers of the authority tell whether a row is revoked, and the
instant at which it expires is the same for both.
-/

namespace OAuthGateway

open Http Procedure Time

/-! ## What the check of tokens says of a row

A dead row is refused, whatever the route; a live one opens the routes whose scopes it has. -/

/-- A row that is revoked or has expired opens nothing. -/
theorem AccessToken.opens_of_dead {t : AccessToken} {now : Instant}
    (h : t.revokedAt.isSome = true ∨ t.expiresAt ≤ now) (route : Route) :
    ∃ e, t.opens route now = .error e ∧ e.status = 401 := by
  cases hrevoked : t.revokedAt with
  | some moment => exact ⟨_, opens_of_revoked (by rw [hrevoked]; rfl), rfl⟩
  | none =>
    have hexpired : t.expiresAt ≤ now := h.resolve_left (by rw [hrevoked]; exact Bool.false_ne_true)
    exact ⟨_, (opens_of_unrevoked hrevoked).trans (if_pos hexpired), rfl⟩

section Check

variable {s : Store} {faults : Faults} {n : ℕ} {now : Instant} {route : Route} {r : Request}
  {t : AccessToken}

theorem Check.run_of_token (mode : route.auth = .token) (now : Instant) (r : Request) :
    Check.bearerToken.run route now r = Check.acceptToken route now r := by
  simp only [Check.run, mode]

theorem acceptToken_answer_of_dead (hs : s.Sound)
    (named : Bearer.ofHeaders? r.head.headers = some t.token) (stored : t ∈ s.accessTokens)
    (dead : t.revokedAt.isSome = true ∨ t.expiresAt ≤ now) :
    ∃ e, ((Check.acceptToken route now r).perform faults ⟨s, none, n⟩).1 = .error e ∧
      (faults n .accessTokenByText = none → e.status = 401) := by
  rw [acceptToken_answer_of_named named]
  cases hasked : faults n .accessTokenByText with
  | some e => exact ⟨_, rfl, nofun⟩
  | none =>
    obtain ⟨e, hopens, hstatus⟩ := AccessToken.opens_of_dead dead route
    rw [Store.accessTokenOfText_eq_ok hs.accessTokens.distinct stored]
    simp only [hopens]
    exact ⟨e, rfl, fun _ => hstatus⟩

/-- A row that is neither is decided by its scopes. -/
theorem acceptToken_accepts_iff (hs : s.Sound)
    (named : Bearer.ofHeaders? r.head.headers = some t.token)
    (answered : faults n .accessTokenByText = none) (stored : t ∈ s.accessTokens)
    (unrevoked : t.revokedAt = none) (unexpired : now < t.expiresAt) :
    (∃ q, ((Check.acceptToken route now r).perform faults ⟨s, none, n⟩).1 = .ok q) ↔
      Scope.covers t.scopes (route.scope.getD "") := by
  rw [acceptToken_answer_of_named named, answered,
    Store.accessTokenOfText_eq_ok hs.accessTokens.distinct stored]
  by_cases hcovers : Scope.covers t.scopes (route.scope.getD "")
  · have hopens : t.opens route now = .ok () :=
      AccessToken.Opens.opens ⟨unrevoked, unexpired, hcovers⟩
    simp only [hopens]
    exact ⟨fun _ => hcovers, fun _ => ⟨_, rfl⟩⟩
  · have hmissing : ∃ w ∈ Scope.words (route.scope.getD ""), w ∉ Scope.words t.scopes := by
      rw [Scope.covers] at hcovers
      push Not at hcovers
      exact hcovers
    simp only [AccessToken.opens_of_missing unrevoked unexpired hmissing]
    refine ⟨?_, fun h => absurd h hcovers⟩
    rintro ⟨q, hq⟩
    cases hq

end Check

/-! ## What a store says of a text -/

namespace Store

/-- The access token of the text is revoked, or has expired at the instant. -/
def Dead (s : Store) (text : String) (now : Instant) : Prop :=
  ∃ t ∈ s.accessTokens, t.token = text ∧ (t.revokedAt.isSome = true ∨ t.expiresAt ≤ now)

/-- Whoever presents the text is shut out of the routes that ask for a token. -/
structure Shuts (s : Store) (text : String) (now : Instant) : Prop where
  /-- The check of tokens rejects it, and with 401 if the store answers. -/
  rejected : ∀ (route : Route) (r : Request) (faults : Faults), route.auth = .token →
    Bearer.ofHeaders? r.head.headers = some text →
    ∃ e, ((Check.bearerToken.run route now r).perform faults (.ofStore s)).1 = .error e ∧
      (faults 0 .accessTokenByText = none → e.status = 401)
  /-- Whatever stands in the rest of the request and whatever fails, it never reaches the network.
  -/
  unforwarded : ∀ (g : Gateway) (route : Route) (r : Incoming) (faults : Faults),
    g.routes.find r.head.method r.head.target.path = some route → route.auth = .token →
    Bearer.ofHeaders? r.head.headers = some text →
    ∃ p, ∀ network, ((g.proxy network now r).perform faults (.ofStore s)).1 = .error p

/-- Whoever presents the text gets past the check of the routes whose scopes are among the given
ones, if the store answers, and of no other that asks for a token. -/
def Opens (s : Store) (text scopes : String) (now : Instant) : Prop :=
  ∀ (route : Route) (r : Request) (faults : Faults), route.auth = .token →
    r.head.headers.first? Bearer.headerName = some ("Bearer " ++ text) →
    faults 0 .accessTokenByText = none →
    ((∃ q, ((Check.bearerToken.run route now r).perform faults (.ofStore s)).1 = .ok q) ↔
      Scope.covers scopes (route.scope.getD ""))

variable {s s' : Store} {text : String} {tick now : Instant}

/-- **What is dead stays dead**, whatever is done and however late it gets. -/
theorem Dead.mono (h : s.Dead text tick) (hleads : s.Leads s') (hclock : tick ≤ now) :
    s'.Dead text now := by
  obtain ⟨t, ht, htext, hdead⟩ := h
  obtain ⟨t', ht', hkept⟩ := hleads.grows.accessTokens.exists_kept ht
  refine ⟨t', ht', hkept.key_eq.trans htext, hdead.imp (fun hrevoked => ?_) fun hexpired => ?_⟩
  · obtain ⟨moment, hmoment⟩ := Option.isSome_iff_exists.1 hrevoked
    have hmoment' : t'.revokedAt = some moment := hkept.revokedAt hmoment
    rw [hmoment']
    rfl
  · have hexpiry : t'.expiresAt = t.expiresAt := hkept.congr AccessToken.expiresAt
    rw [hexpiry]
    exact Int.le_trans hexpired hclock

/-- **What is dead is shut out.** -/
theorem Dead.shuts (h : s.Dead text now) (hs : s.Sound) : s.Shuts text now := by
  obtain ⟨t, ht, rfl, hdead⟩ := h
  refine ⟨fun route r faults mode named => ?_, fun g route r faults found mode named => ?_⟩
  · rw [Check.run_of_token mode]
    exact acceptToken_answer_of_dead hs named ht hdead
  · obtain ⟨p, hp⟩ : ∃ p, ((g.dispatch now r).perform faults ⟨s, none, 0⟩).1 = .error p := by
      refine Gateway.dispatch_of_rejected found fun body _ => ?_
      rw [screen_of_token mode]
      have named : Bearer.ofHeaders? (Request.withoutIdentity ⟨r.head, body⟩).head.headers =
          some t.token := ofHeaders?_withoutIdentity.trans named
      obtain ⟨e, he, -⟩ := acceptToken_answer_of_dead hs named ht hdead
      exact ⟨e, he⟩
    exact ⟨p, fun network => Gateway.proxy_of_dispatch_error hp network⟩

/-- **What is alive opens what its scopes cover.** -/
theorem opens_of_mem {t : AccessToken} (hs : s.Sound) (ht : t ∈ s.accessTokens)
    (hgraphic : Text.Graphic t.token) (hunrevoked : t.revokedAt = none)
    (hunexpired : now < t.expiresAt) : s.Opens t.token t.scopes now := by
  intro route r faults mode presented answered
  rw [Check.run_of_token mode]
  exact acceptToken_accepts_iff hs (Bearer.ofHeaders?_of_graphic hgraphic presented) answered ht
    hunrevoked hunexpired

end Store

/-! ## Runs

Death is kept by every move, so a token that was dead once is never let in again. -/

namespace Traffic

/-- **A dead access token stays dead at the gateway.**  Once its revocation has been answered, or a
clock that does not go back has come to its expiry, whoever presents it is shut out for good,
whatever is asked for later and whatever fails.  Until then an access token that was answered opens
exactly the routes whose scopes it has; its text is drawn, so that it can be presented. -/
theorem dead_tokens_stay_dead (auth : Authority) (moves later : List Move) :
    (∀ text tick, (.revoke ⟨some text⟩ (.ok ()) ∈ (after auth moves).log ∨
        ∃ t ∈ (after auth moves).store.accessTokens, t.token = text ∧ t.expiresAt ≤ tick) →
      ∀ now, tick ≤ now → (after auth (moves ++ later)).store.Shuts text now) ∧
    (∀ q v, .issue q (.ok (.token v)) ∈ (after auth moves).log → (∀ move ∈ moves, move.Draws) →
      .revoke ⟨some v.token⟩ (.ok ()) ∉ (after auth moves).log → ∀ now, now < v.expiresAt →
        (after auth moves).store.Opens v.token v.scopes now) := by
  refine ⟨fun text tick hover now hclock => ?_, fun q v hv hdraws hrevoked now hnow => ?_⟩
  · have hdead : (after auth moves).store.Dead text tick := by
      rcases hover with hrevoked | ⟨t, ht, htext, hexpired⟩
      · obtain ⟨t, ht, htext, hrevoked⟩ := exists_revoked hrevoked
        exact ⟨t, ht, htext, .inl hrevoked⟩
      · exact ⟨t, ht, htext, .inr hexpired⟩
    have hlater := hdead.mono (leads_after auth moves later) hclock
    exact hlater.shuts (sound_after auth (moves ++ later)).store
  · obtain ⟨bytes, hlength, htoken⟩ := exists_bytes_of_logged hdraws hv
    have hgraphic : Text.Graphic v.token := htoken ▸ (Credential.base64url_ofBytes hlength).graphic
    have hrow := exists_unrevoked hv hrevoked
    exact Store.opens_of_mem (sound_after auth moves).store hrow hgraphic rfl hnow

end Traffic

/-! ## A token for the guarded part of the site -/

namespace Site

/-- The text of the token: 32 bytes, all of them zero. -/
def drawn : String := Credential.ofBytes (List.replicate Credential.byteCount 0)

def fresh : Credential.Fresh := ⟨"uid", "secret", "code", drawn, "refresh", ""⟩

def form : ApplicationForm := ⟨none, some "confidential", none, some "admin"⟩

def request : GrantRequest :=
  ⟨some "token", some "owner", some "uid", some "secret", some "uri", some "admin"⟩

/-- A token is issued. -/
def issue : List Move :=
  [.administer (.create form) .epoch fresh .none, .clear (.grantor request) .epoch .none,
    .write 0 fresh .none]

/-- The token is revoked. -/
def withdrawal : List Move := [.revoke ⟨some drawn⟩ .epoch .none]

/-- The token is presented. -/
def visitor : Request :=
  ⟨⟨"GET", ⟨"/admin/users", none⟩, [⟨"authorization", "Bearer " ++ drawn⟩]⟩, .empty⟩

end Site

namespace Traffic

/-- The token opens the guarded part until it is revoked, or expires. -/
theorem dead_tokens_stay_dead_site :
    (∃ q, ((Check.bearerToken.run Site.admin .epoch Site.visitor).perform .none
      (.ofStore (after Site.gateway.authority Site.issue).store)).1 = .ok q) ∧
    (∃ e, ((Check.bearerToken.run Site.admin .epoch Site.visitor).perform .none
      (.ofStore (after Site.gateway.authority (Site.issue ++ Site.withdrawal)).store)).1 =
        .error e ∧ e.status = 401) ∧
    (∃ e, ((Check.bearerToken.run Site.admin .last Site.visitor).perform .none
      (.ofStore (after Site.gateway.authority Site.issue).store)).1 = .error e ∧
        e.status = 401) := by
  have hissued : ∃ v, .issue (.grantor Site.request) (.ok (.token v)) ∈
      (after Site.gateway.authority Site.issue).log ∧ v.token = Site.drawn ∧ v.scopes = "admin" ∧
        Instant.epoch < v.expiresAt := ⟨_, List.mem_cons_self, rfl, rfl, by decide +kernel⟩
  have hrevoked : .revoke ⟨some Site.drawn⟩ (.ok ()) ∈
      (after Site.gateway.authority (Site.issue ++ Site.withdrawal)).log := List.mem_cons_self
  have hexpired : ∃ t ∈ (after Site.gateway.authority Site.issue).store.accessTokens,
      t.token = Site.drawn ∧ t.expiresAt ≤ .last := by decide +kernel
  have hdraws : ∀ move ∈ Site.issue, move.Draws := by
    have hbytes : (List.replicate Credential.byteCount 0 : List UInt8).length =
        Credential.byteCount := List.length_replicate
    simp only [Site.issue, List.forall_mem_cons, Move.Draws, true_and]
    exact ⟨⟨_, hbytes, rfl⟩, fun _ h => absurd h List.not_mem_nil⟩
  have hnamed : Bearer.ofHeaders? Site.visitor.head.headers = some Site.drawn := by decide +kernel
  obtain ⟨v, hv, htoken, hscopes, hlive⟩ := hissued
  have hnone : .revoke ⟨some v.token⟩ (.ok ()) ∉ (after Site.gateway.authority Site.issue).log := by
    have hcount : (after Site.gateway.authority Site.issue).log.countP
        (Event.revokes Site.drawn) = 0 := by decide +kernel
    rw [htoken]
    exact fun hlogged => List.countP_eq_zero.1 hcount _ hlogged (beq_self_eq_true _)
  obtain ⟨hdead, halive⟩ := dead_tokens_stay_dead Site.gateway.authority Site.issue []
  have hopens := halive _ v hv hdraws hnone .epoch hlive
  rw [htoken, hscopes] at hopens
  refine ⟨(hopens Site.admin Site.visitor .none rfl (by decide +kernel) rfl).2 fun w hw => hw,
    ?_, ?_⟩
  · have hshuts := (dead_tokens_stay_dead Site.gateway.authority (Site.issue ++ Site.withdrawal)
      []).1 Site.drawn .epoch (.inl hrevoked) .epoch (by decide)
    rw [List.append_nil] at hshuts
    obtain ⟨e, he, hstatus⟩ := hshuts.rejected Site.admin Site.visitor .none rfl hnamed
    exact ⟨e, he, hstatus rfl⟩
  · have hshuts := hdead Site.drawn .last (.inr hexpired) .last (by decide)
    rw [List.append_nil] at hshuts
    obtain ⟨e, he, hstatus⟩ := hshuts.rejected Site.admin Site.visitor .none rfl hnamed
    exact ⟨e, he, hstatus rfl⟩

end Traffic

end OAuthGateway

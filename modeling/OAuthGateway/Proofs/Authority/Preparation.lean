import OAuthGateway.Proofs.Authority.Clearance

/-!
# Proofs/Authority/Preparation — what a redemption has passed before its transaction

`Prepared` lists the checks of a redemption in the order in which they are made: the client
resolves, the request is valid, the credential is found and redeemable, and behind a refresh token
stands an access token of the client.  `prepare_ok` reads them off a check that passed, and
`Prepared.perform` runs them again; where the lookups succeed, a credential that is not redeemable
is refused as its rule says (`perform_prepareExchange`, `perform_prepareRotation`).  A grant request
that has passed is `Entitled`: its client resolves, and it is valid for that application.
-/

namespace OAuthGateway

open Time Procedure

/-- The credentials of the request are those of an application that is not revoked. -/
def TokenRequest.Resolves (r : TokenRequest) (s : Store) (app : Application) : Prop :=
  ∃ uid secret, r.clientUid = some uid ∧ r.clientSecret = some secret ∧
    s.client uid secret = .ok app

/-- The request may have what it asks for on a store: its credentials are those of an application
that is not revoked, and its checks pass with that application. -/
structure GrantRequest.Entitled (r : GrantRequest) (kind : ResponseType) (s : Store)
    (app : Application) : Prop where
  resolves : ∃ uid secret, r.clientUid = some uid ∧ r.clientSecret = some secret ∧
    s.client uid secret = .ok app
  valid : r.validate app = .ok kind

/-- The application is one of those that are registered. -/
theorem GrantRequest.Entitled.mem_applications {r : GrantRequest} {kind : ResponseType} {s : Store}
    {app : Application} (h : r.Entitled kind s app) (hs : s.Sound) : app ∈ s.applications := by
  obtain ⟨uid, secret, -, -, hfound⟩ := h.resolves
  exact ((Store.client_eq_ok_iff hs).1 hfound).1

theorem bind_discard_ok {ε α β : Type} {x : Except ε α} {y : Except ε β} {b : β}
    (h : (do discard x; y) = .ok b) : (∃ a, x = .ok a) ∧ y = .ok b := by
  cases x with
  | error e => cases h
  | ok a => exact ⟨⟨a, rfl⟩, h⟩

/-- A grant request that is valid names a resource owner and asks for no scope that its application
does not have; for a token it is of a confidential client. -/
theorem GrantRequest.validate_ok {r : GrantRequest} {app : Application} {kind : ResponseType}
    (h : r.validate app = .ok kind) :
    (∃ owner, r.resourceOwnerId = some owner) ∧
      Scope.covers app.scopes (r.scopes.getD "") ∧
      (kind = .token → app.ownerType = .confidentialClient) := by
  obtain ⟨kind', -, h⟩ := exists_of_bind_eq_ok h
  obtain ⟨⟨owner, howner⟩, h⟩ := bind_discard_ok h
  obtain ⟨-, h⟩ := bind_discard_ok h
  dsimp only at h
  split at h <;> rename_i hpublic
  · cases h
  · split at h <;> rename_i hmissing
    · cases h
      refine ⟨⟨owner, (required_eq_ok_iff.1 howner).1⟩, Scope.missing_eq_nil_iff.1 hmissing, ?_⟩
      intro hkind
      by_contra hother
      exact hpublic ⟨hkind, hother⟩
    · cases h

/-- A request that redeems a code names one. -/
theorem validate_authorizationCode {r : TokenRequest} {enabled : Bool}
    (h : r.validate enabled = .ok .authorizationCode) :
    r.grantType = some "authorization_code" ∧ ∃ code, r.code = some code := by
  obtain ⟨name, hname, h⟩ := exists_of_bind_eq_ok h
  split at h <;> rename_i hname'
  · obtain ⟨⟨code, hcode⟩, -⟩ := bind_discard_ok h
    exact ⟨hname' ▸ (required_eq_ok_iff.1 hname).1, code, (required_eq_ok_iff.1 hcode).1⟩
  · split at h
    · obtain ⟨-, h⟩ := bind_discard_ok h
      cases h
    · cases h

/-- A request that redeems a refresh token names one, and refresh tokens are enabled. -/
theorem validate_refreshToken {r : TokenRequest} {enabled : Bool}
    (h : r.validate enabled = .ok .refreshToken) :
    r.grantType = some "refresh_token" ∧ enabled = true ∧
      ∃ text, r.refreshToken = some text := by
  obtain ⟨name, hname, h⟩ := exists_of_bind_eq_ok h
  split at h
  · obtain ⟨-, h⟩ := bind_discard_ok h
    obtain ⟨-, h⟩ := bind_discard_ok h
    cases h
  · split at h <;> rename_i hname'
    · obtain ⟨⟨text, htext⟩, -⟩ := bind_discard_ok h
      exact ⟨hname'.1 ▸ (required_eq_ok_iff.1 hname).1, hname'.2, text,
        (required_eq_ok_iff.1 htext).1⟩
    · cases h

/-- A code that may be redeemed is of the application, and unused. -/
theorem Grant.redeemable_ok {g : Grant} {r : TokenRequest} {app : Application} {now : Instant}
    (h : g.redeemable r app now = .ok ()) : g.applicationId = app.id ∧ g.revokedAt = none := by
  rw [redeemable] at h
  split at h
  · cases h
  rename_i howned
  split at h
  · cases h
  rename_i hunused
  exact ⟨not_not.1 howned, Option.not_isSome_iff_eq_none.1 hunused⟩

/-- A refresh token that may be redeemed is unused. -/
theorem RefreshToken.redeemable_ok {u : RefreshToken} {now : Instant}
    (h : u.redeemable now = .ok ()) : u.revokedAt = none := by
  rw [redeemable] at h
  split at h
  · cases h
  rename_i hunused
  exact Option.not_isSome_iff_eq_none.1 hunused

theorem AccessToken.ownedBy_ok {t : AccessToken} {app : Application}
    (h : t.ownedBy app = .ok ()) : t.applicationId = app.id := by
  rw [ownedBy] at h
  split at h
  · cases h
  rename_i howned
  exact not_not.1 howned

namespace Authority

/-- The checks that a redemption has passed on a store, from call `n` to call `m`. -/
inductive Prepared (auth : Authority) (faults : Faults) (now : Instant) (r : TokenRequest)
    (s : Store) (n : ℕ) : Redemption → ℕ → Prop
  | code {app : Application} {code : String} {g : Grant}
      (client : r.Resolves s app) (asked : faults n .applicationByCredentials = none)
      (valid : r.validate auth.refreshEnabled = .ok .authorizationCode)
      (named : r.code = some code) (found : s.grantOfCode code = .ok g)
      (looked : faults (n + 1) .grantByCode = none)
      (redeemable : g.redeemable r app now = .ok ()) :
      Prepared auth faults now r s n (.code g) (n + 2)
  | refresh {app : Application} {text : String} {used : RefreshToken} {old : AccessToken}
      (client : r.Resolves s app) (asked : faults n .applicationByCredentials = none)
      (valid : r.validate auth.refreshEnabled = .ok .refreshToken)
      (named : r.refreshToken = some text) (found : s.refreshTokenOfText text = .ok used)
      (looked : faults (n + 1) .refreshTokenByText = none)
      (redeemable : used.redeemable now = .ok ())
      (behind : s.accessToken used.accessTokenId = .ok old)
      (looked' : faults (n + 2) .accessTokenById = none) (owned : old.ownedBy app = .ok ()) :
      Prepared auth faults now r s n (.refresh used old) (n + 3)

variable {auth : Authority} {faults : Faults} {now : Instant} {r : TokenRequest} {s : Store}
  {n : ℕ} {db : Database}

theorem authenticate_ok {operation : Operation} {uid secret : Option String} {app : Application}
    (h : (authenticate operation uid secret).perform faults ⟨s, none, n⟩ = (.ok app, db)) :
    (∃ u k, uid = some u ∧ secret = some k ∧ s.client u k = .ok app) ∧
      faults n .applicationByCredentials = none ∧ db = ⟨s, none, n + 1⟩ := by
  unfold authenticate at h
  split at h
  · obtain ⟨hasked, hclient, rfl⟩ := look_ok (mapError_ok h)
    exact ⟨⟨_, _, rfl, rfl, hclient⟩, hasked, rfl⟩
  · cases h

/-- **What was prepared has passed every check.** -/
theorem prepare_ok {redemption : Redemption}
    (h : (auth.prepare now r).perform faults ⟨s, none, n⟩ = (.ok redemption, db)) :
    ∃ m, Prepared auth faults now r s n redemption m ∧ db = ⟨s, none, m⟩ := by
  obtain ⟨app, _, hauth, h⟩ := bind_ok h
  obtain ⟨hclient, hasked, rfl⟩ := authenticate_ok hauth
  obtain ⟨kind, _, hverdict, h⟩ := bind_ok h
  obtain ⟨hvalid, rfl⟩ := Prod.mk.inj hverdict
  cases kind with
  | authorizationCode =>
    obtain ⟨-, code, hcode⟩ := validate_authorizationCode hvalid
    obtain ⟨g, _, hlook, h⟩ := bind_ok h
    obtain ⟨hlooked, hfound, rfl⟩ := look_ok (mapError_ok hlook)
    obtain ⟨_, _, hverdict, h⟩ := bind_ok h
    obtain ⟨hredeemable, rfl⟩ := Prod.mk.inj hverdict
    cases h
    rw [hcode] at hfound
    exact ⟨_, .code hclient hasked hvalid hcode hfound hlooked hredeemable, rfl⟩
  | refreshToken =>
    obtain ⟨-, -, text, htext⟩ := validate_refreshToken hvalid
    obtain ⟨used, _, hlook, h⟩ := bind_ok h
    obtain ⟨hlooked, hfound, rfl⟩ := look_ok (mapError_ok hlook)
    obtain ⟨_, _, hverdict, h⟩ := bind_ok h
    obtain ⟨hredeemable, rfl⟩ := Prod.mk.inj hverdict
    obtain ⟨old, _, hlook, h⟩ := bind_ok h
    obtain ⟨hlooked', hbehind, rfl⟩ := look_ok (mapError_ok hlook)
    obtain ⟨_, _, hverdict, h⟩ := bind_ok h
    obtain ⟨howned, rfl⟩ := Prod.mk.inj hverdict
    cases h
    rw [htext] at hfound
    exact ⟨_, .refresh hclient hasked hvalid htext hfound hlooked hredeemable hbehind hlooked'
      howned, rfl⟩

/-! ## Running the checks -/

theorem perform_authenticate {operation : Operation} {app : Application}
    (hclient : r.Resolves s app) (hasked : faults n .applicationByCredentials = none) :
    (authenticate operation r.clientUid r.clientSecret).perform faults ⟨s, none, n⟩ =
      (.ok app, ⟨s, none, n + 1⟩) := by
  obtain ⟨uid, secret, huid, hsecret, hfound⟩ := hclient
  rw [huid, hsecret]
  exact perform_lookup hasked hfound

theorem perform_prepare {app : Application} {kind : GrantType} (hclient : r.Resolves s app)
    (hasked : faults n .applicationByCredentials = none)
    (hvalid : r.validate auth.refreshEnabled = .ok kind) :
    (auth.prepare now r).perform faults ⟨s, none, n⟩ =
      (match kind with
        | .authorizationCode => prepareExchange now r app
        | .refreshToken => prepareRotation now r app).perform faults ⟨s, none, n + 1⟩ := by
  rw [prepare, perform_bind, perform_authenticate hclient hasked]
  cases kind <;> simp only [perform_bind, perform_verdict, hvalid]

theorem perform_prepareExchange {app : Application} {code : String} {g : Grant}
    (hnamed : r.code = some code) (hfound : s.grantOfCode code = .ok g)
    (hlooked : faults n .grantByCode = none) :
    (prepareExchange now r app).perform faults ⟨s, none, n⟩ =
      ((g.redeemable r app now).map fun _ => .code g, ⟨s, none, n + 1⟩) := by
  rw [prepareExchange, hnamed, perform_bind, Database.grantOfCode, Option.getD_some,
    perform_lookup hlooked hfound]
  simp only [perform_bind, perform_verdict]
  cases g.redeemable r app now <;> rfl

theorem perform_prepareRotation {app : Application} {text : String} {used : RefreshToken}
    {old : AccessToken} (hnamed : r.refreshToken = some text)
    (hfound : s.refreshTokenOfText text = .ok used) (hlooked : faults n .refreshTokenByText = none)
    (hbehind : s.accessToken used.accessTokenId = .ok old)
    (hlooked' : faults (n + 1) .accessTokenById = none) :
    (prepareRotation now r app).perform faults ⟨s, none, n⟩ =
      match used.redeemable now with
      | .error e => (.error e, ⟨s, none, n + 1⟩)
      | .ok _ => ((old.ownedBy app).map fun _ => .refresh used old, ⟨s, none, n + 2⟩) := by
  have hlook : ((Database.accessToken used.accessTokenId).mapError
      (Refusal.ofLookup .rotation .accessToken)).perform faults ⟨s, none, n + 1⟩ =
        (.ok old, ⟨s, none, n + 2⟩) := perform_lookup hlooked' hbehind
  rw [prepareRotation, hnamed, perform_bind, Database.refreshTokenOfText, Option.getD_some,
    perform_lookup hlooked hfound]
  simp only [perform_bind, perform_verdict]
  cases used.redeemable now with
  | error e => rfl
  | ok _ =>
    simp only [hlook]
    cases old.ownedBy app <;> rfl

/-- **Checks that have passed pass again.** -/
theorem Prepared.perform {redemption : Redemption} {m : ℕ}
    (h : Prepared auth faults now r s n redemption m) :
    (auth.prepare now r).perform faults ⟨s, none, n⟩ = (.ok redemption, ⟨s, none, m⟩) := by
  cases h with
  | code client asked valid named found looked redeemable =>
    rw [perform_prepare client asked valid]
    exact (perform_prepareExchange named found looked).trans (by rw [redeemable]; rfl)
  | refresh client asked valid named found looked redeemable behind looked' owned =>
    rw [perform_prepare client asked valid]
    exact (perform_prepareRotation named found looked behind looked').trans
      (by rw [redeemable, owned]; rfl)

/-! ## Any request -/

/-- What the checks of a request have found, if they passed. -/
inductive Passed (auth : Authority) (faults : Faults) (now : Instant) (s : Store) (n : ℕ) :
    IssueRequest → Clearance → Prop
  | grantorCode {r : GrantRequest} {app : Application} (entitled : r.Entitled .code s app) :
      Passed auth faults now s n (.grantor r) (.code r app)
  | grantorToken {r : GrantRequest} {app : Application} (entitled : r.Entitled .token s app) :
      Passed auth faults now s n (.grantor r) (.token r app)
  | grant {r : GrantRequest} {app : Application} (entitled : r.Entitled .code s app) :
      Passed auth faults now s n (.grant r) (.code r app)
  | grantToken {r : GrantRequest} {app : Application} (entitled : r.Entitled .token s app) :
      Passed auth faults now s n (.grantToken r) (.token r app)
  | token {r : TokenRequest} {redemption : Redemption} {m : ℕ}
      (prepared : Prepared auth faults now r s n redemption m) :
      Passed auth faults now s n (.token r) (.redemption redemption)

theorem entitle_ok {kind : ResponseType} {r : GrantRequest} {app : Application}
    (h : (entitle kind r).perform faults ⟨s, none, n⟩ = (.ok app, db)) :
    r.Entitled kind s app := by
  obtain ⟨app', _, hauth, h⟩ := bind_ok h
  obtain ⟨hresolves, -, rfl⟩ := authenticate_ok hauth
  obtain ⟨kind', _, hverdict, h⟩ := bind_ok h
  obtain ⟨hvalid, rfl⟩ := Prod.mk.inj hverdict
  split at h <;> rename_i hkind
  · cases h
  · cases h
    exact ⟨hresolves, not_not.1 hkind ▸ hvalid⟩

theorem clear_ok {q : IssueRequest} {c : Clearance}
    (h : (auth.clear now q).perform faults ⟨s, none, n⟩ = (.ok c, db)) :
    Passed auth faults now s n q c := by
  cases q with
  | grantor r =>
    obtain ⟨kind, _, hverdict, h⟩ := bind_ok h
    obtain ⟨-, rfl⟩ := Prod.mk.inj hverdict
    cases kind <;> obtain ⟨app, hentitle, rfl⟩ := map_ok h
    · exact .grantorCode (entitle_ok hentitle)
    · exact .grantorToken (entitle_ok hentitle)
  | grant r =>
    obtain ⟨app, hentitle, rfl⟩ := map_ok h
    exact .grant (entitle_ok hentitle)
  | grantToken r =>
    obtain ⟨app, hentitle, rfl⟩ := map_ok h
    exact .grantToken (entitle_ok hentitle)
  | token r =>
    obtain ⟨redemption, hprepare, rfl⟩ := map_ok h
    obtain ⟨m, hprepared, -⟩ := prepare_ok hprepare
    exact .token hprepared

end Authority

end OAuthGateway

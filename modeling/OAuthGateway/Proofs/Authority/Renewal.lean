import OAuthGateway.Proofs.Authority.Move
import OAuthGateway.Proofs.Authority.Redemption

/-!
# Proofs/Authority/Renewal — the rotation of a refresh token, end to end

Whether a refresh token is rotated is settled by seven conditions (`rotationConditions`), in the
order in which they are checked: two on the client, one on the request, three on the one row that
the request names, and the last on the access token behind it.  Of that one only the owner is asked:
it may have expired, or be revoked.  `token_rotation` says what the answer and the rows are, where
no call fails and refresh tokens are enabled.

That there is an access token behind a refresh token is no condition: every history binds each
refresh token to one (`Leads.bound`), so looking it up cannot fail.
-/

namespace OAuthGateway

open Time Procedure Checklist

namespace Store

/-- The refresh token is bound to the access token. -/
def Behind (s : Store) (u : RefreshToken) (old : AccessToken) : Prop :=
  old ∈ s.accessTokens ∧ old.id = u.accessTokenId

/-- Behind a refresh token stands one access token. -/
theorem Behind.unique {s : Store} {u : RefreshToken} {old old' : AccessToken} (h : s.Behind u old)
    (hs : s.Sound) (h' : s.Behind u old') : old' = old :=
  hs.accessTokens.eq_of_id_eq h'.1 h.1 (h'.2.trans h.2.symm)

end Store

namespace TokenRequest

variable (r : TokenRequest) (s : Store) (now : Instant)

/-- The refresh token of the request is that of the row. -/
def NamesRefreshToken (u : RefreshToken) : Prop :=
  u ∈ s.refreshTokens ∧ r.refreshToken = some u.token

/-- What is asked of the row that a refresh token names. -/
def refreshTokenConditions : List Condition :=
  [⟨∃ u, r.NamesRefreshToken s u ∧ u.revokedAt = none, .forbidden "refresh token already used"⟩,
    ⟨∃ u, r.NamesRefreshToken s u ∧ now < u.expiresAt, .forbidden "refresh token expired"⟩]

/-- What the rotation of a refresh token depends on, in the order in which it is checked. -/
def rotationConditions : List Condition :=
  r.clientConditions s ++
    ([⟨Given r.refreshToken, .validation "refresh_token is required"⟩,
      ⟨∃ u, r.NamesRefreshToken s u, .notFound "refresh token"⟩] ++
    (r.refreshTokenConditions s now ++
    [⟨∃ u, r.NamesRefreshToken s u ∧ ∃ old, s.Behind u old ∧ ∃ app, r.Authenticates s app ∧
        old.applicationId = app.id,
      .forbidden "refresh token was issued to another application"⟩]))

/-- The client rotates the refresh token: all conditions hold. -/
structure Rotates (app : Application) (u : RefreshToken) (old : AccessToken) : Prop where
  client : r.Authenticates s app
  refreshToken : Given r.refreshToken
  named : r.NamesRefreshToken s u
  unused : u.revokedAt = none
  unexpired : now < u.expiresAt
  behind : s.Behind u old
  owned : old.applicationId = app.id

variable {r s now} {app app' : Application} {u u' : RefreshToken} {old old' : AccessToken}

/-- A refresh token names one row. -/
theorem NamesRefreshToken.unique (h : r.NamesRefreshToken s u) (hs : s.Sound)
    (h' : r.NamesRefreshToken s u') : u' = u :=
  hs.refreshTokens.eq_of_key_eq h'.1 h.1 (Option.some.inj (h'.2.symm.trans h.2))

theorem Rotates.passes (h : r.Rotates s now app u old) : Passes (r.rotationConditions s now) := by
  refine passes_append.2 ⟨h.client.passes, passes_append.2 ⟨?_, passes_append.2 ?_⟩⟩
  · simp only [passes_cons]
    exact ⟨h.refreshToken, ⟨u, h.named⟩, passes_nil⟩
  · simp only [refreshTokenConditions, passes_cons]
    exact ⟨⟨⟨u, h.named, h.unused⟩, ⟨u, h.named, h.unexpired⟩, passes_nil⟩,
      ⟨u, h.named, old, h.behind, app, h.client, h.owned⟩, passes_nil⟩

/-- A client rotates one refresh token, and there is one access token behind it. -/
theorem Rotates.behind_unique (h : r.Rotates s now app u old) (hs : s.Sound)
    (h' : r.Rotates s now app' u' old') : old' = old :=
  h.behind.unique hs (h.named.unique hs h'.named ▸ h'.behind)

/-! ## The checks -/

theorem decides_validate_rotation (hkind : r.grantType = some "refresh_token") :
    Decides [⟨Given r.refreshToken, .validation "refresh_token is required"⟩]
      (fun kind => kind = .refreshToken ∧ Given r.refreshToken) (r.validate true) := by
  have hname : required r.grantType "grant_type" = .ok "refresh_token" :=
    required_eq_ok_iff.2 ⟨hkind, by decide⟩
  rw [validate, hname]
  change Decides _ _ (do
    discard (required r.refreshToken "refresh_token")
    return GrantType.refreshToken)
  refine decides_bind (l := [_]) (decides_discard (decides_required r.refreshToken "refresh_token"))
    fun _ hgiven => ?_
  exact decides_pure ⟨rfl, hgiven⟩

theorem decides_redeemable_refreshToken (hs : s.Sound) (hu : r.NamesRefreshToken s u) :
    Decides (r.refreshTokenConditions s now) (fun _ => u.revokedAt = none ∧ now < u.expiresAt)
      (u.redeemable now) := by
  have hsame : ∀ {P : RefreshToken → Prop}, (∃ u, r.NamesRefreshToken s u ∧ P u) ↔ P u :=
    exists_and_iff_of_unique hu fun _ => hu.unique hs
  refine decides_unless ?_ fun hunused => decides_unless ?_ fun hunexpired => decides_pure ?_
  · rw [hsame]
    exact Option.isSome_iff_ne_none
  · rw [hsame, Expiring.isExpired, decide_eq_true_eq, ← Instant.not_le, not_not]
    rfl
  · rw [hsame] at hunused hunexpired
    exact ⟨hunused, hunexpired⟩

theorem decides_ownedBy (hs : s.Sound) (happ : r.Authenticates s app)
    (hu : r.NamesRefreshToken s u) (hold : s.Behind u old) :
    Decides [⟨∃ u, r.NamesRefreshToken s u ∧ ∃ old, s.Behind u old ∧ ∃ app, r.Authenticates s app ∧
        old.applicationId = app.id,
      .forbidden "refresh token was issued to another application"⟩]
      (fun _ => old.applicationId = app.id) (old.ownedBy app) := by
  have hsame : (∃ u, r.NamesRefreshToken s u ∧ ∃ old, s.Behind u old ∧ ∃ app,
      r.Authenticates s app ∧ old.applicationId = app.id) ↔ old.applicationId = app.id := by
    rw [exists_and_iff_of_unique hu fun _ => hu.unique hs,
      exists_and_iff_of_unique hold fun _ => hold.unique hs,
      exists_and_iff_of_unique happ fun _ => happ.unique hs]
  refine decides_unless ?_ fun howned => decides_pure (hsame.1 howned)
  rw [hsame]

end TokenRequest

namespace Authority

variable {fresh : Credential.Fresh} {r : TokenRequest} {s : Store}

/-- **The checks of a rotation screen the rows** by the conditions of a rotation. -/
theorem screens_prepare_rotation (auth : Authority) (now : Instant) (hs : s.Sound)
    (hbound : s.Bound) (henabled : auth.refreshEnabled = true)
    (hkind : r.grantType = some "refresh_token") :
    Screens s (r.rotationConditions s now)
      (fun x => ∃ i : Application × RefreshToken × AccessToken, x = .refresh i.2.1 i.2.2 ∧
        r.Rotates s now i.1 i.2.1 i.2.2)
      (auth.prepare now r) := by
  refine screens_bind (screens_authenticate hs .token r) fun app happ => ?_
  rw [henabled]
  refine screens_bind (l := [_]) (screens_verdict (TokenRequest.decides_validate_rotation hkind)) ?_
  rintro kind ⟨rfl, ⟨text, htext, hne⟩⟩
  refine screens_bind (l := [_]) (screens_lookup (Q := r.NamesRefreshToken s) (fun u => ?_)
    fun _ => Table.eq_notFound_of_found) fun u hu => ?_
  · rw [htext, Option.getD_some, Store.refreshTokenOfText_eq_ok_iff hs,
      TokenRequest.NamesRefreshToken, htext, Option.some.injEq, eq_comm]
  · refine screens_bind (screens_verdict (TokenRequest.decides_redeemable_refreshToken hs hu))
      fun _ ⟨hunused, hunexpired⟩ => ?_
    -- the lookup of the access token has no condition in the list: it cannot fail
    obtain ⟨old, hold⟩ : ∃ old, s.Behind u old := hbound.exists_accessToken hu.1
    refine screens_bind (l := [])
      (screens_lookup_found ((Store.accessToken_eq_ok_iff hs).2 hold)) ?_
    rintro _ rfl
    refine screens_bind (l := [_]) (screens_verdict
      (TokenRequest.decides_ownedBy hs happ hu hold)) fun _ howned => ?_
    exact screens_pure ⟨(app, u, _), rfl, happ, ⟨text, htext, hne⟩, hu, hunused, hunexpired, hold,
      howned⟩

/-- **The rotation of a refresh token, end to end**: it is answered if and only if every condition
holds, for an application, a refresh token and the access token behind it.  Then the rows are the
old ones with that refresh token used, an access token added that copies the old one, and a refresh
token bound to it; the answer shows these two, and the old access token is as it was.  Otherwise it
complains of the first condition that does not hold, and the rows are the old ones. -/
theorem token_rotation (auth : Authority) (now : Instant) (hs : Store.empty.Leads s)
    (hready : s.Ready fresh) (henabled : auth.refreshEnabled = true)
    (hkind : r.grantType = some "refresh_token") (n : ℕ) :
    let run := (auth.token now fresh r).perform .none ⟨s, none, n⟩
    ((∃ v, run.1 = .ok v) ↔ ∃ app u old, r.Rotates s now app u old) ∧
    (∀ app u old, r.Rotates s now app u old →
      let t : AccessToken := ⟨Store.nextId s.accessTokens, old.applicationId, old.resourceOwnerId,
        fresh.token, old.scopes, expiry now auth.lifetimes.accessToken, now, none⟩
      let u' : RefreshToken := ⟨Store.nextId s.refreshTokens, t.id, fresh.refreshToken,
        expiry now auth.lifetimes.refreshToken, now, none⟩
      run.1 = .ok (t.view (some u') now) ∧
        run.2.committed = (s.withRefreshTokenUsed u now).withTokens t (some u') ∧
        old ∈ run.2.committed.accessTokens ∧ run.2.pending = none) ∧
    ∀ e, run.1 = .error e →
      FailsWith (r.rotationConditions s now) e.complaint ∧ run.2.committed = s ∧
        run.2.pending = none := by
  have hsound := hs.sound Store.sound_empty
  have hscreens := screens_prepare_rotation auth now hsound (hs.bound Store.bound_empty) henabled
    hkind
  obtain ⟨hanswered, hdone, hrefused⟩ := Screens.settles (f := auth.redeem now fresh)
    hscreens (fun i h => h.passes)
    (fun i j h h' => Prod.ext (h.client.unique hsound h'.client)
      (Prod.ext (h.named.unique hsound h'.named) (h.behind_unique hsound h')))
    (fun i h => auth.perform_rotate now hready (h.client.hasApplication h.owned) h.named.1
      h.unused) n
  refine ⟨hanswered.trans (by simp only [Prod.exists]), fun app u old h => ?_, hrefused⟩
  obtain ⟨hok, hrows, hpending⟩ := hdone (app, u, old) h
  exact ⟨hok, hrows, hrows ▸ List.mem_append_left _ h.behind.1, hpending⟩

end Authority

namespace Race

/-- The code has been exchanged, and the access token that it was exchanged for is revoked. -/
def revoked : Traffic :=
  Traffic.after authority (moves.take 6 ++ [.revoke ⟨some "token2"⟩ .epoch .none])

/-- The access token of the race, revoked. -/
def revokedToken : AccessToken :=
  ⟨1, 1, "owner", "token2", "", expiry .epoch Lifetimes.standard.accessToken, .epoch, some .epoch⟩

/-- The refresh token of the race. -/
def refreshToken : RefreshToken :=
  ⟨1, 1, "refresh2", expiry .epoch Lifetimes.standard.refreshToken, .epoch, none⟩

end Race

namespace Authority

/-- A refresh token is rotated although the access token behind it is revoked, and that one stays
revoked; a request that names no refresh token is refused for that. -/
theorem token_rotation_race :
    Race.rotation.Rotates Race.revoked.store .epoch Race.client Race.refreshToken
        Race.revokedToken ∧
      (∃ v, ((Race.authority.token .epoch (Race.fresh 4) Race.rotation).perform .none
        ⟨Race.revoked.store, none, 0⟩).1 = .ok v ∧ v.token = "token4") ∧
      Race.revokedToken ∈ ((Race.authority.token .epoch (Race.fresh 4) Race.rotation).perform .none
        ⟨Race.revoked.store, none, 0⟩).2.committed.accessTokens ∧
      FailsWith ({ Race.rotation with refreshToken := none }.rotationConditions
        Race.revoked.store .epoch) (.validation "refresh_token is required") := by
  have hleads : Store.empty.Leads Race.revoked.store := (Traffic.sound_after _ _).reachable
  have hready : Race.revoked.store.Ready (Race.fresh 4) :=
    ⟨(Traffic.sound_after _ _).store, by decide +kernel, by decide +kernel⟩
  have hrotates : Race.rotation.Rotates Race.revoked.store .epoch Race.client Race.refreshToken
      Race.revokedToken :=
    ⟨⟨by decide +kernel, rfl, rfl, rfl⟩, ⟨"refresh2", rfl, by decide⟩, ⟨by decide +kernel, rfl⟩,
      rfl, by decide, ⟨by decide +kernel, rfl⟩, rfl⟩
  obtain ⟨-, hdone, -⟩ :=
    token_rotation Race.authority .epoch hleads hready rfl (r := Race.rotation) rfl 0
  obtain ⟨-, -, hrefused⟩ := token_rotation Race.authority .epoch hleads hready rfl
    (r := { Race.rotation with refreshToken := none }) rfl 0
  obtain ⟨hanswer, -, hkept, -⟩ := hdone _ _ _ hrotates
  exact ⟨hrotates, ⟨_, hanswer, rfl⟩, hkept, (hrefused (.missing "refresh_token") rfl).1⟩

end Authority

end OAuthGateway

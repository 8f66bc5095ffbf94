import OAuthGateway.Proofs.Authority.Move
import OAuthGateway.Proofs.Authority.Redemption

/-!
# Proofs/Authority/Exchange — the exchange of a code, end to end

Whether a code is exchanged is settled by nine conditions on the rows (`exchangeConditions`), in the
order in which they are checked: two on the client, two on the fields of the request, and the others
on the one grant that the code names.  `token_exchange` says what the answer and the rows are, where
no call fails: if all hold (`Exchanges`), that grant is used, the tokens are added, and they are
answered; otherwise the complaint is about the first that does not, and no row has changed.

The checks screen the rows by that list because each of them decides its part of it, from
`decides_validate_exchange` to `decides_redeemable`.
-/

namespace OAuthGateway

open Time Procedure Checklist

namespace TokenRequest

variable (r : TokenRequest) (s : Store) (now : Instant)

/-- The code of the request is that of the grant. -/
def NamesCode (g : Grant) : Prop := g ∈ s.grants ∧ r.code = some g.code

/-- What is asked of the grant that a code names. -/
def codeConditions : List Condition :=
  [⟨∃ g, r.NamesCode s g ∧ ∃ app, r.Authenticates s app ∧ g.applicationId = app.id,
      .forbidden "authorization code was issued to another application"⟩,
    ⟨∃ g, r.NamesCode s g ∧ g.revokedAt = none, .forbidden "authorization code already used"⟩,
    ⟨∃ g, r.NamesCode s g ∧ now < g.expiresAt, .forbidden "authorization code expired"⟩,
    ⟨∃ g, r.NamesCode s g ∧ r.redirectUri = some g.redirectUri,
      .forbidden "redirect_uri does not match"⟩]

/-- What the exchange of a code depends on, in the order in which it is checked. -/
def exchangeConditions : List Condition :=
  r.clientConditions s ++
    ([⟨Given r.code, .validation "code is required"⟩,
      ⟨Given r.redirectUri, .validation "redirect_uri is required"⟩,
      ⟨∃ g, r.NamesCode s g, .notFound "authorization code"⟩] ++
    r.codeConditions s now)

/-- The client exchanges the grant: all conditions hold. -/
structure Exchanges (app : Application) (g : Grant) : Prop where
  client : r.Authenticates s app
  code : Given r.code
  redirectUri : Given r.redirectUri
  named : r.NamesCode s g
  owned : g.applicationId = app.id
  unused : g.revokedAt = none
  unexpired : now < g.expiresAt
  redirect : r.redirectUri = some g.redirectUri

variable {r s now} {app app' : Application} {g g' : Grant}

/-- A code names one grant. -/
theorem NamesCode.unique (h : r.NamesCode s g) (hs : s.Sound) (h' : r.NamesCode s g') : g' = g :=
  hs.grants.eq_of_key_eq h'.1 h.1 (Option.some.inj (h'.2.symm.trans h.2))

theorem Exchanges.passes (h : r.Exchanges s now app g) : Passes (r.exchangeConditions s now) := by
  refine passes_append.2 ⟨h.client.passes, passes_append.2 ?_⟩
  simp only [codeConditions, passes_cons]
  exact ⟨⟨h.code, h.redirectUri, ⟨g, h.named⟩, passes_nil⟩,
    ⟨g, h.named, app, h.client, h.owned⟩, ⟨g, h.named, h.unused⟩, ⟨g, h.named, h.unexpired⟩,
    ⟨g, h.named, h.redirect⟩, passes_nil⟩

/-! ## The checks -/

theorem decides_validate_exchange (enabled : Bool)
    (hkind : r.grantType = some "authorization_code") :
    Decides [⟨Given r.code, .validation "code is required"⟩,
        ⟨Given r.redirectUri, .validation "redirect_uri is required"⟩]
      (fun kind => kind = .authorizationCode ∧ Given r.code ∧ Given r.redirectUri)
      (r.validate enabled) := by
  have hname : required r.grantType "grant_type" = .ok "authorization_code" :=
    required_eq_ok_iff.2 ⟨hkind, by decide⟩
  rw [validate, hname]
  change Decides _ _ (do
    discard (required r.code "code")
    discard (required r.redirectUri "redirect_uri")
    return GrantType.authorizationCode)
  refine decides_bind (l := [_]) (decides_discard (decides_required r.code "code"))
    fun _ hcode => ?_
  refine decides_bind (l := [_])
    (decides_discard (decides_required r.redirectUri "redirect_uri")) fun _ hredirect => ?_
  exact decides_pure ⟨rfl, hcode, hredirect⟩

theorem decides_redeemable (hs : s.Sound) (happ : r.Authenticates s app) (hg : r.NamesCode s g)
    (hcode : Given r.code) (hredirect : Given r.redirectUri) :
    Decides (r.codeConditions s now) (fun _ => r.Exchanges s now app g)
      (g.redeemable r app now) := by
  have hsame : ∀ {P : Grant → Prop}, (∃ g, r.NamesCode s g ∧ P g) ↔ P g :=
    exists_and_iff_of_unique hg fun _ => hg.unique hs
  refine decides_unless ?_ fun howned => decides_unless ?_ fun hunused =>
    decides_unless ?_ fun hunexpired => decides_unless ?_ fun hmatches => decides_pure ?_
  · rw [hsame, exists_and_iff_of_unique happ fun _ => happ.unique hs]
  · rw [hsame]
    exact Option.isSome_iff_ne_none
  · rw [hsame, Expiring.isExpired, decide_eq_true_eq, ← Instant.not_le, not_not]
    rfl
  · rw [hsame]
  · rw [hsame] at howned hunused hunexpired hmatches
    rw [exists_and_iff_of_unique happ fun _ => happ.unique hs] at howned
    exact ⟨happ, hcode, hredirect, hg, howned, hunused, hunexpired, hmatches⟩

end TokenRequest

namespace Authority

variable {fresh : Credential.Fresh} {r : TokenRequest} {s : Store}

/-- **The checks of an exchange screen the rows** by the conditions of an exchange. -/
theorem screens_prepare_exchange (auth : Authority) (now : Instant) (hs : s.Sound)
    (hkind : r.grantType = some "authorization_code") :
    Screens s (r.exchangeConditions s now)
      (fun x => ∃ i : Application × Grant, x = .code i.2 ∧ r.Exchanges s now i.1 i.2)
      (auth.prepare now r) := by
  refine screens_bind (screens_authenticate hs .token r) fun app happ => ?_
  refine screens_bind (l := [_, _])
    (screens_verdict (TokenRequest.decides_validate_exchange _ hkind)) ?_
  rintro kind ⟨rfl, ⟨code, hcode, hne⟩, hredirect⟩
  refine screens_bind (l := [_]) (screens_lookup (Q := r.NamesCode s) (fun g => ?_)
    fun _ => Table.eq_notFound_of_found) fun g hg => ?_
  · rw [hcode, Option.getD_some, Store.grantOfCode_eq_ok_iff hs, TokenRequest.NamesCode, hcode,
      Option.some.injEq, eq_comm]
  · refine screens_bind (l := [_, _, _, _]) (screens_verdict
      (TokenRequest.decides_redeemable hs happ hg ⟨code, hcode, hne⟩ hredirect)) fun _ h => ?_
    exact screens_pure ⟨(app, g), rfl, h⟩

/-- **The exchange of a code, end to end**: it is answered if and only if every condition holds, for
an application and a grant.  Then the rows are the old ones with that grant used, an access token
added, and a refresh token bound to it exactly when those are enabled, and the answer shows them.
Otherwise it complains of the first condition that does not hold, and the rows are the old ones. -/
theorem token_exchange (auth : Authority) (now : Instant) (hs : Store.empty.Leads s)
    (hready : s.Ready fresh) (hkind : r.grantType = some "authorization_code") (n : ℕ) :
    let run := (auth.token now fresh r).perform .none ⟨s, none, n⟩
    ((∃ v, run.1 = .ok v) ↔ ∃ app g, r.Exchanges s now app g) ∧
    (∀ app g, r.Exchanges s now app g →
      let t : AccessToken := ⟨Store.nextId s.accessTokens, app.id, g.resourceOwnerId, fresh.token,
        g.scopes, expiry now auth.lifetimes.accessToken, now, none⟩
      let u : Option RefreshToken := if auth.refreshEnabled then
        some ⟨Store.nextId s.refreshTokens, t.id, fresh.refreshToken,
          expiry now auth.lifetimes.refreshToken, now, none⟩ else none
      run.1 = .ok (t.view u now) ∧
        run.2.committed = (s.withGrantUsed g now).withTokens t u ∧ run.2.pending = none) ∧
    ∀ e, run.1 = .error e →
      FailsWith (r.exchangeConditions s now) e.complaint ∧ run.2.committed = s ∧
        run.2.pending = none := by
  have hsound := hs.sound Store.sound_empty
  obtain ⟨hanswered, hdone, hrefused⟩ := Screens.settles (f := auth.redeem now fresh)
    (screens_prepare_exchange auth now hsound hkind) (fun i h => h.passes)
    (fun i j h h' => Prod.ext (h.client.unique hsound h'.client) (h.named.unique hsound h'.named))
    (fun i h => auth.perform_exchange now hready (h.client.hasApplication h.owned) h.named.1
      h.unused) n
  refine ⟨hanswered.trans Prod.exists, fun app g h => ?_, hrefused⟩
  rw [← h.owned]
  exact hdone (app, g) h

/-- The code of the race is exchanged once; the same request after that fails because it is used,
and not because of anything that is checked later. -/
theorem token_exchange_race :
    Race.exchange.Exchanges Race.granted.store .epoch Race.client Race.code ∧
      ((Race.authority.token .epoch (Race.fresh 2) Race.exchange).perform .none
        ⟨Race.granted.store, none, 0⟩).2.committed = Race.exchanged.store ∧
      FailsWith (Race.exchange.exchangeConditions Race.exchanged.store .epoch)
        (.forbidden "authorization code already used") := by
  have hready : Race.granted.store.Ready (Race.fresh 2) :=
    ⟨(Traffic.sound_after _ _).store, by decide +kernel, by decide +kernel⟩
  have hready' : Race.exchanged.store.Ready (Race.fresh 3) :=
    ⟨(Traffic.sound_after _ _).store, by decide +kernel, by decide +kernel⟩
  have hexchanges : Race.exchange.Exchanges Race.granted.store .epoch Race.client Race.code :=
    ⟨⟨by decide +kernel, rfl, rfl, rfl⟩, ⟨"code1", rfl, by decide⟩, ⟨"uri", rfl, by decide⟩,
      ⟨by decide +kernel, rfl⟩, rfl, rfl, by decide, rfl⟩
  obtain ⟨-, hdone, -⟩ := token_exchange Race.authority .epoch
    (Traffic.sound_after _ _).reachable hready (r := Race.exchange) rfl 0
  obtain ⟨-, -, hrefused⟩ := token_exchange Race.authority .epoch
    (Traffic.sound_after _ _).reachable hready' (r := Race.exchange) rfl 0
  refine ⟨hexchanges, (hdone _ _ hexchanges).2.1.trans ?_, (hrefused .codeUsed rfl).1⟩
  decide +kernel

end Authority

end OAuthGateway

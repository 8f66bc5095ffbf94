import OAuthGateway.Proofs.Authority.Move

/-!
# Proofs/Authority/StaleRead — redeeming in two steps is redeeming at once

Between the checks of a redemption and its transaction the store may change.  What a stale read can
miss is one thing only: that the credential has been used (`Prepared.later`).  All else that was
checked or is copied into the new rows is fixed, and the client still names the same application.
If the credential is unused, the checks pass again and the transaction is the same; if it is used,
the compare-and-swap refuses with the words of the check.  So the two steps do what the whole
operation does on the later store (`stale_redemption`).
-/

namespace OAuthGateway

open Time Procedure

/-! ## What the checks read

The checks of a redemption have read rows that may have changed when its transaction begins. -/

/-- A token that replaces another copies only what is fixed. -/
theorem tokenForToken_kept {old old' : AccessToken} (h : Row.Kept old old') (l : Lifetimes)
    (now : Instant) (token : String) :
    l.tokenForToken old' now token = l.tokenForToken old now token :=
  h.congr fun old => l.tokenForToken old now token

variable {r : TokenRequest} {app app' : Application} {now : Instant}

theorem redeemable_of_id_eq (happ : app'.id = app.id) (g : Grant) :
    g.redeemable r app' now = g.redeemable r app now := by
  rw [Grant.redeemable, happ]
  rfl

/-- A code that was redeemable and has been used meanwhile is refused as used. -/
theorem redeemable_of_used {g g' : Grant} (hkept : Row.Kept g g') (happ : app'.id = app.id)
    (hredeemable : g.redeemable r app now = .ok ()) (hused : g'.revokedAt.isSome = true) :
    g'.redeemable r app' now = .error .codeUsed := by
  obtain ⟨howned, -⟩ := Grant.redeemable_ok hredeemable
  rw [Grant.redeemable, Row.grant_applicationId_of_kept hkept, happ, if_neg (not_not.2 howned)]
  exact if_pos hused

theorem ownedBy_kept {t t' : AccessToken} (hkept : Row.Kept t t') (happ : app'.id = app.id) :
    t'.ownedBy app' = t.ownedBy app := by
  rw [AccessToken.ownedBy, Row.accessToken_applicationId_of_kept hkept, happ]
  rfl

/-! ## What a stale read has missed

All that can have happened to the credential in between is that it was used. -/

namespace Redemption

/-- The credential has been used. -/
def usedIn (s : Store) : Redemption → Bool
  | .code g => s.grants.any (Row.isSpent g.code)
  | .refresh used _ => s.refreshTokens.any (Row.isSpent used.token)

/-- Why a credential that has been used is refused. -/
def usedRefusal : Redemption → Refusal
  | .code _ => .codeUsed
  | .refresh _ _ => .refreshTokenUsed

/-- What is said of a credential that has been used. -/
def usedMessage : Redemption → String
  | .code _ => "authorization code already used"
  | .refresh _ _ => "refresh token already used"

theorem usedRefusal_complaint (redemption : Redemption) :
    redemption.usedRefusal.complaint = .forbidden redemption.usedMessage := by
  cases redemption <;> rfl

end Redemption

namespace Authority

variable {auth : Authority} {fresh : Credential.Fresh} {s s' : Store} {f g : Faults} {n m : ℕ}
  {redemption : Redemption}

/-- The client names one application on both stores. -/
theorem id_eq_of_resolves (hs : s.Sound) (hleads : s.Leads s') (h : r.Resolves s app)
    (h' : r.Resolves s' app') : app'.id = app.id := by
  obtain ⟨uid, secret, huid, -, hfound⟩ := h
  obtain ⟨uid', secret', huid', -, hfound'⟩ := h'
  obtain rfl : uid = uid' := Option.some.inj (huid.symm.trans huid')
  exact hleads.client_id_eq hs hfound hfound'

/-- The exchange of a code that has been used. -/
theorem perform_exchange_used {row : Grant} (hbegin : g m .begin = none)
    (hcall : g (m + 1) .grantRevoke = none)
    (hmark : s.revokeGrant row.code now = .error .notFound) :
    (auth.exchange now fresh row).perform g ⟨s, none, m⟩ = (.error .codeUsed, ⟨s, none, m + 2⟩) :=
  perform_transaction_refused (f := markUsed .exchange .codeUsed) (e := .notFound) hbegin hcall
    hmark

/-- The rotation of a refresh token that has been used. -/
theorem perform_rotate_used {used : RefreshToken} {old : AccessToken} (hbegin : g m .begin = none)
    (hcall : g (m + 1) .refreshTokenRevoke = none)
    (hmark : s.revokeRefreshToken used.token now = .error .notFound) :
    (auth.rotate now fresh used old).perform g ⟨s, none, m⟩ =
      (.error .refreshTokenUsed, ⟨s, none, m + 2⟩) :=
  perform_transaction_refused (f := markUsed .rotation .refreshTokenUsed) (e := .notFound) hbegin
    hcall hmark

/-- How a redemption that was prepared stands on a store. -/
inductive Standing (auth : Authority) (faults : Faults) (now : Instant) (fresh : Credential.Fresh)
    (r : TokenRequest) (s : Store) (n : ℕ) (redemption : Redemption) (m : ℕ) : Prop
  /-- The checks pass, for the same transaction. -/
  | unused {redemption' : Redemption} (unused : redemption.usedIn s = false)
      (prepared : Prepared auth faults now r s n redemption' m)
      (same : auth.redeem now fresh redemption' = auth.redeem now fresh redemption)
  /-- The checks and the transaction refuse what has been used. -/
  | used {k : ℕ} (used : redemption.usedIn s = true)
      (checked : (auth.prepare now r).perform faults ⟨s, none, n⟩ =
        (.error redemption.usedRefusal, ⟨s, none, k⟩))
      (marked : (auth.redeem now fresh redemption).perform faults ⟨s, none, m⟩ =
        (.error redemption.usedRefusal, ⟨s, none, m + 2⟩))

section Standing

variable (hs : s.Sound) (hleads : s.Leads s') (hresolves : r.Resolves s' app')

include hs hleads hresolves

theorem standing_code {code : String} {row : Grant} (client : r.Resolves s app)
    (valid : r.validate auth.refreshEnabled = .ok .authorizationCode)
    (named : r.code = some code) (found : s.grantOfCode code = .ok row)
    (redeemable : row.redeemable r app now = .ok ())
    (hcalls : ∀ k call, k ≤ n + 3 → g k call = none) :
    Standing auth g now fresh r s' n (.code row) (n + 2) := by
  have hs' := hleads.sound hs
  have happ := id_eq_of_resolves hs hleads client hresolves
  obtain ⟨row', found', hkept⟩ := hleads.grantOfCode hs found
  obtain ⟨hmem, hcode⟩ := (Store.grantOfCode_eq_ok_iff hs').1 found'
  have hkey : row'.code = row.code := hkept.key_eq
  have hused : Redemption.usedIn s' (.code row) = row'.revokedAt.isSome := by
    rw [Redemption.usedIn, ← hkey]
    exact hs'.grants.any_isSpent hmem
  cases hrevoked : row'.revokedAt.isSome with
  | false =>
    obtain rfl := Row.grant_eq_of_kept hkept (Option.isSome_eq_false_iff.1 hrevoked |>
      Option.isNone_iff_eq_none.1)
    have hredeemable : row'.redeemable r app' now = .ok () := by
      rw [redeemable_of_id_eq happ, redeemable]
    exact .unused (hused.trans hrevoked) (.code hresolves (hcalls n _ (by omega)) valid named found'
      (hcalls (n + 1) _ (by omega)) hredeemable) rfl
  | true =>
    have hmark := Store.revokeGrant_revoked hs' found' hrevoked now
    rw [hcode.symm.trans hkey] at hmark
    refine .used (k := n + 2) (hused.trans hrevoked) ?_
      (perform_exchange_used (hcalls (n + 2) _ (by omega)) (hcalls (n + 3) _ (by omega)) hmark)
    rw [perform_prepare hresolves (hcalls n _ (by omega)) valid]
    refine (perform_prepareExchange named found' (hcalls (n + 1) _ (by omega))).trans ?_
    rw [redeemable_of_used hkept happ redeemable hrevoked]
    rfl

theorem standing_refresh {text : String} {used : RefreshToken} {old : AccessToken}
    (client : r.Resolves s app) (valid : r.validate auth.refreshEnabled = .ok .refreshToken)
    (named : r.refreshToken = some text) (found : s.refreshTokenOfText text = .ok used)
    (redeemable : used.redeemable now = .ok ())
    (behind : s.accessToken used.accessTokenId = .ok old) (owned : old.ownedBy app = .ok ())
    (hcalls : ∀ k call, k ≤ n + 4 → g k call = none) :
    Standing auth g now fresh r s' n (.refresh used old) (n + 3) := by
  have hs' := hleads.sound hs
  have happ := id_eq_of_resolves hs hleads client hresolves
  obtain ⟨used', found', hkept⟩ := hleads.refreshTokenOfText hs found
  obtain ⟨hmem, htext⟩ := (Store.refreshTokenOfText_eq_ok_iff hs').1 found'
  obtain ⟨old', behind', hkept'⟩ := hleads.accessToken hs behind
  rw [← Row.accessTokenId_of_kept hkept] at behind'
  have hkey : used'.token = used.token := hkept.key_eq
  have hused : Redemption.usedIn s' (.refresh used old) = used'.revokedAt.isSome := by
    rw [Redemption.usedIn, ← hkey]
    exact hs'.refreshTokens.any_isSpent hmem
  cases hrevoked : used'.revokedAt.isSome with
  | false =>
    obtain rfl := Row.refreshToken_eq_of_kept hkept (Option.isSome_eq_false_iff.1 hrevoked |>
      Option.isNone_iff_eq_none.1)
    have howned : old'.ownedBy app' = .ok () := by rw [ownedBy_kept hkept' happ, owned]
    refine .unused (hused.trans hrevoked) (.refresh hresolves (hcalls n _ (by omega)) valid named
      found' (hcalls (n + 1) _ (by omega)) redeemable behind' (hcalls (n + 2) _ (by omega))
      howned) ?_
    simp only [redeem, rotate, rotationSteps, tokenForToken_kept hkept']
  | true =>
    have hmark := Store.revokeRefreshToken_revoked hs' found' hrevoked now
    rw [htext.symm.trans hkey] at hmark
    have hrefused : used'.redeemable now = .error .refreshTokenUsed := if_pos hrevoked
    refine .used (k := n + 2) (hused.trans hrevoked) ?_
      (perform_rotate_used (hcalls (n + 3) _ (by omega)) (hcalls (n + 4) _ (by omega)) hmark)
    rw [perform_prepare hresolves (hcalls n _ (by omega)) valid]
    refine (perform_prepareRotation named found' (hcalls (n + 1) _ (by omega)) behind'
      (hcalls (n + 2) _ (by omega))).trans ?_
    rw [hrefused]
    rfl

/-- **What a stale read can have missed** is that the credential has been used, and nothing else. -/
theorem Prepared.standing (h : Prepared auth f now r s n redemption m)
    (hcalls : ∀ k call, k ≤ m + 1 → g k call = none) :
    Standing auth g now fresh r s' n redemption m := by
  cases h with
  | code client asked valid named found looked redeemable =>
    exact standing_code hs hleads hresolves client valid named found redeemable hcalls
  | refresh client asked valid named found looked redeemable behind looked' owned =>
    exact standing_refresh hs hleads hresolves client valid named found redeemable behind owned
      hcalls

end Standing

/-- **Redeeming in two steps is redeeming at once**: if the checks passed on a store, and on a later
one the client still resolves, then the transaction alone does there what the whole operation does,
with the same answer and the same rows.  A credential that was used in between is refused as used by
both.  The calls up to the compare-and-swap are answered; any later one may fail. -/
theorem stale_redemption {db : Database} (fresh : Credential.Fresh) (hs : Store.empty.Leads s)
    (hleads : s.Leads s')
    (hread : (auth.prepare now r).perform f ⟨s, none, n⟩ = (.ok redemption, db))
    (hresolves : ∃ app, r.Resolves s' app)
    (hcalls : ∀ k call, k ≤ db.calls + 1 → g k call = none) :
    let late := (auth.redeem now fresh redemption).perform g ⟨s', none, db.calls⟩
    let whole := (auth.token now fresh r).perform g ⟨s', none, n⟩
    late.1 = whole.1 ∧ late.2.committed = whole.2.committed ∧ late.2.pending = whole.2.pending ∧
      (redemption.usedIn s' = true →
        late.1 = .error redemption.usedRefusal ∧
          redemption.usedRefusal.complaint = .forbidden redemption.usedMessage) := by
  obtain ⟨app', hresolves⟩ := hresolves
  obtain ⟨m, hprepared, rfl⟩ := prepare_ok hread
  have hstanding : Standing auth g now fresh r s' n redemption m :=
    hprepared.standing (hs.sound Store.sound_empty) hleads hresolves hcalls
  intro late whole
  cases hstanding with
  | unused unused prepared same =>
    have hwhole : whole = late := by
      change (auth.prepare now r >>= auth.redeem now fresh).perform g ⟨s', none, n⟩ = late
      rw [perform_bind, prepared.perform]
      exact congrArg (fun p => p.perform g ⟨s', none, m⟩) same
    rw [hwhole, unused]
    exact ⟨rfl, rfl, rfl, nofun⟩
  | @used k used checked marked =>
    have hwhole : whole = (.error redemption.usedRefusal, ⟨s', none, k⟩) := by
      change (auth.prepare now r >>= auth.redeem now fresh).perform g ⟨s', none, n⟩ = _
      rw [perform_bind, checked]
    have hlate : late = (.error redemption.usedRefusal, ⟨s', none, m + 2⟩) := marked
    rw [hwhole, hlate]
    exact ⟨rfl, rfl, rfl, fun _ => ⟨rfl, redemption.usedRefusal_complaint⟩⟩

/-- The second exchange of the race was checked before the first was committed, and is refused as a
later request would be. -/
theorem stale_redemption_race :
    (Race.authority.prepare .epoch Race.exchange).perform .none ⟨Race.granted.store, none, 0⟩ =
        (.ok (.code Race.code), ⟨Race.granted.store, none, 2⟩) ∧
      ((Race.authority.redeem .epoch (Race.fresh 3) (.code Race.code)).perform .none
        ⟨Race.exchanged.store, none, 2⟩).1 = .error .codeUsed ∧
      ((Race.authority.token .epoch (Race.fresh 3) Race.exchange).perform .none
        ⟨Race.exchanged.store, none, 0⟩).1 = .error .codeUsed := by
  have hsound := Traffic.sound_after Race.authority (Race.moves.take 3)
  have hread : (Race.authority.prepare .epoch Race.exchange).perform .none
      ⟨Race.granted.store, none, 0⟩ = (.ok (.code Race.code), ⟨Race.granted.store, none, 2⟩) := rfl
  obtain ⟨hsame, -, -, hused⟩ := stale_redemption (g := .none) (Race.fresh 3) hsound.reachable
    (hsound.leads_foldl ((Race.moves.drop 3).take 3)) hread ⟨_, "uid", "secret", rfl, rfl, rfl⟩
    fun _ _ _ => rfl
  have hlate := (hused (by decide +kernel)).1
  exact ⟨hread, hlate, hsame.symm.trans hlate⟩

end Authority

end OAuthGateway

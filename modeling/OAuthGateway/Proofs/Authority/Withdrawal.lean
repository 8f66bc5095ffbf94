import Mathlib.Data.List.Induction
import OAuthGateway.Proofs.Authority.Account

/-!
# Proofs/Authority/Withdrawal — the log accounts for revoked access tokens

An access token is revoked by a revocation that succeeds and by nothing else: in every run the rows
of a text that are revoked are as many as the revocations of it that were answered
(`revocations_eq_spent`).  With the account of the rows themselves this says what state the row of
a token is in (`exists_revoked`, `exists_unrevoked`).

Where the texts of a run are drawn as credentials are, every access token that was answered is such
a text (`exists_bytes_of_logged`).
-/

namespace OAuthGateway

open Time Procedure

/-- A revocation of the access token has succeeded. -/
def Event.revokes (text : String) : Event → Bool
  | .revoke r (.ok _) => r.token == some text
  | _ => false

/-- A revocation that succeeds has revoked the access token that it names. -/
theorem Authority.revokeToken_ok {now : Instant} {r : RevokeRequest} {faults : Faults} {s : Store}
    {n : ℕ} {db : Database}
    (h : (Authority.revokeToken now r).perform faults ⟨s, none, n⟩ = (.ok (), db)) :
    ∃ text, r.token = some text ∧ s.revokeAccessToken text now = .ok ((), db.committed) := by
  obtain ⟨text, _, hverdict, h⟩ := bind_ok h
  obtain ⟨hnamed, rfl⟩ := Prod.mk.inj hverdict
  obtain ⟨s', hrevoke, rfl⟩ := call_ok (mapError_ok h)
  exact ⟨text, (required_eq_ok_iff.1 hnamed).1, hrevoke⟩

/-- Issuing revokes no access token. -/
theorem Issues.countP_accessTokens {lifetimes : Lifetimes} {enabled : Bool} {now : Instant}
    {d : AccessTokenDraft} {text : String} {s s' : Store} {t : AccessToken}
    {u : Option RefreshToken} (h : Issues lifetimes enabled now d text s t u s') (k : String) :
    s'.accessTokens.countP (Row.isSpent k) = s.accessTokens.countP (Row.isSpent k) := by
  rw [h.accessTokens, List.countP_append, List.countP_singleton, h.token,
    Row.isSpent_eq_false rfl]
  rfl

/-- Nothing but a revocation revokes an access token. -/
theorem Effect.countP_accessTokens {auth : Authority} {s s' : Store} {e : Event}
    (h : Effect auth s e s') (hother : ∀ r answer, e ≠ .revoke r answer) (text : String) :
    s'.accessTokens.countP (Row.isSpent text) = s.accessTokens.countP (Row.isSpent text) := by
  cases h with
  | refused => rfl
  | code cleared added rows leads => rw [rows]
  | token cleared issues => exact issues.countP_accessTokens text
  | exchange cleared marked issues =>
    obtain ⟨rows, -, rfl⟩ := Store.revokeGrant_ok marked
    exact issues.countP_accessTokens text
  | rotation cleared marked issues =>
    obtain ⟨rows, -, rfl⟩ := Store.revokeRefreshToken_ok marked
    exact issues.countP_accessTokens text
  | revocation withdrawn => exact absurd rfl (hother _ _)
  | errand administered => rw [administered.accessTokens]

namespace Traffic

variable {auth : Authority} {w : Traffic}

/-- An answer counts as a revocation of the text when a row of it has been revoked. -/
theorem Answers.countP_accessTokens (hw : w.Sound auth) {move : Move} {e : Event} {s' : Store}
    (h : Answers auth w move e s') (heffect : Effect auth w.store e s') (text : String) :
    s'.accessTokens.countP (Row.isSpent text) =
      w.store.accessTokens.countP (Row.isSpent text) + if e.revokes text then 1 else 0 := by
  cases h with
  | refused run => exact heffect.countP_accessTokens nofun text
  | written waits run => exact heffect.countP_accessTokens nofun text
  | @revoked r now faults answer db run =>
    cases answer with
    | error e =>
      rw [(Authority.atomic_revokeToken now r).unchanged run]
      rfl
    | ok _ =>
      obtain ⟨text', hnamed, hrevoke⟩ := Authority.revokeToken_ok run
      obtain ⟨rows, hamend, hstore⟩ := Store.revokeAccessToken_ok hrevoke
      rw [hstore, hw.store.accessTokens.countP_isSpent_amend hamend (fun _ => rfl) (fun _ => rfl),
        Event.revokes, hnamed]
      simp
  | administered run => exact heffect.countP_accessTokens nofun text

variable (auth) (moves : List Move)

/-- **Revocations are counted by revoked access tokens.** -/
theorem revocations_eq_spent (text : String) :
    (after auth moves).log.countP (Event.revokes text) =
      (after auth moves).store.accessTokens.countP (Row.isSpent text) := by
  refine after_sound_induction (P := fun w => w.log.countP (Event.revokes text) =
    w.store.accessTokens.countP (Row.isSpent text)) rfl (fun w move hw ih => ?_) moves
  rcases step_effect hw move with ⟨hstore, hlog⟩ | ⟨e, hlog, heffect⟩
  · rw [hstore, hlog, ih]
  · rw [(answers_of_log hlog).countP_accessTokens hw heffect text, hlog, List.countP_cons, ih]

variable {auth moves} {text : String}

/-- **What was revoked has a row that is revoked.** -/
theorem exists_revoked (h : .revoke ⟨some text⟩ (.ok ()) ∈ (after auth moves).log) :
    ∃ t ∈ (after auth moves).store.accessTokens, t.token = text ∧ t.revokedAt.isSome = true := by
  have hcount : 0 < (after auth moves).store.accessTokens.countP (Row.isSpent text) := by
    rw [← revocations_eq_spent]
    exact List.countP_pos_iff.2 ⟨_, h, beq_self_eq_true _⟩
  obtain ⟨t, ht, hspent⟩ := List.countP_pos_iff.1 hcount
  exact ⟨t, ht, Row.isSpent_iff.1 hspent⟩

/-- **What was answered and never revoked** has a row that is not, and shows what the answer showed.
-/
theorem exists_unrevoked {q : IssueRequest} {v : AccessTokenView}
    (hv : .issue q (.ok (.token v)) ∈ (after auth moves).log)
    (hrevoked : .revoke ⟨some v.token⟩ (.ok ()) ∉ (after auth moves).log) :
    v.row ∈ (after auth moves).store.accessTokens := by
  obtain ⟨t, ht, hrow⟩ := exists_accessToken hv
  have hcount : (after auth moves).store.accessTokens.countP (Row.isSpent v.token) = 0 := by
    rw [← revocations_eq_spent, List.countP_eq_zero]
    intro e he hrevokes
    cases e with
    | revoke r answer =>
      cases answer with
      | error e => cases hrevokes
      | ok _ =>
        have hnamed : r = ⟨some v.token⟩ := congrArg RevokeRequest.mk (beq_iff_eq.1 hrevokes)
        exact hrevoked (hnamed ▸ he)
    | issue | administer => cases hrevokes
  have hkey : t.token = v.token := (congrArg AccessToken.token hrow).symm
  have hlive : t.revokedAt = none := by
    by_contra hsome
    exact List.countP_eq_zero.1 hcount t ht
      (Row.isSpent_iff.2 ⟨hkey, Option.isSome_iff_ne_none.2 hsome⟩)
  have hsame : v.row = t := by
    rw [hrow]
    exact congrArg (fun m => { t with revokedAt := m }) hlive.symm
  exact hsame ▸ ht

end Traffic

/-! ## Drawn texts -/

/-- The move draws the text of the access token that it may add: 32 random bytes. -/
def Move.Draws : Move → Prop
  | .write _ fresh _ =>
    ∃ bytes, bytes.length = Credential.byteCount ∧ fresh.token = Credential.ofBytes bytes
  | _ => True

/-- The access token that a transaction issues has the text that was drawn for it. -/
theorem Authority.Written.token_eq {auth : Authority} {now : Instant} {fresh : Credential.Fresh}
    {s s' : Store} {c : Clearance} {v : AccessTokenView}
    (h : auth.Written now fresh s c (.token v) s') : v.token = fresh.token := by
  cases h with
  | token issues | exchange marked issues | rotation marked issues =>
    exact congrArg AccessToken.token issues.token

namespace Traffic

/-- **Where texts are drawn, every access token that was answered is one of them.** -/
theorem exists_bytes_of_logged {auth : Authority} {moves : List Move}
    (hdraws : ∀ move ∈ moves, move.Draws) {q : IssueRequest} {v : AccessTokenView}
    (hv : .issue q (.ok (.token v)) ∈ (after auth moves).log) :
    ∃ bytes, bytes.length = Credential.byteCount ∧ v.token = Credential.ofBytes bytes := by
  induction moves using List.reverseRecOn with
  | nil => cases hv
  | append_singleton moves move ih =>
    have ih := ih fun move hmove => hdraws move (List.mem_append_left _ hmove)
    have hmove := hdraws move (List.mem_append_right _ List.mem_cons_self)
    rw [after_concat] at hv
    rcases answers_of_mem_log hv with hbefore | ⟨-, hanswers⟩
    · exact ih hbefore
    · generalize (step auth (after auth moves) move).store = s' at hanswers
      cases hanswers with
      | written waits run =>
        obtain ⟨bytes, hlength, htoken⟩ := hmove
        have hwritten := Authority.write_ok (sound_after auth moves).store run
        exact ⟨bytes, hlength, hwritten.token_eq.trans htoken⟩

end Traffic

end OAuthGateway

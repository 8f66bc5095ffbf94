import OAuthGateway.Proofs.Authority.Account
import OAuthGateway.Proofs.Authority.AllOrNothing

/-!
# Proofs/Authority/Pairing — refresh tokens go with access tokens one to one, or not at all

Where refresh tokens are enabled, the two tables go in step, so `accessTokenId` is a bijection
between their rows (`Store.PairedExactly`), and every answer shows both rows of a pair
(`Traffic.exists_pair`).  Where they are disabled, no check clears the redemption of one
(`Passed.refreshes_eq_false`), and a transaction that does not redeem one makes no statement on
them; so whatever refresh tokens a store has, they stay as they are, and asking for one to be
redeemed is as invalid as asking for anything unknown (`Authority.token_unsupported`).  Both sides
together are `tokens_paired`.
-/

namespace OAuthGateway

open Time Procedure

/-! ## Enabled

With refresh tokens, each access token that is issued has one, which its answer shows. -/

/-- `accessTokenId` is a bijection from the rows of refresh tokens onto those of access tokens. -/
structure Store.PairedExactly (s : Store) : Prop where
  /-- A refresh token is bound to one access token. -/
  bound : ∀ u ∈ s.refreshTokens, ∃! t, t ∈ s.accessTokens ∧ t.id = u.accessTokenId
  /-- To an access token one refresh token is bound. -/
  accompanied : ∀ t ∈ s.accessTokens, ∃! u, u ∈ s.refreshTokens ∧ u.accessTokenId = t.id
  /-- No row is there twice. -/
  accessTokens : s.accessTokens.Nodup
  refreshTokens : s.refreshTokens.Nodup

/-- Tables that go in step are paired exactly: ids are unique. -/
theorem Store.Paired.exactly {s : Store} (h : s.Paired) (hs : s.Sound) : s.PairedExactly where
  bound u hu := by
    have hmem : u.accessTokenId ∈ s.accessTokens.map (·.id) := h ▸ List.mem_map_of_mem hu
    obtain ⟨t, ht, hid⟩ := List.mem_map.1 hmem
    refine ⟨t, ⟨ht, hid⟩, ?_⟩
    rintro t' ⟨ht', hid'⟩
    exact hs.accessTokens.eq_of_id_eq ht' ht (hid'.trans hid.symm)
  accompanied t ht := h.existsUnique hs ht
  accessTokens := hs.accessTokens.nodup_ids.of_map
  refreshTokens := hs.refreshTokens.nodup_ids.of_map

/-- **Where refresh tokens are enabled, every access token is answered with one.** -/
theorem Effect.exists_refreshToken {auth : Authority} {s s' : Store} {q : IssueRequest}
    {v : AccessTokenView} (henabled : auth.refreshEnabled = true)
    (h : Effect auth s (.issue q (.ok (.token v))) s') : ∃ text, v.refreshToken = some text := by
  cases h with
  | token cleared issues | exchange cleared marked issues | rotation cleared marked issues =>
    obtain ⟨u, rfl, -⟩ := issues.exists_refreshToken henabled
    exact ⟨u.token, rfl⟩

/-- An answer shows the rows of a pair. -/
theorem Traffic.exists_pair {auth : Authority} (henabled : auth.refreshEnabled = true)
    {moves : List Move} {q : IssueRequest} {v : AccessTokenView}
    (hv : .issue q (.ok (.token v)) ∈ (after auth moves).log) :
    ∃ t ∈ (after auth moves).store.accessTokens, ∃ u ∈ (after auth moves).store.refreshTokens,
      v.id = t.id ∧ v.token = t.token ∧ u.accessTokenId = t.id ∧ v.refreshToken = some u.token := by
  obtain ⟨s, s', -, heffect⟩ := exists_effect_of_mem_log hv
  obtain ⟨text, htext⟩ := heffect.exists_refreshToken henabled
  obtain ⟨t, ht, hrow⟩ := exists_accessToken hv
  obtain ⟨u, hu, hbound, rfl⟩ := exists_refreshToken hv htext
  have hid : v.id = t.id := congrArg AccessToken.id hrow
  exact ⟨t, ht, u, hu, hid, congrArg AccessToken.token hrow, hbound.trans hid, htext⟩

/-! ## Disabled

Without them none is made, and none that is there is redeemed. -/

/-- The refresh tokens are as they were. -/
def Store.SameRefreshTokens (s s' : Store) : Prop := s'.refreshTokens = s.refreshTokens

namespace Store.SameRefreshTokens

theorem refl (s : Store) : SameRefreshTokens s s := rfl

theorem trans {s s' s'' : Store} (h : SameRefreshTokens s s') (h' : SameRefreshTokens s' s'') :
    SameRefreshTokens s s'' :=
  Eq.trans h' h

end Store.SameRefreshTokens

section Disabled

variable {auth : Authority} {s s' : Store} {q : IssueRequest} {c : Clearance} {now : Instant}
  {fresh : Credential.Fresh} {faults : Faults} {n : ℕ} {db db' : Database}

/-- **What passes the checks is no refresh token**, where they are disabled. -/
theorem Authority.Passed.refreshes_eq_false (h : auth.Passed faults now s n q c)
    (hdisabled : auth.refreshEnabled = false) : c.refreshes auth = false := by
  cases h with
  | grantorCode | grantorToken | grant | grantToken => exact hdisabled
  | token prepared =>
    cases prepared with
    | code => exact hdisabled
    | refresh client asked valid =>
      rw [(validate_refreshToken valid).2.1] at hdisabled
      cases hdisabled

/-- A token request that passes the checks asks for no refresh token to be redeemed, where they are
disabled. -/
theorem Authority.Passed.grantType_ne {r : TokenRequest}
    (h : auth.Passed faults now s n (.token r) c) (hdisabled : auth.refreshEnabled = false) :
    r.grantType ≠ some "refresh_token" := by
  cases h with
  | token prepared =>
    cases prepared with
    | code client asked valid =>
      rw [(validate_authorizationCode valid).1]
      decide
    | refresh client asked valid =>
      rw [(validate_refreshToken valid).2.1] at hdisabled
      cases hdisabled

/-- The statements of transactions that do not redeem a refresh token, and issue none, leave all
refresh tokens as they are. -/
theorem statements_sameRefreshTokens : Authority.Statements Store.SameRefreshTokens false where
  addGrant _ _ _ _ h := by
    obtain ⟨-, -, rfl⟩ := Store.addGrant_ok h
    rfl
  revokeGrant _ _ _ _ _ h := by
    obtain ⟨rows, -, rfl⟩ := Store.revokeGrant_ok h
    rfl
  addAccessToken _ _ _ _ h := by
    obtain ⟨-, -, rfl⟩ := Store.addAccessToken_ok h
    rfl
  addRefreshToken h := nomatch h
  revokeRefreshToken h := nomatch h

/-- **An answer leaves refresh tokens alone where they are disabled**, whatever fails. -/
theorem Authority.refreshTokens_answer (hdisabled : auth.refreshEnabled = false) :
    ((auth.answer now fresh q).perform faults ⟨s, none, n⟩).2.committed.refreshTokens =
      s.refreshTokens := by
  rw [answer_eq_bind, perform_bind]
  obtain ⟨hcommitted, hpending⟩ := auth.keeps_untouched_clear now q faults ⟨s, none, n⟩
  rcases hrun : (auth.clear now q).perform faults ⟨s, none, n⟩ with ⟨e | c, db⟩ <;>
    rw [hrun] at hcommitted hpending
  · exact congrArg Store.refreshTokens hcommitted
  · have hwrite : Statements Store.SameRefreshTokens (c.refreshes auth) := by
      rw [(clear_ok hrun).refreshes_eq_false hdisabled]
      exact statements_sameRefreshTokens
    have hkept : Keeps (.outside Store.SameRefreshTokens .refl .trans) (auth.write now fresh c) :=
      auth.keeps_outside_write now fresh hwrite
    have hsame := (hkept faults db hpending).2
    exact Eq.trans hsame (congrArg Store.refreshTokens hcommitted)

/-- **Asking for a refresh token to be redeemed is invalid where they are disabled**, once the
client is authenticated. -/
theorem Authority.token_unsupported (hdisabled : auth.refreshEnabled = false) {r : TokenRequest}
    {app : Application} (htype : r.grantType = some "refresh_token")
    (hauth : (authenticate .token r.clientUid r.clientSecret).perform faults db = (.ok app, db')) :
    (auth.token now fresh r).perform faults db =
      (.error (.unsupportedGrantType "refresh_token"), db') := by
  have hinvalid : r.validate auth.refreshEnabled =
      .error (.unsupportedGrantType "refresh_token") := by
    rw [TokenRequest.validate, htype, hdisabled]
    rfl
  simp only [token, prepare, perform_bind, hauth, perform_verdict, hinvalid]

namespace Traffic

variable {w : Traffic}

/-- What waits has passed its checks, on whatever rows, and no refresh token was redeemed. -/
structure Unrefreshed (auth : Authority) (w : Traffic) : Prop where
  waiting : ∀ task ∈ w.waiting, ∃ faults s n,
    auth.Passed faults task.now s n task.request task.clearance
  log : ∀ r issued, .issue (.token r) (.ok issued) ∈ w.log → r.grantType ≠ some "refresh_token"

theorem refreshTokens_step (hdisabled : auth.refreshEnabled = false) (hw : w.Unrefreshed auth)
    (move : Move) : (step auth w move).store.refreshTokens = w.store.refreshTokens := by
  refine related_step Store.SameRefreshTokens.refl .trans (fun task htask => ?_) ?_ ?_
  · obtain ⟨faults, s, n, hpassed⟩ := hw.waiting task htask
    rw [hpassed.refreshes_eq_false hdisabled]
    exact statements_sameRefreshTokens
  · intro text moment s s' _ hrevoke
    obtain ⟨rows, -, rfl⟩ := Store.revokeAccessToken_ok hrevoke
    rfl
  · intro errand now fresh _ _ faults db hnone
    obtain ⟨hnone', hadministered⟩ := errand.keeps_administered_answer now fresh faults db hnone
    exact ⟨hnone', hadministered.refreshTokens⟩

theorem Unrefreshed.step (hdisabled : auth.refreshEnabled = false) (hw : w.Unrefreshed auth)
    (move : Move) : (step auth w move).Unrefreshed auth where
  waiting task htask := by
    rcases mem_waiting_step htask with htask | ⟨faults, db, -, hrun⟩
    · exact hw.waiting task htask
    · exact ⟨faults, _, _, Authority.clear_ok hrun⟩
  log r issued h := by
    rcases log_step w move with hlog | ⟨e, hlog⟩
    · exact hw.log r issued (hlog ▸ h)
    · rw [hlog] at h
      rcases List.mem_cons.1 h with rfl | h
      · obtain ⟨task, htask, hq, -⟩ := performed_of_issued hlog
        obtain ⟨faults, s, n, hpassed⟩ := hw.waiting task htask
        exact (hq ▸ hpassed).grantType_ne hdisabled
      · exact hw.log r issued h

/-- **Where refresh tokens are disabled, no sequence of moves adds, revokes or redeems one**,
whatever rows there are at its start. -/
theorem Unrefreshed.foldl (hdisabled : auth.refreshEnabled = false) (hw : w.Unrefreshed auth)
    (moves : List Move) :
    (moves.foldl (Traffic.step auth) w).store.refreshTokens = w.store.refreshTokens ∧
      (moves.foldl (Traffic.step auth) w).Unrefreshed auth := by
  induction moves generalizing w with
  | nil => exact ⟨rfl, hw⟩
  | cons move moves ih =>
    obtain ⟨hrows, hlast⟩ := ih (hw.step hdisabled move)
    exact ⟨hrows.trans (refreshTokens_step hdisabled hw move), hlast⟩

end Traffic

end Disabled

/-! ## Both -/

/-- Refresh tokens are disabled. -/
def Race.plain : Authority := ⟨.standard, false⟩

namespace Traffic

/-- Rows, and nothing under way. -/
def ofStore (s : Store) : Traffic := ⟨s, [], []⟩

theorem unrefreshed_ofStore (auth : Authority) (s : Store) : (ofStore s).Unrefreshed auth :=
  ⟨fun _ h => absurd h List.not_mem_nil, fun _ _ h => absurd h List.not_mem_nil⟩

/-- **Access tokens and refresh tokens are paired exactly.**  Where refresh tokens are enabled,
after any moves `accessTokenId` is a bijection from the refresh tokens onto the access tokens, and
every answer that shows an access token shows the refresh token that is bound to it.  Where they are
disabled, no answer and no moves change the refresh tokens of any store, no request to redeem one
succeeds, and every such request is refused as invalid once its client is authenticated. -/
theorem tokens_paired (auth : Authority) :
    (auth.refreshEnabled = true → ∀ moves : List Move,
      (after auth moves).store.PairedExactly ∧
      ∀ q v, .issue q (.ok (.token v)) ∈ (after auth moves).log →
        ∃ t ∈ (after auth moves).store.accessTokens, ∃ u ∈ (after auth moves).store.refreshTokens,
          v.id = t.id ∧ v.token = t.token ∧ u.accessTokenId = t.id ∧
            v.refreshToken = some u.token) ∧
    (auth.refreshEnabled = false →
      (∀ s q now fresh faults n,
        ((auth.answer now fresh q).perform faults ⟨s, none, n⟩).2.committed.refreshTokens =
          s.refreshTokens) ∧
      (∀ s (moves : List Move),
        (moves.foldl (step auth) (ofStore s)).store.refreshTokens = s.refreshTokens ∧
        ∀ r issued, .issue (.token r) (.ok issued) ∈ (moves.foldl (step auth) (ofStore s)).log →
          r.grantType ≠ some "refresh_token") ∧
      ∀ (r : TokenRequest) now fresh faults db app db', r.grantType = some "refresh_token" →
        (Authority.authenticate .token r.clientUid r.clientSecret).perform faults db =
          (.ok app, db') →
        ∃ e, (auth.token now fresh r).perform faults db = (.error e, db') ∧
          e.complaint = .validation "unsupported grant_type 'refresh_token'") := by
  refine ⟨fun henabled moves => ⟨?_, ?_⟩, fun hdisabled => ⟨?_, ?_, ?_⟩⟩
  · exact (paired_after henabled moves).exactly (sound_after auth moves).store
  · exact fun q v hv => exists_pair henabled hv
  · exact fun s q now fresh faults n => Authority.refreshTokens_answer hdisabled
  · intro s moves
    obtain ⟨hrows, hlast⟩ := (unrefreshed_ofStore auth s).foldl hdisabled moves
    exact ⟨hrows, hlast.log⟩
  · intro r now fresh faults db app db' htype hauth
    exact ⟨_, Authority.token_unsupported hdisabled htype hauth, rfl⟩

/-- After the race, tokens are paired; and when refresh tokens are disabled before the rotation, the
one that it asks for is left unused, and the request is refused as invalid. -/
theorem tokens_paired_race :
    (after Race.authority Race.moves).store.PairedExactly ∧
      ∃ u ∈ Race.exchanged.store.refreshTokens, some u.token = Race.rotation.refreshToken ∧
        u.revokedAt = none ∧
        ((Race.plain.answer .epoch (Race.fresh 4) (.token Race.rotation)).perform .none
          ⟨Race.exchanged.store, none, 0⟩).2.committed.refreshTokens =
            Race.exchanged.store.refreshTokens ∧
        ∃ e db, (Race.plain.token .epoch (Race.fresh 4) Race.rotation).perform .none
            ⟨Race.exchanged.store, none, 0⟩ = (.error e, db) ∧
          e.complaint = .validation "unsupported grant_type 'refresh_token'" := by
  obtain ⟨henabled, -⟩ := tokens_paired Race.authority
  obtain ⟨-, hdisabled⟩ := tokens_paired Race.plain
  obtain ⟨hanswer, -, hrefused⟩ := hdisabled rfl
  have hunused : ∃ u ∈ Race.exchanged.store.refreshTokens,
      some u.token = Race.rotation.refreshToken ∧ u.revokedAt = none := by decide +kernel
  obtain ⟨u, hu, htext, hnone⟩ := hunused
  refine ⟨(henabled rfl Race.moves).1, u, hu, htext, hnone, hanswer _ _ _ _ _ _, ?_⟩
  obtain ⟨e, he, hcomplaint⟩ := hrefused Race.rotation .epoch (Race.fresh 4) .none
    ⟨Race.exchanged.store, none, 0⟩ _ _ rfl rfl
  exact ⟨e, _, he, hcomplaint⟩

end Traffic

end OAuthGateway

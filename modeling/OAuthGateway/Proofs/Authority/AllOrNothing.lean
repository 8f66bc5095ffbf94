import OAuthGateway.Proofs.Authority.Move

/-!
# Proofs/Authority/AllOrNothing — a refusal has changed nothing

Every answer is a check, which only looks, and then one transaction; so whichever call fails, and
however late, an error leaves the database as it was (`Atomic.restored`): the credential that was
presented is as usable as before.  And since an access token and the refresh token that belongs to
it are added by one transaction, the two tables go in step (`Store.Paired`): no access token is
committed alone.
-/

namespace OAuthGateway

open Time Procedure

/-! ## Pairs -/

/-- The refresh tokens belong to the access tokens, one by one and in their order. -/
def Store.Paired (s : Store) : Prop :=
  s.refreshTokens.map (·.accessTokenId) = s.accessTokens.map (·.id)

variable {auth : Authority} {s s' : Store}

theorem Store.Paired.existsUnique (h : s.Paired) (hs : s.Sound) {t : AccessToken}
    (ht : t ∈ s.accessTokens) : ∃! u, u ∈ s.refreshTokens ∧ u.accessTokenId = t.id := by
  have hnodup : (s.refreshTokens.map (·.accessTokenId)).Nodup := h ▸ hs.accessTokens.nodup_ids
  have hmem : t.id ∈ s.refreshTokens.map (·.accessTokenId) := h ▸ List.mem_map_of_mem ht
  obtain ⟨u, hu, hbelongs⟩ := List.mem_map.1 hmem
  refine ⟨u, ⟨hu, hbelongs⟩, ?_⟩
  rintro u' ⟨hu', hbelongs'⟩
  exact List.inj_on_of_nodup_map hnodup hu' hu (hbelongs'.trans hbelongs.symm)

theorem Issues.paired {lifetimes : Lifetimes} {enabled : Bool} {now : Instant}
    {d : AccessTokenDraft} {text : String} {t : AccessToken} {u : Option RefreshToken}
    (h : Issues lifetimes enabled now d text s t u s') (henabled : enabled = true)
    (hs : s.Paired) : s'.Paired := by
  obtain ⟨u, rfl, hbelongs⟩ := h.exists_refreshToken henabled
  rw [Store.Paired, h.refreshTokens, h.accessTokens, List.map_append, List.map_append, hs]
  exact congrArg (fun id => s.accessTokens.map (·.id) ++ [id]) hbelongs

/-- **Where refresh tokens are enabled, no effect parts a pair.** -/
theorem Effect.paired {e : Event} (henabled : auth.refreshEnabled = true) (h : Effect auth s e s')
    (hs : s.Paired) : s'.Paired := by
  cases h with
  | refused => exact hs
  | code cleared added rows leads => subst rows; exact hs
  | token cleared issues => exact issues.paired henabled hs
  | exchange cleared marked issues =>
    obtain ⟨rows, -, rfl⟩ := Store.revokeGrant_ok marked
    exact issues.paired henabled hs
  | rotation cleared marked issues =>
    obtain ⟨rows, hamend, rfl⟩ := Store.revokeRefreshToken_ok marked
    refine issues.paired henabled (Eq.trans ?_ hs)
    exact Table.map_amend Row.accessTokenId_of_kept (Store.kept_revokedRefreshToken _) hamend
  | revocation withdrawn =>
    rw [Store.Paired, withdrawn.refreshTokens]
    exact Eq.trans hs (withdrawn.accessTokens Row.Kept.id_eq).symm
  | errand administered =>
    rw [Store.Paired, administered.refreshTokens, administered.accessTokens]
    exact hs

/-- **Pairs are never parted**, after any moves. -/
theorem Traffic.paired_after (henabled : auth.refreshEnabled = true) (moves : List Move) :
    (after auth moves).store.Paired :=
  after_effects (P := fun s _ => s.Paired) rfl (fun _ he hs => he.paired henabled hs) moves

namespace Authority

/-- **All or nothing**: whatever fails, an answer that is an error and a revocation that is an error
leave the database as it was; and where refresh tokens are enabled, every access token that was ever
committed has the refresh token that belongs to it. -/
theorem all_or_nothing (auth : Authority) :
    (∀ s faults n now fresh q e db,
      (auth.answer now fresh q).perform faults ⟨s, none, n⟩ = (.error e, db) →
        ∃ m, db = ⟨s, none, m⟩) ∧
      (∀ s faults n now r e db,
        (revokeToken now r).perform faults ⟨s, none, n⟩ = (.error e, db) →
          ∃ m, db = ⟨s, none, m⟩) ∧
      (auth.refreshEnabled = true → ∀ moves, ∀ t ∈ (Traffic.after auth moves).store.accessTokens,
        ∃! u, u ∈ (Traffic.after auth moves).store.refreshTokens ∧ u.accessTokenId = t.id) := by
  refine ⟨?_, ?_, ?_⟩
  · intro s faults n now fresh q e db h
    exact (auth.atomic_answer now fresh q).restored h
  · intro s faults n now r e db h
    exact (atomic_revokeToken now r).restored h
  · intro henabled moves t ht
    exact (Traffic.paired_after henabled moves).existsUnique
      (Traffic.sound_after auth moves).store ht

/-- A rotation whose commit fails has marked and added its rows, and they are gone; a revocation of
a token that does not exist changes nothing; and after the race every access token has its refresh
token. -/
theorem all_or_nothing_race :
    (∃ m, ((Race.authority.answer .epoch (Race.fresh 4) (.token Race.rotation)).perform
        Race.commitFails ⟨Race.exchanged.store, none, 0⟩).2 = ⟨Race.exchanged.store, none, m⟩) ∧
      (∃ m, ((revokeToken .epoch ⟨some "token1"⟩).perform .none
        ⟨Race.exchanged.store, none, 0⟩).2 = ⟨Race.exchanged.store, none, m⟩) ∧
      Race.authority.refreshEnabled = true ∧
      ∀ t ∈ (Traffic.after Race.authority Race.moves).store.accessTokens,
        ∃! u, u ∈ (Traffic.after Race.authority Race.moves).store.refreshTokens ∧
          u.accessTokenId = t.id := by
  obtain ⟨hanswer, hrevoke, hpairs⟩ := all_or_nothing Race.authority
  refine ⟨?_, ?_, rfl, hpairs rfl Race.moves⟩
  · exact hanswer Race.exchanged.store Race.commitFails 0 .epoch (Race.fresh 4)
      (.token Race.rotation) (.internal .rotation) _ rfl
  · exact hrevoke Race.exchanged.store .none 0 .epoch ⟨some "token1"⟩ (.unknown .token) _ rfl

end Authority

end OAuthGateway

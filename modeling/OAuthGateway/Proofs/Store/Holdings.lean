import OAuthGateway.Proofs.Store.History

/-!
# Proofs/Store/Holdings — what each application has in the store

An application holds its codes, its access tokens, and the refresh tokens bound to these
(`Store.holdings`).  A change of the store is `Confined` to an application when all other
applications hold what they held, and no application itself has changed.  Adding a row of the
application is confined to it, and so is amending one; and since every refresh token is bound to an
access token (`Leads.bound`), a row that is not in both stores is of that application
(`Confined.refreshTokens`).
-/

namespace OAuthGateway

open Time

namespace Table

variable {α : Type} {rows rows' : List α} {p q : α → Bool} {f : α → α}

theorem filter_append_of_not {news : List α} (h : ∀ a ∈ news, ¬ q a = true) (rows : List α) :
    (rows ++ news).filter q = rows.filter q := by
  rw [List.filter_append, List.filter_eq_nil_iff.2 h, List.append_nil]

/-- Amending rows leaves alone a choice of rows that has none of them, before and after. -/
theorem filter_amend (h : ∀ a ∈ rows, p a = true → ¬ q a = true ∧ ¬ q (f a) = true)
    (hamend : Store.amend p f rows = .ok rows') : rows'.filter q = rows.filter q := by
  obtain ⟨-, rfl⟩ := amend_eq_ok_iff.1 hamend
  clear hamend
  induction rows with
  | nil => rfl
  | cons a rows ih =>
    have ih := ih fun b hb => h b (List.mem_cons_of_mem _ hb)
    by_cases hp : p a = true
    · obtain ⟨hq, hq'⟩ := h a List.mem_cons_self hp
      rw [List.map_cons, if_pos hp, List.filter_cons_of_neg hq', List.filter_cons_of_neg hq, ih]
    · rw [List.map_cons, if_neg hp, List.filter_cons, List.filter_cons, ih]

end Table

/-- What an application holds. -/
structure Holdings where
  grants : List Grant
  accessTokens : List AccessToken
  refreshTokens : List RefreshToken
deriving DecidableEq

namespace Store

variable {s s' s'' : Store} {app other : Int}

/-- What an application holds: its codes, its access tokens, and the refresh tokens bound to these.
-/
def holdings (s : Store) (app : Int) : Holdings :=
  let tokens := s.accessTokens.filter (·.applicationId == app)
  ⟨s.grants.filter (·.applicationId == app), tokens,
    s.refreshTokens.filter fun u => tokens.any (·.id == u.accessTokenId)⟩

/-- An application holds the grants that name it. -/
theorem mem_holdings_grants {g : Grant} :
    g ∈ (s.holdings app).grants ↔ g ∈ s.grants ∧ g.applicationId = app := by
  simp [holdings]

/-- An application holds the access tokens that name it. -/
theorem mem_holdings_accessTokens {t : AccessToken} :
    t ∈ (s.holdings app).accessTokens ↔ t ∈ s.accessTokens ∧ t.applicationId = app := by
  simp [holdings]

/-- An application holds the refresh tokens that are bound to its access tokens. -/
theorem mem_holdings_refreshTokens {u : RefreshToken} :
    u ∈ (s.holdings app).refreshTokens ↔ u ∈ s.refreshTokens ∧
      ∃ t ∈ (s.holdings app).accessTokens, t.id = u.accessTokenId := by
  rw [holdings, List.mem_filter, List.any_eq_true]
  simp only [beq_iff_eq]

/-! ## Confined changes

Changes confined to one application may be chained.  Adding rows of an application and revoking them
by their texts are such changes. -/

/-- No application has changed, and all but one hold what they held. -/
structure Confined (app : Int) (s s' : Store) : Prop where
  applications : s'.applications = s.applications
  holdings : ∀ other, other ≠ app → s'.holdings other = s.holdings other

namespace Confined

theorem refl (app : Int) (s : Store) : Confined app s s := ⟨rfl, fun _ _ => rfl⟩

theorem trans (h : Confined app s s') (h' : Confined app s' s'') : Confined app s s'' :=
  ⟨h'.applications.trans h.applications,
    fun other hother => (h'.holdings other hother).trans (h.holdings other hother)⟩

/-- Adding grants of an application is confined to it. -/
theorem addGrants {news : List Grant} (h : ∀ g ∈ news, g.applicationId = app) (s : Store) :
    Confined app s { s with grants := s.grants ++ news } := by
  refine ⟨rfl, fun other hother => ?_⟩
  rw [Store.holdings, Store.holdings, Table.filter_append_of_not]
  intro g hg hof
  exact hother ((beq_iff_eq.1 hof).symm.trans (h g hg))

/-- Adding access tokens of an application is confined to it. -/
theorem addAccessTokens {news : List AccessToken} (h : ∀ t ∈ news, t.applicationId = app)
    (s : Store) : Confined app s { s with accessTokens := s.accessTokens ++ news } := by
  refine ⟨rfl, fun other hother => ?_⟩
  rw [Store.holdings, Store.holdings, Table.filter_append_of_not]
  intro t ht hof
  exact hother ((beq_iff_eq.1 hof).symm.trans (h t ht))

/-- Adding refresh tokens for access tokens of an application is confined to it. -/
theorem addRefreshTokens {news : List RefreshToken}
    (h : ∀ u ∈ news, ∀ t ∈ s.accessTokens, t.id = u.accessTokenId → t.applicationId = app) :
    Confined app s { s with refreshTokens := s.refreshTokens ++ news } := by
  refine ⟨rfl, fun other hother => ?_⟩
  rw [Store.holdings, Store.holdings, Table.filter_append_of_not]
  intro u hu hof
  obtain ⟨t, ht, hid⟩ := List.any_eq_true.1 hof
  obtain ⟨ht, htother⟩ := mem_holdings_accessTokens.1 ht
  exact hother (htother.symm.trans (h u hu t ht (beq_iff_eq.1 hid)))

/-- Revoking a code of an application is confined to it. -/
theorem revokeGrant {code : String} {moment : Instant}
    (h : s.revokeGrant code moment = .ok ((), s'))
    (hof : ∀ g ∈ s.grants, g.code = code → g.applicationId = app) : Confined app s s' := by
  obtain ⟨rows, hamend, rfl⟩ := revokeGrant_ok h
  refine ⟨rfl, fun other hother => ?_⟩
  rw [Store.holdings, Store.holdings, Table.filter_amend (fun g hg husable => ?_) hamend]
  have hne : ¬ (g.applicationId == other) = true := fun hgother =>
    hother ((beq_iff_eq.1 hgother).symm.trans (hof g hg (Row.isUsable_iff.1 husable).1))
  exact ⟨hne, hne⟩

/-- Revoking a refresh token of an application is confined to it. -/
theorem revokeRefreshToken {text : String} {moment : Instant}
    (h : s.revokeRefreshToken text moment = .ok ((), s'))
    (hof : ∀ u ∈ s.refreshTokens, u.token = text →
      ∀ t ∈ s.accessTokens, t.id = u.accessTokenId → t.applicationId = app) :
    Confined app s s' := by
  obtain ⟨rows, hamend, rfl⟩ := revokeRefreshToken_ok h
  refine ⟨rfl, fun other hother => ?_⟩
  rw [Store.holdings, Store.holdings, Table.filter_amend (fun u hu husable => ?_) hamend]
  have hne : ¬ ((s.holdings other).accessTokens.any (·.id == u.accessTokenId)) = true := by
    intro hany
    obtain ⟨t, ht, hid⟩ := List.any_eq_true.1 hany
    obtain ⟨ht, htother⟩ := mem_holdings_accessTokens.1 ht
    exact hother (htother.symm.trans
      (hof u hu (Row.isUsable_iff.1 husable).1 t ht (beq_iff_eq.1 hid)))
  exact ⟨hne, hne⟩

/-! ### Whose rows have changed -/

theorem grants (h : Confined app s s') (g : Grant) :
    (g ∈ s.grants ↔ g ∈ s'.grants) ∨ g.applicationId = app := by
  by_cases hof : g.applicationId = app
  · exact .inr hof
  · have hholdings := congrArg (g ∈ ·.grants) (h.holdings _ hof)
    simp only [mem_holdings_grants, and_true] at hholdings
    exact .inl hholdings.symm.to_iff

theorem accessTokens (h : Confined app s s') (t : AccessToken) :
    (t ∈ s.accessTokens ↔ t ∈ s'.accessTokens) ∨ t.applicationId = app := by
  by_cases hof : t.applicationId = app
  · exact .inr hof
  · have hholdings := congrArg (t ∈ ·.accessTokens) (h.holdings _ hof)
    simp only [mem_holdings_accessTokens, and_true] at hholdings
    exact .inl hholdings.symm.to_iff

end Confined

/-! ## Every refresh token is bound

A refresh token does not name its application; the access token that it is bound to does, and is
always there. -/

/-- The refresh tokens are bound to access tokens that are there. -/
def Bound (s : Store) : Prop := s.refreshTokens.map (·.accessTokenId) ⊆ s.accessTokens.map (·.id)

theorem Bound.exists_accessToken (h : s.Bound) {u : RefreshToken} (hu : u ∈ s.refreshTokens) :
    ∃ t ∈ s.accessTokens, t.id = u.accessTokenId :=
  List.mem_map.1 (h (List.mem_map_of_mem hu))

theorem bound_empty : empty.Bound := List.nil_subset _

/-- A refresh token is added only for an access token that is there. -/
theorem exists_of_addRefreshToken {d : RefreshTokenDraft} {id : Int}
    (h : s.addRefreshToken d = .ok (id, s')) : ∃ t ∈ s.accessTokens, t.id = d.accessTokenId := by
  rw [addRefreshToken] at h
  split at h <;> rename_i hnew
  · cases h
  · rw [Bool.or_eq_true, not_or, Bool.not_eq_true', Bool.not_eq_false] at hnew
    simpa [hasAccessToken] using hnew.2

theorem Grows.map_id_subset (h : Grows s s') :
    s.accessTokens.map (·.id) ⊆ s'.accessTokens.map (·.id) :=
  h.accessTokens.map_id_subset

/-- A statement leaves every refresh token bound. -/
theorem Step.bound (h : Step s s') (hs : s.Bound) : s'.Bound := by
  have hgrows := h.grows.map_id_subset
  cases h with
  | addApplication h => obtain ⟨-, -, rfl⟩ := addApplication_ok h; exact hs
  | updateApplication h => obtain ⟨rows, -, rfl⟩ := updateApplication_ok h; exact hs
  | revokeApplication h => obtain ⟨rows, -, rfl⟩ := revokeApplication_ok h; exact hs
  | addGrant h => obtain ⟨-, -, rfl⟩ := addGrant_ok h; exact hs
  | revokeGrant h => obtain ⟨rows, -, rfl⟩ := revokeGrant_ok h; exact hs
  | addAccessToken h =>
    obtain ⟨-, -, rfl⟩ := addAccessToken_ok h
    exact List.Subset.trans hs hgrows
  | revokeAccessToken h =>
    obtain ⟨rows, -, rfl⟩ := revokeAccessToken_ok h
    exact List.Subset.trans hs hgrows
  | addRefreshToken h =>
    have hnew := exists_of_addRefreshToken h
    obtain ⟨-, -, rfl⟩ := addRefreshToken_ok h
    rw [Bound, List.map_append, List.append_subset]
    refine ⟨hs, List.cons_subset.2 ⟨List.mem_map.2 hnew, List.nil_subset _⟩⟩
  | revokeRefreshToken h =>
    obtain ⟨rows, hamend, rfl⟩ := revokeRefreshToken_ok h
    have hsame := Table.map_amend Row.accessTokenId_of_kept (kept_revokedRefreshToken _) hamend
    rw [Bound, hsame]
    exact hs

/-- **Every refresh token is bound to an access token.** -/
theorem Leads.bound (h : s.Leads s') (hs : s.Bound) : s'.Bound := by
  induction h with
  | refl => exact hs
  | tail _ hstep ih => exact hstep.bound ih

/-- **A refresh token that came or changed is bound to an access token of the application.** -/
theorem Confined.refreshTokens (h : Confined app s s') (hleads : s.Leads s') (hs : s.Bound)
    (u : RefreshToken) : (u ∈ s.refreshTokens ↔ u ∈ s'.refreshTokens) ∨
      ∃ t ∈ s'.accessTokens, t.id = u.accessTokenId ∧ t.applicationId = app := by
  by_cases hu : u ∈ s.refreshTokens ∨ u ∈ s'.refreshTokens
  · have hid : u.accessTokenId ∈ s'.accessTokens.map (·.id) := by
      rcases hu with hu | hu
      · exact hleads.grows.map_id_subset (hs (List.mem_map_of_mem hu))
      · exact hleads.bound hs (List.mem_map_of_mem hu)
    obtain ⟨t, ht, hid⟩ := List.mem_map.1 hid
    by_cases hof : t.applicationId = app
    · exact .inr ⟨t, ht, hid, hof⟩
    · -- the application of `t` holds the same tokens before and after
      have hsame := h.holdings _ hof
      have hheld : ∃ t' ∈ (s'.holdings t.applicationId).accessTokens, t'.id = u.accessTokenId :=
        ⟨t, mem_holdings_accessTokens.2 ⟨ht, rfl⟩, hid⟩
      refine .inl ?_
      calc u ∈ s.refreshTokens ↔ u ∈ (s.holdings t.applicationId).refreshTokens := by
            rw [mem_holdings_refreshTokens, ← hsame, and_iff_left hheld]
        _ ↔ u ∈ (s'.holdings t.applicationId).refreshTokens := by rw [hsame]
        _ ↔ u ∈ s'.refreshTokens := by rw [mem_holdings_refreshTokens, and_iff_left hheld]
  · rw [not_or] at hu
    exact .inl ⟨fun h => absurd h hu.1, fun h => absurd h hu.2⟩

/-- A confined change: no application has changed, all others hold what they held, and every row
that only one of the stores has is of the application. -/
structure ChangedFor (app : Int) (s s' : Store) : Prop extends Confined app s s' where
  grants : ∀ g, (g ∈ s.grants ↔ g ∈ s'.grants) ∨ g.applicationId = app
  accessTokens : ∀ t, (t ∈ s.accessTokens ↔ t ∈ s'.accessTokens) ∨ t.applicationId = app
  refreshTokens : ∀ u, (u ∈ s.refreshTokens ↔ u ∈ s'.refreshTokens) ∨
    ∃ t ∈ s'.accessTokens, t.id = u.accessTokenId ∧ t.applicationId = app

/-- **A confined change by statements changes rows of the application only.** -/
theorem Confined.changedFor (h : Confined app s s') (hs : Store.empty.Leads s)
    (hleads : s.Leads s') : ChangedFor app s s' :=
  ⟨h, h.grants, h.accessTokens, h.refreshTokens hleads (hs.bound bound_empty)⟩

end Store

end OAuthGateway

import Mathlib.Logic.Relation
import OAuthGateway.Proofs.Bind
import OAuthGateway.Proofs.Store.Table

/-!
# Proofs/Store/History — what any sequence of statements leaves of a store

A `Step` is one statement that changes rows, with any arguments, and a store `Leads` to another when
steps take it there; whatever an operation commits, it commits by steps.  Along them a store stays
`Sound` and only `Grows` (`Leads.sound`, `Leads.grows`): a row looked up once is found again with
the same fixed columns, and at most a revocation more.
-/

namespace OAuthGateway

open Time

namespace Store

variable {s s' s'' : Store}

/-! ## Statements, read backwards

An added row is new in its unique text and gets the next id; a statement that revokes by text has
amended the usable rows of that text. -/

section Statements

variable {id : Int} {moment : Instant}

/-- A new application has a client identifier of its own and the next id, and stands last. -/
theorem addApplication_ok {d : ApplicationDraft} (h : s.addApplication d = .ok (id, s')) :
    (∀ a ∈ s.applications, a.clientUid ≠ d.clientUid) ∧ id = nextId s.applications ∧
      s' = { s with applications := s.applications ++ [d.row id] } := by
  rw [addApplication] at h
  split at h <;> rename_i hnew
  · cases h
  · cases h
    exact ⟨by simpa using hnew, rfl, rfl⟩

/-- A new grant has a code of its own and the next id, and stands last. -/
theorem addGrant_ok {d : GrantDraft} (h : s.addGrant d = .ok (id, s')) :
    (∀ g ∈ s.grants, g.code ≠ d.code) ∧ id = nextId s.grants ∧
      s' = { s with grants := s.grants ++ [d.row id] } := by
  rw [addGrant] at h
  split at h <;> rename_i hnew
  · cases h
  · cases h
    rw [Bool.or_eq_true, not_or] at hnew
    exact ⟨by simpa using hnew.1, rfl, rfl⟩

/-- A new access token has a text of its own and the next id, and stands last. -/
theorem addAccessToken_ok {d : AccessTokenDraft} (h : s.addAccessToken d = .ok (id, s')) :
    (∀ t ∈ s.accessTokens, t.token ≠ d.token) ∧ id = nextId s.accessTokens ∧
      s' = { s with accessTokens := s.accessTokens ++ [d.row id] } := by
  rw [addAccessToken] at h
  split at h <;> rename_i hnew
  · cases h
  · cases h
    rw [Bool.or_eq_true, not_or] at hnew
    exact ⟨by simpa using hnew.1, rfl, rfl⟩

/-- A new refresh token has a text of its own and the next id, and stands last. -/
theorem addRefreshToken_ok {d : RefreshTokenDraft} (h : s.addRefreshToken d = .ok (id, s')) :
    (∀ u ∈ s.refreshTokens, u.token ≠ d.token) ∧ id = nextId s.refreshTokens ∧
      s' = { s with refreshTokens := s.refreshTokens ++ [d.row id] } := by
  rw [addRefreshToken] at h
  split at h <;> rename_i hnew
  · cases h
  · cases h
    rw [Bool.or_eq_true, not_or] at hnew
    exact ⟨by simpa using hnew.1, rfl, rfl⟩

/-- An update amends the row with the id, and no other table. -/
theorem updateApplication_ok {c : ApplicationChanges}
    (h : s.updateApplication id c = .ok ((), s')) :
    ∃ rows, amend (fun a => Row.id a == id) (changed c) s.applications = .ok rows ∧
      s' = { s with applications := rows } := by
  obtain ⟨rows, hrows, hs⟩ := exists_of_bind_eq_ok h
  cases hs
  exact ⟨rows, hrows, rfl⟩

/-- A revocation amends the row with the id, if it was not revoked before. -/
theorem revokeApplication_ok (h : s.revokeApplication id moment = .ok ((), s')) :
    ∃ rows, amend (fun a => Row.id a == id && a.revokedAt.isNone)
        (fun a => { a with revokedAt := some moment, updatedAt := moment }) s.applications
      = .ok rows ∧ s' = { s with applications := rows } := by
  obtain ⟨rows, hrows, hs⟩ := exists_of_bind_eq_ok h
  cases hs
  exact ⟨rows, hrows, rfl⟩

/-- A grant is revoked by its code, if it was usable. -/
theorem revokeGrant_ok {code : String} (h : s.revokeGrant code moment = .ok ((), s')) :
    ∃ rows, amend (Row.isUsable code) (fun g => { g with revokedAt := some moment }) s.grants
      = .ok rows ∧ s' = { s with grants := rows } := by
  obtain ⟨rows, hrows, hs⟩ := exists_of_bind_eq_ok h
  cases hs
  exact ⟨rows, hrows, rfl⟩

/-- An access token is revoked by its text, if it was usable. -/
theorem revokeAccessToken_ok {token : String}
    (h : s.revokeAccessToken token moment = .ok ((), s')) :
    ∃ rows, amend (Row.isUsable token) (fun t => { t with revokedAt := some moment })
        s.accessTokens
      = .ok rows ∧ s' = { s with accessTokens := rows } := by
  obtain ⟨rows, hrows, hs⟩ := exists_of_bind_eq_ok h
  cases hs
  exact ⟨rows, hrows, rfl⟩

/-- A refresh token is revoked by its text, if it was usable. -/
theorem revokeRefreshToken_ok {token : String}
    (h : s.revokeRefreshToken token moment = .ok ((), s')) :
    ∃ rows, amend (Row.isUsable token) (fun t => { t with revokedAt := some moment })
        s.refreshTokens
      = .ok rows ∧ s' = { s with refreshTokens := rows } := by
  obtain ⟨rows, hrows, hs⟩ := exists_of_bind_eq_ok h
  cases hs
  exact ⟨rows, hrows, rfl⟩

end Statements

/-! ## Histories

A step is a statement that was carried out, with whatever arguments; a history is any number of
steps.  What histories keep is proved for one step and carried along. -/

/-- One statement that changed rows. -/
inductive Step : Store → Store → Prop
  | addApplication {s s' d id} : s.addApplication d = .ok (id, s') → Step s s'
  | updateApplication {s s' id c} : s.updateApplication id c = .ok ((), s') → Step s s'
  | revokeApplication {s s' id m} : s.revokeApplication id m = .ok ((), s') → Step s s'
  | addGrant {s s' d id} : s.addGrant d = .ok (id, s') → Step s s'
  | revokeGrant {s s' code m} : s.revokeGrant code m = .ok ((), s') → Step s s'
  | addAccessToken {s s' d id} : s.addAccessToken d = .ok (id, s') → Step s s'
  | revokeAccessToken {s s' token m} : s.revokeAccessToken token m = .ok ((), s') → Step s s'
  | addRefreshToken {s s' d id} : s.addRefreshToken d = .ok (id, s') → Step s s'
  | revokeRefreshToken {s s' token m} : s.revokeRefreshToken token m = .ok ((), s') → Step s s'

/-- Statements, in any number and with any arguments, take the first store to the second. -/
def Leads : Store → Store → Prop := Relation.ReflTransGen Step

/-- Every table is sound. -/
structure Sound (s : Store) : Prop where
  applications : Table.Sound s.applications
  grants : Table.Sound s.grants
  accessTokens : Table.Sound s.accessTokens
  refreshTokens : Table.Sound s.refreshTokens

/-- Every table grows. -/
structure Grows (s s' : Store) : Prop where
  applications : Table.Grows s.applications s'.applications
  grants : Table.Grows s.grants s'.grants
  accessTokens : Table.Grows s.accessTokens s'.accessTokens
  refreshTokens : Table.Grows s.refreshTokens s'.refreshTokens

/-- The store without rows is sound. -/
theorem sound_empty : empty.Sound :=
  ⟨Table.sound_nil, Table.sound_nil, Table.sound_nil, Table.sound_nil⟩

theorem Grows.refl (s : Store) : Grows s s := ⟨.refl _, .refl _, .refl _, .refl _⟩

theorem Grows.trans (h : Grows s s') (h' : Grows s' s'') : Grows s s'' :=
  ⟨h.applications.trans h'.applications, h.grants.trans h'.grants,
    h.accessTokens.trans h'.accessTokens, h.refreshTokens.trans h'.refreshTokens⟩

/-! ### One statement

A statement that amends rows keeps them: what it sets is no fixed column, and it revokes only what
is not revoked. -/

/-- What an update sets is not fixed, and it revokes nothing. -/
theorem kept_changed (c : ApplicationChanges) (a : Application) : Row.Kept a (changed c a) :=
  ⟨rfl, id⟩

/-- Revoking an application that is not revoked sets nothing that is fixed. -/
theorem kept_revokedApplication {p : Application → Bool} (m : Instant) (a : Application)
    (h : (p a && a.revokedAt.isNone) = true) :
    Row.Kept a { a with revokedAt := some m, updatedAt := m } :=
  .of_unrevoked rfl (Option.isNone_iff_eq_none.1 (Bool.and_eq_true _ _ ▸ h).2)

theorem kept_revokedGrant {k : String} (m : Instant) (g : Grant) (h : Row.isUsable k g = true) :
    Row.Kept g { g with revokedAt := some m } :=
  .of_unrevoked rfl (Row.isUsable_iff.1 h).2

theorem kept_revokedAccessToken {k : String} (m : Instant) (t : AccessToken)
    (h : Row.isUsable k t = true) : Row.Kept t { t with revokedAt := some m } :=
  .of_unrevoked rfl (Row.isUsable_iff.1 h).2

theorem kept_revokedRefreshToken {k : String} (m : Instant) (u : RefreshToken)
    (h : Row.isUsable k u = true) : Row.Kept u { u with revokedAt := some m } :=
  .of_unrevoked rfl (Row.isUsable_iff.1 h).2

/-- **A statement adds rows at the end, and keeps those that are there.** -/
theorem Step.grows (h : Step s s') : Grows s s' := by
  cases h with
  | addApplication h =>
    obtain ⟨-, -, rfl⟩ := addApplication_ok h
    exact { Grows.refl s with applications := .append _ _ }
  | updateApplication h =>
    obtain ⟨rows, hrows, rfl⟩ := updateApplication_ok h
    exact { Grows.refl s with applications := .amend (fun a _ => kept_changed _ a) hrows }
  | revokeApplication h =>
    obtain ⟨rows, hrows, rfl⟩ := revokeApplication_ok h
    exact { Grows.refl s with applications := .amend (kept_revokedApplication _) hrows }
  | addGrant h =>
    obtain ⟨-, -, rfl⟩ := addGrant_ok h
    exact { Grows.refl s with grants := .append _ _ }
  | revokeGrant h =>
    obtain ⟨rows, hrows, rfl⟩ := revokeGrant_ok h
    exact { Grows.refl s with grants := .amend (kept_revokedGrant _) hrows }
  | addAccessToken h =>
    obtain ⟨-, -, rfl⟩ := addAccessToken_ok h
    exact { Grows.refl s with accessTokens := .append _ _ }
  | revokeAccessToken h =>
    obtain ⟨rows, hrows, rfl⟩ := revokeAccessToken_ok h
    exact { Grows.refl s with accessTokens := .amend (kept_revokedAccessToken _) hrows }
  | addRefreshToken h =>
    obtain ⟨-, -, rfl⟩ := addRefreshToken_ok h
    exact { Grows.refl s with refreshTokens := .append _ _ }
  | revokeRefreshToken h =>
    obtain ⟨rows, hrows, rfl⟩ := revokeRefreshToken_ok h
    exact { Grows.refl s with refreshTokens := .amend (kept_revokedRefreshToken _) hrows }

/-- **A statement leaves a sound store sound.** -/
theorem Step.sound (h : Step s s') (hs : s.Sound) : s'.Sound := by
  cases h with
  | addApplication h =>
    obtain ⟨hnew, rfl, rfl⟩ := addApplication_ok h
    exact { hs with applications := hs.applications.append rfl hnew }
  | updateApplication h =>
    obtain ⟨rows, hrows, rfl⟩ := updateApplication_ok h
    exact { hs with applications := hs.applications.amend (fun a _ => kept_changed _ a) hrows }
  | revokeApplication h =>
    obtain ⟨rows, hrows, rfl⟩ := revokeApplication_ok h
    exact { hs with applications := hs.applications.amend (kept_revokedApplication _) hrows }
  | addGrant h =>
    obtain ⟨hnew, rfl, rfl⟩ := addGrant_ok h
    exact { hs with grants := hs.grants.append rfl hnew }
  | revokeGrant h =>
    obtain ⟨rows, hrows, rfl⟩ := revokeGrant_ok h
    exact { hs with grants := hs.grants.amend (kept_revokedGrant _) hrows }
  | addAccessToken h =>
    obtain ⟨hnew, rfl, rfl⟩ := addAccessToken_ok h
    exact { hs with accessTokens := hs.accessTokens.append rfl hnew }
  | revokeAccessToken h =>
    obtain ⟨rows, hrows, rfl⟩ := revokeAccessToken_ok h
    exact { hs with accessTokens := hs.accessTokens.amend (kept_revokedAccessToken _) hrows }
  | addRefreshToken h =>
    obtain ⟨hnew, rfl, rfl⟩ := addRefreshToken_ok h
    exact { hs with refreshTokens := hs.refreshTokens.append rfl hnew }
  | revokeRefreshToken h =>
    obtain ⟨rows, hrows, rfl⟩ := revokeRefreshToken_ok h
    exact { hs with refreshTokens := hs.refreshTokens.amend (kept_revokedRefreshToken _) hrows }

/-! ### Any number of statements

Histories are chained, and every property of a step that is reflexive and transitive holds along
them. -/

namespace Leads

theorem refl (s : Store) : Leads s s := Relation.ReflTransGen.refl

theorem trans (h : Leads s s') (h' : Leads s' s'') : Leads s s'' := Relation.ReflTransGen.trans h h'

theorem single (h : Step s s') : Leads s s' := Relation.ReflTransGen.single h

/-- **Soundness survives every history.** -/
theorem sound (h : Leads s s') (hs : s.Sound) : s'.Sound := by
  induction h with
  | refl => exact hs
  | tail _ hstep ih => exact hstep.sound ih

/-- **Every history only grows the tables.** -/
theorem grows (h : Leads s s') : Grows s s' := by
  induction h with
  | refl => exact .refl s
  | tail _ hstep ih => exact ih.trans hstep.grows

end Leads

/-! ## Lookups

In a sound store a lookup answers the one row that fits. -/

section Lookups

variable (hs : s.Sound)

include hs

/-- Credentials resolve to the application that has both and is not revoked. -/
theorem client_eq_ok_iff {uid secret : String} {a : Application} :
    s.client uid secret = .ok a ↔ a ∈ s.applications ∧ a.clientUid = uid ∧
      a.clientSecret = secret ∧ a.revokedAt = none := by
  rw [client, Table.found_eq_ok_iff]
  constructor
  · intro h
    have hfits := List.find?_some h
    simp only [Bool.and_eq_true, beq_iff_eq, Option.isNone_iff_eq_none] at hfits
    exact ⟨List.mem_of_find?_eq_some h, hfits.1.1, hfits.1.2, hfits.2⟩
  · rintro ⟨ha, rfl, rfl, hlive⟩
    refine Table.find?_eq_some_of_unique ha (by simp [hlive]) fun b hb hfits => ?_
    simp only [Bool.and_eq_true, beq_iff_eq] at hfits
    exact hs.applications.eq_of_key_eq hb ha hfits.1.1

/-- A lookup by id finds the one application that has it. -/
theorem application_eq_ok_iff {id : Int} {a : Application} :
    s.application id = .ok a ↔ a ∈ s.applications ∧ a.id = id :=
  Table.found_eq_ok_iff.trans hs.applications.find?_id_iff

theorem grant_eq_ok_iff {id : Int} {g : Grant} :
    s.grant id = .ok g ↔ g ∈ s.grants ∧ g.id = id :=
  Table.found_eq_ok_iff.trans hs.grants.find?_id_iff

/-- A lookup by code finds the one grant that has it, revoked or not. -/
theorem grantOfCode_eq_ok_iff {code : String} {g : Grant} :
    s.grantOfCode code = .ok g ↔ g ∈ s.grants ∧ g.code = code :=
  Table.found_eq_ok_iff.trans hs.grants.find?_key_iff

theorem accessToken_eq_ok_iff {id : Int} {t : AccessToken} :
    s.accessToken id = .ok t ↔ t ∈ s.accessTokens ∧ t.id = id :=
  Table.found_eq_ok_iff.trans hs.accessTokens.find?_id_iff

theorem refreshToken_eq_ok_iff {id : Int} {u : RefreshToken} :
    s.refreshToken id = .ok u ↔ u ∈ s.refreshTokens ∧ u.id = id :=
  Table.found_eq_ok_iff.trans hs.refreshTokens.find?_id_iff

/-- A lookup by text finds the one refresh token that has it, revoked or not. -/
theorem refreshTokenOfText_eq_ok_iff {token : String} {u : RefreshToken} :
    s.refreshTokenOfText token = .ok u ↔ u ∈ s.refreshTokens ∧ u.token = token :=
  Table.found_eq_ok_iff.trans hs.refreshTokens.find?_key_iff

/-- A code that is revoked is not revoked again. -/
theorem revokeGrant_revoked {code : String} {g : Grant} (hfound : s.grantOfCode code = .ok g)
    (hrevoked : g.revokedAt.isSome = true) (moment : Instant) :
    s.revokeGrant code moment = .error .notFound := by
  obtain ⟨hg, rfl⟩ := (grantOfCode_eq_ok_iff hs).1 hfound
  rw [revokeGrant]
  exact congrArg (· >>= _) (hs.grants.amend_revoked hg hrevoked _)

/-- A refresh token that is revoked is not revoked again. -/
theorem revokeRefreshToken_revoked {token : String} {u : RefreshToken}
    (hfound : s.refreshTokenOfText token = .ok u) (hrevoked : u.revokedAt.isSome = true)
    (moment : Instant) : s.revokeRefreshToken token moment = .error .notFound := by
  obtain ⟨hu, rfl⟩ := (refreshTokenOfText_eq_ok_iff hs).1 hfound
  rw [revokeRefreshToken]
  exact congrArg (· >>= _) (hs.refreshTokens.amend_revoked hu hrevoked _)

end Lookups

/-! ## Lookups along a history

What was found once is found again, with the same fixed columns. -/

namespace Leads

variable (h : s.Leads s') (hs : s.Sound)

include h hs

/-- A code that was found is found for good. -/
theorem grantOfCode {code : String} {g : Grant} (hfound : s.grantOfCode code = .ok g) :
    ∃ g', s'.grantOfCode code = .ok g' ∧ Row.Kept g g' := by
  obtain ⟨hg, hcode⟩ := (grantOfCode_eq_ok_iff hs).1 hfound
  obtain ⟨g', hg', hkept⟩ := h.grows.grants.exists_kept hg
  exact ⟨g', (grantOfCode_eq_ok_iff (h.sound hs)).2 ⟨hg', hkept.key_eq.trans hcode⟩, hkept⟩

/-- A refresh token that was found is found for good. -/
theorem refreshTokenOfText {token : String} {u : RefreshToken}
    (hfound : s.refreshTokenOfText token = .ok u) :
    ∃ u', s'.refreshTokenOfText token = .ok u' ∧ Row.Kept u u' := by
  obtain ⟨hu, htext⟩ := (refreshTokenOfText_eq_ok_iff hs).1 hfound
  obtain ⟨u', hu', hkept⟩ := h.grows.refreshTokens.exists_kept hu
  exact ⟨u', (refreshTokenOfText_eq_ok_iff (h.sound hs)).2 ⟨hu', hkept.key_eq.trans htext⟩, hkept⟩

/-- An access token that was found is found for good. -/
theorem accessToken {id : Int} {t : AccessToken} (hfound : s.accessToken id = .ok t) :
    ∃ t', s'.accessToken id = .ok t' ∧ Row.Kept t t' := by
  obtain ⟨ht, hid⟩ := (accessToken_eq_ok_iff hs).1 hfound
  obtain ⟨t', ht', hkept⟩ := h.grows.accessTokens.exists_kept ht
  exact ⟨t', (accessToken_eq_ok_iff (h.sound hs)).2 ⟨ht', hkept.id_eq.trans hid⟩, hkept⟩

/-- The credentials of a client name one application for good. -/
theorem client_id_eq {uid secret secret' : String} {a a' : Application}
    (hfound : s.client uid secret = .ok a) (hfound' : s'.client uid secret' = .ok a') :
    a'.id = a.id := by
  obtain ⟨ha, huid, -⟩ := (client_eq_ok_iff hs).1 hfound
  obtain ⟨ha', huid', -⟩ := (client_eq_ok_iff (h.sound hs)).1 hfound'
  obtain ⟨b, hb, hkept⟩ := h.grows.applications.exists_kept ha
  have hkey : Row.key a' = Row.key b := huid'.trans (huid.symm.trans hkept.key_eq.symm)
  rw [(h.sound hs).applications.eq_of_key_eq ha' hb hkey]
  exact hkept.id_eq

end Leads

end Store

end OAuthGateway

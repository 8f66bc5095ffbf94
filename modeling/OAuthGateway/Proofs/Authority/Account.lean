import OAuthGateway.Proofs.Authority.Move

/-!
# Proofs/Authority/Account — the log accounts for the rows

Every row of a credential and every revocation of one stands behind an answer.  A code is spent when
an exchange of it has succeeded, a refresh token when a rotation of it has (`exchanges_eq_spent`,
`rotations_eq_spent`).  The codes and access tokens of the store, in the order of their ids, are
those that the answers showed, in the order of the answers, with all that is fixed in them
(`fixed_grants_answered`, `fixed_accessTokens_answered`); and so are the refresh tokens, with the
access tokens that they belong to (`bonds_answered`).

Each account is kept by every `Effect`, so it holds after any moves.
-/

namespace OAuthGateway

open Time Procedure

/-! ## What an answer says

Of an answer three things are told: what it redeemed, what it issued, and which refresh token it
gave to which access token. -/

/-- What access tokens are issued for. -/
inductive Source where
  | implicit
  | code (code : String)
  | refresh (text : String)
deriving DecidableEq

/-- What a token request redeems. -/
def TokenRequest.source (r : TokenRequest) : Option Source :=
  if r.grantType = some "authorization_code" then r.code.map .code
  else if r.grantType = some "refresh_token" then r.refreshToken.map .refresh
  else none

namespace Event

/-- What tokens were issued for, if the answer issued any. -/
def source : Event → Option Source
  | issue (.token r) (.ok _) => r.source
  | issue _ (.ok (.token _)) => some .implicit
  | _ => none

/-- An exchange of the code has succeeded. -/
def exchanges (code : String) (e : Event) : Bool := e.source == some (.code code)

/-- A rotation of the refresh token has succeeded. -/
def rotates (text : String) (e : Event) : Bool := e.source == some (.refresh text)

/-- The access token that was answered. -/
def accessToken : Event → Option String
  | issue _ (.ok (.token v)) => some v.token
  | _ => none

/-- The refresh token that was answered. -/
def refreshToken : Event → Option String
  | issue _ (.ok (.token v)) => v.refreshToken
  | _ => none

/-- The view of a code that was answered. -/
def grantView : Event → Option GrantView
  | issue _ (.ok (.grant v)) => some v
  | _ => none

/-- The view of an access token that was answered. -/
def tokenView : Event → Option AccessTokenView
  | issue _ (.ok (.token v)) => some v
  | _ => none

/-- The refresh token that was answered, with the id of the access token that it belongs to. -/
def bond (e : Event) : Option (Int × String) :=
  e.tokenView.bind fun v => v.refreshToken.map fun text => (v.id, text)

theorem accessToken_eq (e : Event) : e.accessToken = e.tokenView.map (·.token) := by
  rcases e with ⟨q, e | v | v⟩ | _ | _ <;> rfl

theorem refreshToken_eq (e : Event) : e.refreshToken = e.bond.map (·.2) := by
  rcases e with ⟨q, e | v | v⟩ | _ | _
  · rfl
  · rfl
  · change v.refreshToken = (v.refreshToken.map fun text => (v.id, text)).map (·.2)
    cases v.refreshToken <;> rfl
  · rfl
  · rfl

/-- Only the answer to a grant request shows a code. -/
theorem exists_of_grantView {e : Event} {v : GrantView} (h : e.grantView = some v) :
    ∃ q, e = .issue q (.ok (.grant v)) := by
  rcases e with ⟨q, e | v' | v'⟩ | _ | _ <;> cases h
  exact ⟨q, rfl⟩

/-- Only an answer that issues shows an access token. -/
theorem exists_of_tokenView {e : Event} {v : AccessTokenView} (h : e.tokenView = some v) :
    ∃ q, e = .issue q (.ok (.token v)) := by
  rcases e with ⟨q, e | v' | v'⟩ | _ | _ <;> cases h
  exact ⟨q, rfl⟩

/-- A refusal has redeemed nothing. -/
theorem source_refused (q : IssueRequest) (e : Refusal) : source (.issue q (.error e)) = none := by
  cases q <;> rfl

end Event

/-! ## What an answer shows of a row

A view shows all that is fixed in a row: `row` after `view` is `Row.fixed`, by definition. -/

/-- The row that a view shows, unrevoked. -/
def GrantView.row (v : GrantView) : Grant :=
  ⟨v.id, v.applicationId, v.resourceOwnerId, v.scopes, v.code, v.redirectUri, v.expiresAt,
    v.createdAt, none⟩

/-- The row that a view shows, unrevoked. -/
def AccessTokenView.row (v : AccessTokenView) : AccessToken :=
  ⟨v.id, v.applicationId, v.resourceOwnerId, v.token, v.scopes, v.expiresAt, v.createdAt, none⟩

/-- A refresh token with the id of the access token that it belongs to. -/
def RefreshToken.bond (u : RefreshToken) : Int × String := (u.accessTokenId, u.token)

theorem RefreshToken.bond_of_kept {u u' : RefreshToken} (h : Row.Kept u u') : u'.bond = u.bond :=
  Prod.ext (Row.accessTokenId_of_kept h) h.key_eq

/-- The answer to an issue shows the refresh token that was added. -/
theorem Issues.bond {lifetimes : Lifetimes} {enabled : Bool} {now : Instant}
    {d : AccessTokenDraft} {text : String} {s s' : Store} {t : AccessToken}
    {u : Option RefreshToken} (h : Issues lifetimes enabled now d text s t u s')
    (q : IssueRequest) (moment : Instant) :
    (Event.issue q (.ok (.token (t.view u moment)))).bond = u.map RefreshToken.bond := by
  cases u with
  | none => rfl
  | some x =>
    have hx : x.accessTokenId = t.id := by
      have hrefresh := h.refresh
      split at hrefresh <;> cases hrefresh
      rfl
    exact congrArg (fun i => some (i, x.token)) hx.symm

namespace Cleared

variable {auth : Authority} {s : Store} {q : IssueRequest} {now : Instant}

/-- Nothing is issued for a code that is added. -/
theorem source_code {r : GrantRequest} {app : Application} (h : Cleared auth s q now (.code r app))
    (v : GrantView) : Event.source (.issue q (.ok (.grant v))) = none := by
  obtain ⟨s₀, faults, n, -, -, hpassed⟩ := h
  cases hpassed <;> rfl

/-- The source of an access token without a code is the request itself. -/
theorem source_token {r : GrantRequest} {app : Application}
    (h : Cleared auth s q now (.token r app)) (v : AccessTokenView) :
    Event.source (.issue q (.ok (.token v))) = some .implicit := by
  obtain ⟨s₀, faults, n, -, -, hpassed⟩ := h
  cases hpassed <;> rfl

/-- The source of an exchange is the code that was checked. -/
theorem source_exchange {r : TokenRequest} {g : Grant}
    (h : Cleared auth s (.token r) now (.redemption (.code g))) (v : Issued) :
    Event.source (.issue (.token r) (.ok v)) = some (.code g.code) := by
  obtain ⟨htype, hcode⟩ := h.exchange
  rw [Event.source, TokenRequest.source, if_pos htype, hcode, Option.map_some]

/-- The source of a rotation is the refresh token that was checked. -/
theorem source_rotation {r : TokenRequest} {used : RefreshToken} {old : AccessToken}
    (h : Cleared auth s (.token r) now (.redemption (.refresh used old))) (v : Issued) :
    Event.source (.issue (.token r) (.ok v)) = some (.refresh used.token) := by
  obtain ⟨htype, htext, -⟩ := h.rotation
  rw [Event.source, TokenRequest.source, if_neg (by rw [htype]; decide), if_pos htype, htext,
    Option.map_some]

end Cleared

/-- Issuing spends no refresh token. -/
theorem Issues.countP_refreshTokens {lifetimes : Lifetimes} {enabled : Bool} {now : Instant}
    {d : AccessTokenDraft} {text : String} {s s' : Store} {t : AccessToken}
    {u : Option RefreshToken} (h : Issues lifetimes enabled now d text s t u s') (k : String) :
    s'.refreshTokens.countP (Row.isSpent k) = s.refreshTokens.countP (Row.isSpent k) := by
  have hzero : u.toList.countP (Row.isSpent k) = 0 :=
    List.countP_eq_zero.2 fun x hx hspent =>
      Bool.noConfusion ((Row.isSpent_eq_false (h.unused x hx) k).symm.trans hspent)
  rw [h.refreshTokens, List.countP_append, hzero, Nat.add_zero]

/-! ## Effects

Each kind of effect adds to the rows what its answer shows, and spends what it redeems. -/

namespace Effect

variable {auth : Authority} {s s' : Store} {e : Event}

/-- **A code is spent by an exchange** and by nothing else. -/
theorem countP_grants (hs : s.Sound) (h : Effect auth s e s') (code : String) :
    s'.grants.countP (Row.isSpent code) =
      s.grants.countP (Row.isSpent code) + if e.exchanges code then 1 else 0 := by
  cases h with
  | refused => rw [Event.exchanges, Event.source_refused]; rfl
  | code cleared added rows leads =>
    subst rows added
    rw [Event.exchanges, cleared.source_code, List.countP_append, List.countP_singleton,
      Row.isSpent_eq_false rfl]
    rfl
  | token cleared issues => rw [Event.exchanges, cleared.source_token, issues.grants]; rfl
  | exchange cleared marked issues =>
    obtain ⟨rows, hamend, rfl⟩ := Store.revokeGrant_ok marked
    rw [Event.exchanges, cleared.source_exchange, issues.grants,
      hs.grants.countP_isSpent_amend hamend (fun _ => rfl) (fun _ => rfl) code]
    simp
  | rotation cleared marked issues =>
    obtain ⟨rows, -, rfl⟩ := Store.revokeRefreshToken_ok marked
    rw [Event.exchanges, cleared.source_rotation, issues.grants]
    rfl
  | revocation withdrawn => rw [withdrawn.grants]; rfl
  | errand administered => rw [administered.grants]; rfl

/-- **A refresh token is spent by a rotation** and by nothing else. -/
theorem countP_refreshTokens (hs : s.Sound) (h : Effect auth s e s') (text : String) :
    s'.refreshTokens.countP (Row.isSpent text) =
      s.refreshTokens.countP (Row.isSpent text) + if e.rotates text then 1 else 0 := by
  cases h with
  | refused => rw [Event.rotates, Event.source_refused]; rfl
  | code cleared added rows leads => subst rows; rw [Event.rotates, cleared.source_code]; rfl
  | token cleared issues =>
    rw [Event.rotates, cleared.source_token, issues.countP_refreshTokens]
    rfl
  | exchange cleared marked issues =>
    obtain ⟨rows, -, rfl⟩ := Store.revokeGrant_ok marked
    rw [Event.rotates, cleared.source_exchange, issues.countP_refreshTokens]
    rfl
  | rotation cleared marked issues =>
    obtain ⟨rows, hamend, rfl⟩ := Store.revokeRefreshToken_ok marked
    rw [Event.rotates, cleared.source_rotation, issues.countP_refreshTokens,
      hs.refreshTokens.countP_isSpent_amend hamend (fun _ => rfl) (fun _ => rfl) text]
    simp
  | revocation withdrawn => rw [withdrawn.refreshTokens]; rfl
  | errand administered => rw [administered.refreshTokens]; rfl

/-- **A code is added by the answer that shows it.** -/
theorem fixed_grants (h : Effect auth s e s') :
    s'.grants.map Row.fixed = s.grants.map Row.fixed ++ (e.grantView.map (·.row)).toList := by
  cases h with
  | refused => exact (List.append_nil _).symm
  | code cleared added rows leads => subst rows; rw [List.map_append]; rfl
  | token cleared issues => rw [issues.grants]; exact (List.append_nil _).symm
  | exchange cleared marked issues =>
    obtain ⟨rows, hamend, rfl⟩ := Store.revokeGrant_ok marked
    rw [issues.grants]
    exact (Table.map_amend Row.Kept.fixed (Store.kept_revokedGrant _) hamend).trans
      (List.append_nil _).symm
  | rotation cleared marked issues =>
    obtain ⟨rows, -, rfl⟩ := Store.revokeRefreshToken_ok marked
    rw [issues.grants]
    exact (List.append_nil _).symm
  | revocation withdrawn => rw [withdrawn.grants]; exact (List.append_nil _).symm
  | errand administered => rw [administered.grants]; exact (List.append_nil _).symm

/-- **An access token is added by the answer that shows it.** -/
theorem fixed_accessTokens (h : Effect auth s e s') :
    s'.accessTokens.map Row.fixed =
      s.accessTokens.map Row.fixed ++ (e.tokenView.map (·.row)).toList := by
  cases h with
  | refused => exact (List.append_nil _).symm
  | code cleared added rows leads => subst rows; exact (List.append_nil _).symm
  | token cleared issues => rw [issues.accessTokens, List.map_append]; rfl
  | exchange cleared marked issues =>
    obtain ⟨rows, -, rfl⟩ := Store.revokeGrant_ok marked
    rw [issues.accessTokens, List.map_append]
    rfl
  | rotation cleared marked issues =>
    obtain ⟨rows, -, rfl⟩ := Store.revokeRefreshToken_ok marked
    rw [issues.accessTokens, List.map_append]
    rfl
  | revocation withdrawn =>
    exact (withdrawn.accessTokens Row.Kept.fixed).trans (List.append_nil _).symm
  | errand administered => rw [administered.accessTokens]; exact (List.append_nil _).symm

/-- **A refresh token is added by the answer that shows it**, with its access token. -/
theorem bonds (h : Effect auth s e s') :
    s'.refreshTokens.map (·.bond) = s.refreshTokens.map (·.bond) ++ e.bond.toList := by
  cases h with
  | refused => exact (List.append_nil _).symm
  | code cleared added rows leads => subst rows; exact (List.append_nil _).symm
  | token cleared issues =>
    rw [issues.refreshTokens, List.map_append, ← Option.toList_map, issues.bond]
  | exchange cleared marked issues =>
    obtain ⟨rows, -, rfl⟩ := Store.revokeGrant_ok marked
    rw [issues.refreshTokens, List.map_append, ← Option.toList_map, issues.bond]
  | rotation cleared marked issues =>
    obtain ⟨rows, hamend, rfl⟩ := Store.revokeRefreshToken_ok marked
    rw [issues.refreshTokens, List.map_append, ← Option.toList_map, issues.bond]
    have hbonds := Table.map_amend RefreshToken.bond_of_kept (Store.kept_revokedRefreshToken _)
      hamend
    exact congrArg (· ++ _) hbonds
  | revocation withdrawn => rw [withdrawn.refreshTokens]; exact (List.append_nil _).symm
  | errand administered => rw [administered.refreshTokens]; exact (List.append_nil _).symm

/-- The refresh tokens grow by the one that the answer shows. -/
theorem refreshTokens (h : Effect auth s e s') :
    s'.refreshTokens.map (·.token) = s.refreshTokens.map (·.token) ++ e.refreshToken.toList := by
  have hbonds := congrArg (List.map Prod.snd) h.bonds
  rw [List.map_append, List.map_map, List.map_map, ← Option.toList_map] at hbonds
  rw [e.refreshToken_eq]
  exact hbonds

end Effect

/-! ## Runs -/

theorem reverse_filterMap_cons {α β : Type} (f : α → Option β) (a : α) (l : List α) :
    ((a :: l).filterMap f).reverse = (l.filterMap f).reverse ++ (f a).toList := by
  rw [List.filterMap_cons]
  cases f a with
  | none => exact (List.append_nil _).symm
  | some b => exact List.reverse_cons

/-- A row of a table that is what some answers showed was shown by one of them. -/
theorem exists_shown {α β γ ι : Type} {rows : List α} {log : List ι} {f : α → γ}
    {view : ι → Option β} {row : β → γ}
    (h : rows.map f = (log.filterMap fun e => (view e).map row).reverse) {a : α} (ha : a ∈ rows) :
    ∃ e ∈ log, ∃ v, view e = some v ∧ row v = f a := by
  have hmem := List.mem_map_of_mem (f := f) ha
  rw [h, List.mem_reverse, List.mem_filterMap] at hmem
  obtain ⟨e, he, hview⟩ := hmem
  exact ⟨e, he, Option.map_eq_some_iff.1 hview⟩

namespace Traffic

variable (auth : Authority) (moves : List Move)

/-- **Exchanges are counted by spent codes.** -/
theorem exchanges_eq_spent (code : String) :
    (after auth moves).log.countP (Event.exchanges code) =
      (after auth moves).store.grants.countP (Row.isSpent code) := by
  refine after_effects (P := fun s log => log.countP (Event.exchanges code) =
    s.grants.countP (Row.isSpent code)) rfl (fun {s log e s'} hs he hP => ?_) moves
  rw [List.countP_cons, hP, he.countP_grants (hs.sound Store.sound_empty) code]

/-- **Rotations are counted by spent refresh tokens.** -/
theorem rotations_eq_spent (text : String) :
    (after auth moves).log.countP (Event.rotates text) =
      (after auth moves).store.refreshTokens.countP (Row.isSpent text) := by
  refine after_effects (P := fun s log => log.countP (Event.rotates text) =
    s.refreshTokens.countP (Row.isSpent text)) rfl (fun {s log e s'} hs he hP => ?_) moves
  rw [List.countP_cons, hP, he.countP_refreshTokens (hs.sound Store.sound_empty) text]

/-- **The codes of the store are those that were answered**, in that order. -/
theorem fixed_grants_answered :
    (after auth moves).store.grants.map Row.fixed =
      ((after auth moves).log.filterMap fun e => e.grantView.map (·.row)).reverse := by
  refine after_effects (P := fun s log => s.grants.map Row.fixed =
    (log.filterMap fun e => e.grantView.map (·.row)).reverse) rfl
    (fun {s log e s'} hs he hP => ?_) moves
  rw [reverse_filterMap_cons, he.fixed_grants, hP]

/-- **The access tokens of the store are those that were answered**, in that order. -/
theorem fixed_accessTokens_answered :
    (after auth moves).store.accessTokens.map Row.fixed =
      ((after auth moves).log.filterMap fun e => e.tokenView.map (·.row)).reverse := by
  refine after_effects (P := fun s log => s.accessTokens.map Row.fixed =
    (log.filterMap fun e => e.tokenView.map (·.row)).reverse) rfl
    (fun {s log e s'} hs he hP => ?_) moves
  rw [reverse_filterMap_cons, he.fixed_accessTokens, hP]

/-- **The refresh tokens of the store are those that were answered**, in that order. -/
theorem bonds_answered :
    (after auth moves).store.refreshTokens.map (·.bond) =
      ((after auth moves).log.filterMap Event.bond).reverse := by
  refine after_effects (P := fun s log => s.refreshTokens.map (·.bond) =
    (log.filterMap Event.bond).reverse) rfl (fun {s log e s'} hs he hP => ?_) moves
  rw [reverse_filterMap_cons, he.bonds, hP]

/-- The access tokens are those that the answers showed, in their order. -/
theorem accessTokens_answered :
    (after auth moves).store.accessTokens.map (·.token) =
      ((after auth moves).log.filterMap Event.accessToken).reverse := by
  have hrows := congrArg (List.map Row.key) (fixed_accessTokens_answered auth moves)
  rw [List.map_map, List.map_reverse, List.map_filterMap] at hrows
  simp only [Option.map_map] at hrows
  rw [funext Event.accessToken_eq]
  exact hrows

/-- The refresh tokens are those that the answers showed, in their order. -/
theorem refreshTokens_answered :
    (after auth moves).store.refreshTokens.map (·.token) =
      ((after auth moves).log.filterMap Event.refreshToken).reverse := by
  have hbonds := congrArg (List.map Prod.snd) (bonds_answered auth moves)
  rw [List.map_map, List.map_reverse, List.map_filterMap] at hbonds
  rw [funext Event.refreshToken_eq]
  exact hbonds

/-! ### Rows and answers

Read one by one, the accounts lead from a row to the answer that showed it, and back. -/

variable {auth moves}

/-- Every code was shown by an answer. -/
theorem exists_grantView {g : Grant} (hg : g ∈ (after auth moves).store.grants) :
    ∃ q v, .issue q (.ok (.grant v)) ∈ (after auth moves).log ∧ v.row = Row.fixed g := by
  obtain ⟨e, he, v, hv, hrow⟩ := exists_shown (fixed_grants_answered auth moves) hg
  obtain ⟨q, rfl⟩ := Event.exists_of_grantView hv
  exact ⟨q, v, he, hrow⟩

/-- Every access token was shown by an answer. -/
theorem exists_tokenView {t : AccessToken} (ht : t ∈ (after auth moves).store.accessTokens) :
    ∃ q v, .issue q (.ok (.token v)) ∈ (after auth moves).log ∧ v.row = Row.fixed t := by
  obtain ⟨e, he, v, hv, hrow⟩ := exists_shown (fixed_accessTokens_answered auth moves) ht
  obtain ⟨q, rfl⟩ := Event.exists_of_tokenView hv
  exact ⟨q, v, he, hrow⟩

/-- Every access token that was shown is in the store. -/
theorem exists_accessToken {q : IssueRequest} {v : AccessTokenView}
    (hv : .issue q (.ok (.token v)) ∈ (after auth moves).log) :
    ∃ t ∈ (after auth moves).store.accessTokens, v.row = Row.fixed t := by
  have hmem : v.row ∈ ((after auth moves).log.filterMap fun e => e.tokenView.map (·.row)).reverse :=
    List.mem_reverse.2 (List.mem_filterMap.2 ⟨_, hv, rfl⟩)
  rw [← fixed_accessTokens_answered] at hmem
  obtain ⟨t, ht, hrow⟩ := List.mem_map.1 hmem
  exact ⟨t, ht, hrow.symm⟩

/-- A refresh token that was answered is there, bound to the access token that it was answered with.
-/
theorem exists_refreshToken {q : IssueRequest} {v : AccessTokenView} {text : String}
    (hv : .issue q (.ok (.token v)) ∈ (after auth moves).log)
    (htext : v.refreshToken = some text) :
    ∃ u ∈ (after auth moves).store.refreshTokens, u.accessTokenId = v.id ∧ u.token = text := by
  have hbond : (Event.issue q (.ok (.token v))).bond = some (v.id, text) := by
    rw [Event.bond, Event.tokenView, Option.bind_some, htext, Option.map_some]
  have hmem : (v.id, text) ∈ ((after auth moves).log.filterMap Event.bond).reverse :=
    List.mem_reverse.2 (List.mem_filterMap.2 ⟨_, hv, hbond⟩)
  rw [← bonds_answered] at hmem
  obtain ⟨u, hu, hpair⟩ := List.mem_map.1 hmem
  obtain ⟨hid, htoken⟩ := Prod.mk.inj hpair
  exact ⟨u, hu, hid, htoken⟩

/-- A refresh token was answered together with its access token. -/
theorem exists_bond {u : RefreshToken} (hu : u ∈ (after auth moves).store.refreshTokens) :
    ∃ q v, .issue q (.ok (.token v)) ∈ (after auth moves).log ∧ v.id = u.accessTokenId ∧
      v.refreshToken = some u.token := by
  have hmem := List.mem_map_of_mem (f := RefreshToken.bond) hu
  rw [bonds_answered, List.mem_reverse, List.mem_filterMap] at hmem
  obtain ⟨e, he, hshown⟩ := hmem
  obtain ⟨v, hv, hpair⟩ := Option.bind_eq_some_iff.1 hshown
  obtain ⟨text, htext, hbond⟩ := Option.map_eq_some_iff.1 hpair
  obtain ⟨hid, rfl⟩ := Prod.mk.inj hbond
  obtain ⟨q, rfl⟩ := Event.exists_of_tokenView hv
  exact ⟨q, v, he, hid, htext⟩

end Traffic

end OAuthGateway

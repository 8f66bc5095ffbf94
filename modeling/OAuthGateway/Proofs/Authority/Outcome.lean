import OAuthGateway.Proofs.Authority.Clearance

/-!
# Proofs/Authority/Outcome — what a transaction that succeeds has done

One lemma a transaction: the rows it added, the row it marked, and what it answered, in terms of the
store it ran on.  A transaction that adds an access token `Issues` it together with its refresh
token, if refresh tokens are enabled; the row read back is the row that was added, since ids are
unique.  `Written` puts them together: what was written, for each clearance (`write_ok`).
-/

namespace OAuthGateway

open Time Procedure

/-- The store with an access token added, and the refresh token that goes with it. -/
def Store.withTokens (s : Store) (t : AccessToken) (u : Option RefreshToken) : Store :=
  { s with accessTokens := s.accessTokens ++ [t], refreshTokens := s.refreshTokens ++ u.toList }

/-- The second store is the first with the access token `t` of a draft added and, if enabled, with
the refresh token `u` of a text that is bound to it. -/
structure Issues (lifetimes : Lifetimes) (enabled : Bool) (now : Instant) (d : AccessTokenDraft)
    (text : String) (s : Store) (t : AccessToken) (u : Option RefreshToken) (s' : Store) :
    Prop where
  token : t = d.row (Store.nextId s.accessTokens)
  refresh : u = if enabled then
    some ((lifetimes.refreshTokenFor t.id now text).row (Store.nextId s.refreshTokens)) else none
  rows : s' = s.withTokens t u
  leads : s.Leads s'

namespace Issues

variable {lifetimes : Lifetimes} {enabled : Bool} {now : Instant} {d : AccessTokenDraft}
  {text : String} {s s' : Store} {t : AccessToken} {u : Option RefreshToken}

theorem grants (h : Issues lifetimes enabled now d text s t u s') : s'.grants = s.grants := by
  rw [h.rows, Store.withTokens]

theorem accessTokens (h : Issues lifetimes enabled now d text s t u s') :
    s'.accessTokens = s.accessTokens ++ [t] := by
  rw [h.rows, Store.withTokens]

theorem refreshTokens (h : Issues lifetimes enabled now d text s t u s') :
    s'.refreshTokens = s.refreshTokens ++ u.toList := by
  rw [h.rows, Store.withTokens]

/-- A refresh token is unused when it is issued. -/
theorem unused (h : Issues lifetimes enabled now d text s t u s') :
    ∀ x ∈ u.toList, x.revokedAt = none := by
  rw [h.refresh]
  split
  · intro x hx
    rw [Option.toList_some, List.mem_singleton] at hx
    rw [hx]
    rfl
  · exact fun x hx => absurd hx List.not_mem_nil

/-- Where refresh tokens are enabled, one is issued that belongs to the access token. -/
theorem exists_refreshToken (h : Issues lifetimes enabled now d text s t u s')
    (henabled : enabled = true) : ∃ x, u = some x ∧ x.accessTokenId = t.id := by
  rw [h.refresh, if_pos henabled]
  exact ⟨_, rfl, rfl⟩

end Issues

variable {s s' : Store} {faults : Faults} {c : Store} {n : ℕ} {db : Database}

/-- Reading back an access token that was added. -/
theorem accessToken_added {d : AccessTokenDraft} {t : AccessToken} {id : Int} (hs : s'.Sound)
    (hadded : d.row id ∈ s'.accessTokens) (h : s'.accessToken id = .ok t) : t = d.row id := by
  obtain ⟨ht, hid⟩ := (Store.accessToken_eq_ok_iff hs).1 h
  exact hs.accessTokens.eq_of_id_eq ht hadded hid

/-- Reading back a refresh token that was added. -/
theorem refreshToken_added {d : RefreshTokenDraft} {u : RefreshToken} {id : Int} (hs : s'.Sound)
    (hadded : d.row id ∈ s'.refreshTokens) (h : s'.refreshToken id = .ok u) : u = d.row id := by
  obtain ⟨hu, hid⟩ := (Store.refreshToken_eq_ok_iff hs).1 h
  exact hs.refreshTokens.eq_of_id_eq hu hadded hid

namespace Authority

variable {auth : Authority} {now : Instant} {fresh : Credential.Fresh}

theorem issue_ok {operation : Operation} {d : AccessTokenDraft} {text : String}
    {t : AccessToken} {u : Option RefreshToken} (hs : s.Sound)
    (h : (auth.issue operation d now text).perform faults ⟨c, some s, n⟩ = (.ok (t, u), db)) :
    ∃ s' m, Issues auth.lifetimes auth.refreshEnabled now d text s t u s' ∧
      db = ⟨c, some s', m⟩ := by
  obtain ⟨id, _, hwrite, h⟩ := bind_ok h
  obtain ⟨s₁, hadd, rfl⟩ := statement_ok hwrite
  have hlead₁ : s.Leads s₁ := .single (.addAccessToken hadd)
  obtain ⟨-, rfl, rfl⟩ := Store.addAccessToken_ok hadd
  cases henabled : auth.refreshEnabled with
  | false =>
    simp only [henabled, Bool.false_eq_true, if_false] at h
    obtain ⟨_, _, hnone, h⟩ := bind_ok h
    cases hnone
    obtain ⟨t', _, hlook, h⟩ := bind_ok h
    obtain ⟨hread, rfl⟩ := lookup_ok hlook
    cases h
    have ht := accessToken_added (hlead₁.sound hs) (List.mem_append_right _ List.mem_cons_self)
      hread
    subst ht
    refine ⟨_, _, ⟨rfl, rfl, ?_, hlead₁⟩, rfl⟩
    rw [Store.withTokens, Option.toList_none, List.append_nil]
  | true =>
    simp only [henabled, if_true] at h
    obtain ⟨refreshId, _, hwrite', h⟩ := bind_ok h
    obtain ⟨s₂, hadd', rfl⟩ := statement_ok hwrite'
    have hlead₂ := hlead₁.trans (.single (.addRefreshToken hadd'))
    obtain ⟨-, rfl, rfl⟩ := Store.addRefreshToken_ok hadd'
    obtain ⟨_, _, hmap, h⟩ := bind_ok h
    obtain ⟨u', hlook', rfl⟩ := map_ok hmap
    obtain ⟨hread', rfl⟩ := lookup_ok hlook'
    obtain ⟨t', _, hlook, h⟩ := bind_ok h
    obtain ⟨hread, rfl⟩ := lookup_ok hlook
    cases h
    have ht := accessToken_added (hlead₂.sound hs) (List.mem_append_right _ List.mem_cons_self)
      hread
    have hu := refreshToken_added (hlead₂.sound hs) (List.mem_append_right _ List.mem_cons_self)
      hread'
    subst ht hu
    exact ⟨_, _, ⟨rfl, rfl, rfl, hlead₂⟩, rfl⟩

theorem codeSteps_ok {r : GrantRequest} {app : Application} {v : GrantView} (hs : s.Sound)
    (h : (auth.codeSteps now fresh r app).perform faults ⟨c, some s, n⟩ = (.ok v, db)) :
    ∃ g m, g = (auth.lifetimes.codeFor r app now fresh.code).row (Store.nextId s.grants) ∧
      v = g.view now ∧ db = ⟨c, some { s with grants := s.grants ++ [g] }, m⟩ := by
  obtain ⟨id, _, hwrite, h⟩ := bind_ok h
  obtain ⟨s₁, hadd, rfl⟩ := statement_ok hwrite
  have hs₁ : s₁.Sound := (Store.Step.addGrant hadd).sound hs
  obtain ⟨-, rfl, rfl⟩ := Store.addGrant_ok hadd
  obtain ⟨g, _, hlook, h⟩ := bind_ok h
  obtain ⟨hread, rfl⟩ := lookup_ok hlook
  cases h
  obtain ⟨hg, hid⟩ := (Store.grant_eq_ok_iff hs₁).1 hread
  have hrow := hs₁.grants.eq_of_id_eq hg (List.mem_append_right _ List.mem_cons_self) hid
  exact ⟨g, _, hrow, rfl, by rw [hrow]⟩

theorem tokenSteps_ok {r : GrantRequest} {app : Application} {v : AccessTokenView} (hs : s.Sound)
    (h : (auth.tokenSteps now fresh r app).perform faults ⟨c, some s, n⟩ = (.ok v, db)) :
    ∃ t u s' m, Issues auth.lifetimes auth.refreshEnabled now
        (auth.lifetimes.tokenFor r app now fresh.token) fresh.refreshToken s t u s' ∧
      v = t.view u now ∧ db = ⟨c, some s', m⟩ := by
  obtain ⟨⟨t, u⟩, _, hissue, h⟩ := bind_ok h
  obtain ⟨s', m, hissues, rfl⟩ := issue_ok hs hissue
  cases h
  exact ⟨t, u, s', m, hissues, rfl, rfl⟩

theorem exchangeSteps_ok {g : Grant} {v : AccessTokenView} (hs : s.Sound)
    (h : (auth.exchangeSteps now fresh g).perform faults ⟨c, some s, n⟩ = (.ok v, db)) :
    ∃ s₁ t u s' m, s.revokeGrant g.code now = .ok ((), s₁) ∧
      Issues auth.lifetimes auth.refreshEnabled now
        (auth.lifetimes.tokenForGrant g now fresh.token) fresh.refreshToken s₁ t u s' ∧
      v = t.view u now ∧ db = ⟨c, some s', m⟩ := by
  obtain ⟨_, _, hwrite, h⟩ := bind_ok h
  obtain ⟨s₁, hrevoke, rfl⟩ := statement_ok hwrite
  obtain ⟨⟨t, u⟩, _, hissue, h⟩ := bind_ok h
  obtain ⟨s', m, hissues, rfl⟩ := issue_ok ((Store.Step.revokeGrant hrevoke).sound hs) hissue
  cases h
  exact ⟨s₁, t, u, s', m, hrevoke, hissues, rfl, rfl⟩

theorem rotationSteps_ok {used : RefreshToken} {old : AccessToken} {v : AccessTokenView}
    (hs : s.Sound)
    (h : (auth.rotationSteps now fresh used old).perform faults ⟨c, some s, n⟩ = (.ok v, db)) :
    ∃ s₁ t u s' m, s.revokeRefreshToken used.token now = .ok ((), s₁) ∧
      Issues auth.lifetimes true now
        (auth.lifetimes.tokenForToken old now fresh.token) fresh.refreshToken s₁ t u s' ∧
      v = t.view u now ∧ db = ⟨c, some s', m⟩ := by
  obtain ⟨_, _, hwrite, h⟩ := bind_ok h
  obtain ⟨s₁, hrevoke, rfl⟩ := statement_ok hwrite
  obtain ⟨id, _, hwrite, h⟩ := bind_ok h
  obtain ⟨s₂, hadd, rfl⟩ := statement_ok hwrite
  obtain ⟨refreshId, _, hwrite, h⟩ := bind_ok h
  obtain ⟨s₃, hadd', rfl⟩ := statement_ok hwrite
  have hlead : s₁.Leads s₃ :=
    (Store.Leads.single (.addAccessToken hadd)).trans (.single (.addRefreshToken hadd'))
  have hs₃ : s₃.Sound := hlead.sound ((Store.Step.revokeRefreshToken hrevoke).sound hs)
  obtain ⟨-, rfl, rfl⟩ := Store.addAccessToken_ok hadd
  obtain ⟨-, rfl, rfl⟩ := Store.addRefreshToken_ok hadd'
  obtain ⟨t, _, hlook, h⟩ := bind_ok h
  obtain ⟨hread, rfl⟩ := lookup_ok hlook
  obtain ⟨u, _, hlook, h⟩ := bind_ok h
  obtain ⟨hread', rfl⟩ := lookup_ok hlook
  cases h
  have ht := accessToken_added hs₃ (List.mem_append_right _ List.mem_cons_self) hread
  have hu := refreshToken_added hs₃ (List.mem_append_right _ List.mem_cons_self) hread'
  subst ht hu
  exact ⟨s₁, _, _, _, _, hrevoke, ⟨rfl, rfl, rfl, hlead⟩, rfl, rfl⟩

/-! ## Any transaction -/

/-- What the transaction of a clearance has done to the rows when it answers. -/
inductive Written (auth : Authority) (now : Instant) (fresh : Credential.Fresh) (s : Store) :
    Clearance → Issued → Store → Prop
  /-- A code is added. -/
  | code {r : GrantRequest} {app : Application} {g : Grant} {s' : Store}
      (added : g = (auth.lifetimes.codeFor r app now fresh.code).row (Store.nextId s.grants))
      (rows : s' = { s with grants := s.grants ++ [g] }) (leads : s.Leads s') :
      Written auth now fresh s (.code r app) (.grant (g.view now)) s'
  /-- Tokens are added without a code. -/
  | token {r : GrantRequest} {app : Application} {t : AccessToken} {u : Option RefreshToken}
      {s' : Store}
      (issues : Issues auth.lifetimes auth.refreshEnabled now
        (auth.lifetimes.tokenFor r app now fresh.token) fresh.refreshToken s t u s') :
      Written auth now fresh s (.token r app) (.token (t.view u now)) s'
  /-- A code is marked as used, and tokens are added. -/
  | exchange {g : Grant} {s₁ : Store} {t : AccessToken} {u : Option RefreshToken} {s' : Store}
      (marked : s.revokeGrant g.code now = .ok ((), s₁))
      (issues : Issues auth.lifetimes auth.refreshEnabled now
        (auth.lifetimes.tokenForGrant g now fresh.token) fresh.refreshToken s₁ t u s') :
      Written auth now fresh s (.redemption (.code g)) (.token (t.view u now)) s'
  /-- A refresh token is marked as used, and tokens are added. -/
  | rotation {used : RefreshToken} {old : AccessToken} {s₁ : Store} {t : AccessToken}
      {u : Option RefreshToken} {s' : Store}
      (marked : s.revokeRefreshToken used.token now = .ok ((), s₁))
      (issues : Issues auth.lifetimes true now
        (auth.lifetimes.tokenForToken old now fresh.token) fresh.refreshToken s₁ t u s') :
      Written auth now fresh s (.redemption (.refresh used old)) (.token (t.view u now)) s'

/-- **A transaction that succeeds has written what its clearance says.** -/
theorem write_ok {c : Clearance} {issued : Issued} (hs : s.Sound)
    (h : (auth.write now fresh c).perform faults ⟨s, none, n⟩ = (.ok issued, db)) :
    Written auth now fresh s c issued db.committed := by
  cases c with
  | code r app =>
    have hsettled := (auth.atomic_write now fresh (.code r app)).settled faults ⟨s, none, n⟩ rfl
    rw [h] at hsettled
    obtain ⟨v, hrun, rfl⟩ := map_ok h
    obtain ⟨s', m, hsteps, rfl⟩ :=
      transaction_ok (auth.keeps_inside_codeSteps now fresh (statements_leads _) r app) hrun
    obtain ⟨g, m', hadded, rfl, hdb⟩ := codeSteps_ok hs hsteps
    cases hdb
    exact .code hadded rfl hsettled.2
  | token r app =>
    obtain ⟨v, hrun, rfl⟩ := map_ok h
    obtain ⟨s', m, hsteps, rfl⟩ :=
      transaction_ok (auth.keeps_inside_tokenSteps now fresh (statements_leads _) r app) hrun
    obtain ⟨t, u, s'', m', hissues, rfl, hdb⟩ := tokenSteps_ok hs hsteps
    cases hdb
    exact .token hissues
  | redemption redemption =>
    cases redemption with
    | code g =>
      obtain ⟨v, hrun, rfl⟩ := map_ok h
      obtain ⟨s', m, hsteps, rfl⟩ :=
        transaction_ok (auth.keeps_inside_exchangeSteps now fresh (statements_leads _) g) hrun
      obtain ⟨s₁, t, u, s'', m', hmarked, hissues, rfl, hdb⟩ := exchangeSteps_ok hs hsteps
      cases hdb
      exact .exchange hmarked hissues
    | refresh used old =>
      obtain ⟨v, hrun, rfl⟩ := map_ok h
      obtain ⟨s', m, hsteps, rfl⟩ :=
        transaction_ok
          (auth.keeps_inside_rotationSteps now fresh (statements_leads _) used old) hrun
      obtain ⟨s₁, t, u, s'', m', hmarked, hissues, rfl, hdb⟩ := rotationSteps_ok hs hsteps
      cases hdb
      exact .rotation hmarked hissues

end Authority

end OAuthGateway

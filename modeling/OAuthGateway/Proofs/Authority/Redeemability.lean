import OAuthGateway.Proofs.Authority.Preparation
import OAuthGateway.Proofs.Store.Coupling
import OAuthGateway.Proofs.Store.Holdings

/-!
# Proofs/Authority/Redeemability — what the redemption of a credential depends on

A redemption reads the applications and what the owner of its credential holds (`Alike`).  On two
stores that have these in common its checks come to the same verdict (`prepare_alike`), and if the
fresh texts are new to both, the whole operation gives the same answer, but for the number of the
access token (`token_alike`).  Both are read off a coupling of the two runs, step by step: what has
been added on the way differs in ids only.
-/

namespace OAuthGateway

open Time Procedure

/-- An access token as it is shown, but for its number. -/
def AccessTokenView.unnumbered (v : AccessTokenView) : AccessTokenView := { v with id := 0 }

/-! ## Stores before a transaction

A store that is ready for fresh texts takes them, and shows what it took. -/

namespace Store

/-- The store is sound, and the fresh texts of tokens are new to it. -/
structure Ready (fresh : Credential.Fresh) (s : Store) : Prop where
  sound : s.Sound
  accessToken : ∀ t ∈ s.accessTokens, t.token ≠ fresh.token
  refreshToken : ∀ u ∈ s.refreshTokens, u.token ≠ fresh.refreshToken

/-- An access token of the draft has been added under the id. -/
structure Added (fresh : Credential.Fresh) (d : AccessTokenDraft) (id : Int) (s : Store) :
    Prop where
  sound : s.Sound
  accessToken : d.row id ∈ s.accessTokens
  refreshToken : ∀ u ∈ s.refreshTokens, u.token ≠ fresh.refreshToken

/-- So has a refresh token of a draft. -/
structure AddedBoth (d : AccessTokenDraft) (id : Int) (e : RefreshTokenDraft) (refreshId : Int)
    (s : Store) : Prop where
  sound : s.Sound
  accessToken : d.row id ∈ s.accessTokens
  refreshToken : e.row refreshId ∈ s.refreshTokens

variable {fresh : Credential.Fresh} {s : Store} {d : AccessTokenDraft} {id refreshId : Int}

/-- A store that is ready takes the fresh access token. -/
theorem Ready.addAccessToken (h : s.Ready fresh) (hd : d.token = fresh.token)
    (happ : s.hasApplication d.applicationId = true) :
    ∃ id s', s.addAccessToken d = .ok (id, s') ∧ s'.Added fresh d id := by
  have hadd : s.addAccessToken d = .ok (nextId s.accessTokens,
      { s with accessTokens := s.accessTokens ++ [d.row (nextId s.accessTokens)] }) := by
    rw [Store.addAccessToken, if_neg]
    simpa [happ, hd] using h.accessToken
  exact ⟨_, _, hadd, (Step.addAccessToken hadd).sound h.sound,
    List.mem_append_right _ List.mem_cons_self, h.refreshToken⟩

/-- A store that has taken the access token takes the refresh token for it. -/
theorem Added.addRefreshToken (h : s.Added fresh d id) {e : RefreshTokenDraft}
    (he : e.token = fresh.refreshToken) (hbound : e.accessTokenId = id) :
    ∃ refreshId s', s.addRefreshToken e = .ok (refreshId, s') ∧
      s'.AddedBoth d id e refreshId := by
  have hhas : s.hasAccessToken e.accessTokenId = true :=
    List.any_eq_true.2 ⟨_, h.accessToken, beq_iff_eq.2 hbound.symm⟩
  have hadd : s.addRefreshToken e = .ok (nextId s.refreshTokens,
      { s with refreshTokens := s.refreshTokens ++ [e.row (nextId s.refreshTokens)] }) := by
    rw [Store.addRefreshToken, if_neg]
    simpa [hhas, he] using h.refreshToken
  exact ⟨_, _, hadd, (Step.addRefreshToken hadd).sound h.sound, h.accessToken,
    List.mem_append_right _ List.mem_cons_self⟩

/-- An access token that was added is read back. -/
theorem accessToken_of_added (hs : s.Sound) (h : d.row id ∈ s.accessTokens) :
    s.accessToken id = .ok (d.row id) :=
  (accessToken_eq_ok_iff hs).2 ⟨h, rfl⟩

/-- A refresh token that was added is read back. -/
theorem refreshToken_of_added {e : RefreshTokenDraft} (hs : s.Sound)
    (h : e.row refreshId ∈ s.refreshTokens) : s.refreshToken refreshId = .ok (e.row refreshId) :=
  (refreshToken_eq_ok_iff hs).2 ⟨h, rfl⟩

/-- A code that is unused is marked, and all else is as ready as before. -/
theorem Ready.revokeGrant (h : s.Ready fresh) {g : Grant} (hg : g ∈ s.grants)
    (hunused : g.revokedAt = none) (moment : Instant) :
    ∃ s', s.revokeGrant g.code moment = .ok ((), s') ∧ s'.Ready fresh ∧
      s'.applications = s.applications := by
  obtain ⟨rows, hrows⟩ : ∃ rows, amend (Row.isUsable g.code)
      (fun g => { g with revokedAt := some moment }) s.grants = .ok rows :=
    ⟨_, Table.amend_eq_ok_iff.2
      ⟨List.any_eq_true.2 ⟨g, hg, Row.isUsable_iff.2 ⟨rfl, hunused⟩⟩, rfl⟩⟩
  have hrevoke : s.revokeGrant g.code moment = .ok ((), { s with grants := rows }) :=
    congrArg (· >>= _) hrows
  exact ⟨_, hrevoke, ⟨(Step.revokeGrant hrevoke).sound h.sound, h.accessToken, h.refreshToken⟩,
    rfl⟩

/-- A refresh token that is unused is marked, and all else is as ready as before. -/
theorem Ready.revokeRefreshToken (h : s.Ready fresh) {u : RefreshToken}
    (hu : u ∈ s.refreshTokens) (hunused : u.revokedAt = none) (moment : Instant) :
    ∃ s', s.revokeRefreshToken u.token moment = .ok ((), s') ∧ s'.Ready fresh ∧
      s'.applications = s.applications := by
  obtain ⟨rows, hrows⟩ : ∃ rows, amend (Row.isUsable u.token)
      (fun u => { u with revokedAt := some moment }) s.refreshTokens = .ok rows :=
    ⟨_, Table.amend_eq_ok_iff.2
      ⟨List.any_eq_true.2 ⟨u, hu, Row.isUsable_iff.2 ⟨rfl, hunused⟩⟩, rfl⟩⟩
  have hrevoke : s.revokeRefreshToken u.token moment = .ok ((), { s with refreshTokens := rows }) :=
    congrArg (· >>= _) hrows
  have htexts : rows.map Row.key = s.refreshTokens.map Row.key :=
    Table.map_amend Row.Kept.key_eq (kept_revokedRefreshToken moment) hrows
  refine ⟨_, hrevoke, ⟨(Step.revokeRefreshToken hrevoke).sound h.sound, h.accessToken, ?_⟩, rfl⟩
  intro v hv
  obtain ⟨u', hu', hkey⟩ := List.mem_map.1 (htexts ▸ List.mem_map_of_mem hv)
  exact fun hv' => h.refreshToken u' hu' (hkey.trans hv')

/-- Two stores that have the same applications and are ready for the same fresh texts. -/
structure Peers (fresh : Credential.Fresh) (s t : Store) : Prop where
  applications : t.applications = s.applications
  left : s.Ready fresh
  right : t.Ready fresh

end Store

/-! ## Transactions on two stores

Two runs of the same statements, on stores that have the owner in common, stay coupled: both fail,
at the same call, or both go on with rows that differ in their ids. -/

namespace Authority

variable {auth : Authority} {now : Instant} {fresh : Credential.Fresh}

section Statements

variable {d : AccessTokenDraft} {f : StoreError → Refusal}

/-- Both stores take the access token, or neither call succeeds. -/
theorem coupled_addAccessToken (hd : d.token = fresh.token) :
    Coupled (Store.Peers fresh) ((Database.addAccessToken d).mapError f)
      ((Database.addAccessToken d).mapError f)
      fun i s j t => s.Added fresh d i ∧ t.Added fresh d j := by
  refine coupled_mapError f (coupled_call fun {s t} hpeers => ?_)
  by_cases happ : s.hasApplication d.applicationId = true
  · have happ' : t.hasApplication d.applicationId = true := by
      rw [Store.hasApplication, hpeers.applications]
      exact happ
    obtain ⟨i, s', hs, hadded⟩ := hpeers.left.addAccessToken hd happ
    obtain ⟨j, t', ht, hadded'⟩ := hpeers.right.addAccessToken hd happ'
    exact .inr ⟨i, j, s', t', hs, ht, hadded, hadded'⟩
  · have hrefused : ∀ x : Store, x.applications = s.applications →
        x.addAccessToken d = .error .database := by
      intro x hx
      have hnone : x.hasApplication d.applicationId = false := by
        rw [Store.hasApplication, hx]
        exact Bool.eq_false_iff.2 happ
      rw [Store.addAccessToken, hnone]
      exact if_pos (by simp)
    exact .inl ⟨.database, hrefused s rfl, hrefused t hpeers.applications⟩

/-- Both stores take a refresh token for the access token of theirs, or neither call succeeds. -/
theorem coupled_addRefreshToken {i j : Int} :
    Coupled (fun s t => s.Added fresh d i ∧ t.Added fresh d j)
      ((Database.addRefreshToken
        (auth.lifetimes.refreshTokenFor i now fresh.refreshToken)).mapError f)
      ((Database.addRefreshToken
        (auth.lifetimes.refreshTokenFor j now fresh.refreshToken)).mapError f)
      fun k s l t =>
        s.AddedBoth d i (auth.lifetimes.refreshTokenFor i now fresh.refreshToken) k ∧
        t.AddedBoth d j (auth.lifetimes.refreshTokenFor j now fresh.refreshToken) l := by
  refine coupled_mapError f (coupled_call fun {s t} ⟨hadded, hadded'⟩ => ?_)
  obtain ⟨k, s', hs, hboth⟩ := hadded.addRefreshToken
    (e := auth.lifetimes.refreshTokenFor i now fresh.refreshToken) rfl rfl
  obtain ⟨l, t', ht, hboth'⟩ := hadded'.addRefreshToken
    (e := auth.lifetimes.refreshTokenFor j now fresh.refreshToken) rfl rfl
  exact .inr ⟨k, l, s', t', hs, ht, hboth, hboth'⟩

/-- Access tokens of the draft are found under the ids. -/
def FoundAs (d : AccessTokenDraft) (i j : Int) (s t : Store) : Prop :=
  s.accessToken i = .ok (d.row i) ∧ t.accessToken j = .ok (d.row j)

theorem FoundAs.of_added {i j : Int} {s t : Store}
    (h : s.Added fresh d i ∧ t.Added fresh d j) : FoundAs d i j s t :=
  ⟨Store.accessToken_of_added h.1.sound h.1.accessToken,
    Store.accessToken_of_added h.2.sound h.2.accessToken⟩

theorem FoundAs.of_addedBoth {i j k l : Int} {e e' : RefreshTokenDraft} {s t : Store}
    (h : s.AddedBoth d i e k ∧ t.AddedBoth d j e' l) : FoundAs d i j s t :=
  ⟨Store.accessToken_of_added h.1.sound h.1.accessToken,
    Store.accessToken_of_added h.2.sound h.2.accessToken⟩

/-- Both read back the access token under the id that it has there. -/
theorem coupled_readAccessToken {P : Store → Store → Prop} {i j : Int}
    (h : ∀ {s t}, P s t → FoundAs d i j s t) :
    Coupled P ((Database.accessToken i).mapError f) ((Database.accessToken j).mapError f)
      fun x s y t => (x = d.row i ∧ y = d.row j) ∧ P s t :=
  coupled_mapError f (coupled_look fun hP =>
    .inr ⟨_, _, (h hP).1, (h hP).2, ⟨rfl, rfl⟩, hP⟩)

/-- Both read back the refresh token under the id that it has there. -/
theorem coupled_readRefreshToken {i j k l : Int} {e e' : RefreshTokenDraft} :
    Coupled (fun s t => s.AddedBoth d i e k ∧ t.AddedBoth d j e' l)
      ((Database.refreshToken k).mapError f) ((Database.refreshToken l).mapError f)
      fun x s y t => (x = e.row k ∧ y = e'.row l) ∧ s.AddedBoth d i e k ∧ t.AddedBoth d j e' l :=
  coupled_mapError f (coupled_look fun h => .inr ⟨_, _,
    Store.refreshToken_of_added h.1.sound h.1.refreshToken,
    Store.refreshToken_of_added h.2.sound h.2.refreshToken, ⟨rfl, rfl⟩, h⟩)

end Statements

/-- What has been issued is the same, but for its numbers. -/
def IssuedAlike (d : AccessTokenDraft) (x : AccessToken × Option RefreshToken) (_ : Store)
    (y : AccessToken × Option RefreshToken) (_ : Store) : Prop :=
  (∃ i j, x.1 = d.row i ∧ y.1 = d.row j) ∧ x.2.map (·.token) = y.2.map (·.token)

/-- What is shown is the same, but for its number. -/
def ShownAlike (v : AccessTokenView) (_ : Store) (w : AccessTokenView) (_ : Store) : Prop :=
  v.unnumbered = w.unnumbered

/-- Tokens that were issued alike are shown alike. -/
theorem IssuedAlike.shown {d : AccessTokenDraft} {x y : AccessToken × Option RefreshToken}
    {s t : Store} (h : IssuedAlike d x s y t) (now : Instant) :
    ShownAlike (x.1.view x.2 now) s (y.1.view y.2 now) t := by
  obtain ⟨⟨i, j, hx, hy⟩, htext⟩ := h
  rw [ShownAlike, AccessToken.view, AccessToken.view, htext, hx, hy]
  rfl

/-- **Both issue alike, or fail alike.** -/
theorem coupled_issue {operation : Operation} {d : AccessTokenDraft} (hd : d.token = fresh.token) :
    Coupled (Store.Peers fresh) (auth.issue operation d now fresh.refreshToken)
      (auth.issue operation d now fresh.refreshToken) (IssuedAlike d) := by
  refine coupled_bind (coupled_addAccessToken hd) fun i j => ?_
  have hread : ∀ u u' : Option RefreshToken, u.map (·.token) = u'.map (·.token) →
      Coupled (FoundAs d i j)
        (do return (← (Database.accessToken i).mapError (failure operation), u))
        (do return (← (Database.accessToken j).mapError (failure operation), u'))
        (IssuedAlike d) := fun u u' htext =>
    coupled_bind (coupled_readAccessToken fun h => h) fun x y => coupled_given fun ⟨hx, hy⟩ =>
      coupled_pure fun _ => ⟨⟨i, j, hx, hy⟩, htext⟩
  dsimp only
  split
  · refine coupled_bind coupled_addRefreshToken fun k l => ?_
    refine coupled_bind (R := fun u s u' t => u.map (·.token) = u'.map (·.token) ∧
      FoundAs d i j s t) (coupled_map coupled_readRefreshToken ?_)
      fun u u' => coupled_given (hread u u')
    rintro _ _ _ _ ⟨⟨rfl, rfl⟩, hadded⟩
    exact ⟨rfl, .of_addedBoth hadded⟩
  · simp only [pure_bind]
    exact (hread none none rfl).consequence .of_added fun h => h

/-! ### Marking and issuing

The marks are the same on both sides, because the credential is. -/

/-- Both exchange a code that neither has spent, or fail alike. -/
theorem coupled_exchangeSteps (g : Grant) :
    Coupled (fun s t => g.revokedAt = none ∧ (g ∈ s.grants ∧ g ∈ t.grants) ∧
        Store.Peers fresh s t)
      (auth.exchangeSteps now fresh g) (auth.exchangeSteps now fresh g) ShownAlike := by
  refine coupled_given fun hunused => ?_
  refine coupled_bind (R := fun _ s _ t => Store.Peers fresh s t)
    (coupled_mapError _ (coupled_call fun {s t} ⟨⟨hg, hg'⟩, hpeers⟩ => ?_)) fun _ _ =>
    coupled_bind (coupled_issue rfl) fun x y => coupled_pure fun h => h.shown now
  obtain ⟨s', hs, hready, happ⟩ := hpeers.left.revokeGrant hg hunused now
  obtain ⟨t', ht, hready', happ'⟩ := hpeers.right.revokeGrant hg' hunused now
  exact .inr ⟨(), (), s', t', hs, ht,
    ⟨happ'.trans (hpeers.applications.trans happ.symm), hready, hready'⟩⟩

/-- Both rotate a refresh token that neither has spent, or fail alike. -/
theorem coupled_rotationSteps (used : RefreshToken) (old : AccessToken) :
    Coupled (fun s t => used.revokedAt = none ∧ (used ∈ s.refreshTokens ∧ used ∈ t.refreshTokens) ∧
        Store.Peers fresh s t)
      (auth.rotationSteps now fresh used old) (auth.rotationSteps now fresh used old)
      ShownAlike := by
  refine coupled_given fun hunused => ?_
  refine coupled_bind (R := fun _ s _ t => Store.Peers fresh s t)
    (coupled_mapError _ (coupled_call fun {s t} ⟨⟨hu, hu'⟩, hpeers⟩ => ?_)) fun _ _ => ?_
  · obtain ⟨s', hs, hready, happ⟩ := hpeers.left.revokeRefreshToken hu hunused now
    obtain ⟨t', ht, hready', happ'⟩ := hpeers.right.revokeRefreshToken hu' hunused now
    exact .inr ⟨(), (), s', t', hs, ht,
      ⟨happ'.trans (hpeers.applications.trans happ.symm), hready, hready'⟩⟩
  · refine coupled_bind (coupled_addAccessToken rfl) fun i j => ?_
    refine coupled_bind coupled_addRefreshToken fun k l => ?_
    refine coupled_bind (coupled_readAccessToken .of_addedBoth) fun x y =>
      coupled_given fun ⟨hx, hy⟩ => ?_
    refine coupled_bind coupled_readRefreshToken fun u u' => coupled_given fun ⟨hu, hu'⟩ => ?_
    exact coupled_pure fun _ => IssuedAlike.shown (x := (x, some u)) (y := (y, some u'))
      ⟨⟨i, j, hx, hy⟩, by rw [hu, hu']; rfl⟩ now

end Authority

/-! ## Checks on two stores

Checks look at what the stores have in common, so they see the same on both. -/

/-- A token request presents a credential that is held. -/
inductive TokenRequest.Presents (r : TokenRequest) (held : Holdings) : Prop
  | code {g : Grant} (kind : r.grantType = some "authorization_code") (holds : g ∈ held.grants)
      (named : r.code = some g.code)
  | refresh {u : RefreshToken} (kind : r.grantType = some "refresh_token")
      (holds : u ∈ held.refreshTokens) (named : r.refreshToken = some u.token)

namespace Store

/-- For a token request, two stores are alike: they have the same applications, and the owner of the
credential that it presents holds the same. -/
structure Alike (r : TokenRequest) (s t : Store) : Prop where
  applications : t.applications = s.applications
  left : s.Sound
  right : t.Sound
  presents : ∃ app, r.Presents (s.holdings app) ∧ t.holdings app = s.holdings app

namespace Alike

variable {r : TokenRequest} {s t : Store}

/-- An exchange finds the same code on both. -/
theorem grantOfCode (h : Alike r s t) (hkind : r.grantType = some "authorization_code") :
    t.grantOfCode (r.code.getD "") = s.grantOfCode (r.code.getD "") := by
  obtain ⟨app, hpresents, hholds⟩ := h.presents
  cases hpresents with
  | refresh kind => exact absurd (hkind.symm.trans kind) (by decide)
  | @code g _ holds named =>
    have hs := (mem_holdings_grants.1 holds).1
    have ht := (mem_holdings_grants.1 (hholds ▸ holds)).1
    rw [named, Option.getD_some, (grantOfCode_eq_ok_iff h.left).2 ⟨hs, rfl⟩,
      (grantOfCode_eq_ok_iff h.right).2 ⟨ht, rfl⟩]

/-- A rotation finds the same refresh token on both. -/
theorem refreshTokenOfText (h : Alike r s t) (hkind : r.grantType = some "refresh_token") :
    t.refreshTokenOfText (r.refreshToken.getD "") =
      s.refreshTokenOfText (r.refreshToken.getD "") := by
  obtain ⟨app, hpresents, hholds⟩ := h.presents
  cases hpresents with
  | code kind => exact absurd (hkind.symm.trans kind) (by decide)
  | @refresh u _ holds named =>
    have hs := (mem_holdings_refreshTokens.1 holds).1
    have ht := (mem_holdings_refreshTokens.1 (hholds ▸ holds)).1
    rw [named, Option.getD_some, (refreshTokenOfText_eq_ok_iff h.left).2 ⟨hs, rfl⟩,
      (refreshTokenOfText_eq_ok_iff h.right).2 ⟨ht, rfl⟩]

/-- Behind the refresh token that is presented stands the same access token. -/
theorem accessToken (h : Alike r s t) (hkind : r.grantType = some "refresh_token")
    {used : RefreshToken} (hfound : s.refreshTokenOfText (r.refreshToken.getD "") = .ok used) :
    t.accessToken used.accessTokenId = s.accessToken used.accessTokenId := by
  obtain ⟨app, hpresents, hholds⟩ := h.presents
  cases hpresents with
  | code kind => exact absurd (hkind.symm.trans kind) (by decide)
  | @refresh u _ holds named =>
    obtain ⟨hu, old, hold, hid⟩ := mem_holdings_refreshTokens.1 holds
    rw [named, Option.getD_some, (refreshTokenOfText_eq_ok_iff h.left).2 ⟨hu, rfl⟩] at hfound
    cases hfound
    have hs := (mem_holdings_accessTokens.1 hold).1
    have ht := (mem_holdings_accessTokens.1 (hholds ▸ hold)).1
    rw [(accessToken_eq_ok_iff h.left).2 ⟨hs, hid⟩, (accessToken_eq_ok_iff h.right).2 ⟨ht, hid⟩]

end Alike

end Store

/-- The credential of a redemption is there on both stores, unused. -/
def Redemption.UnusedOn (s t : Store) : Redemption → Prop
  | .code g => g.revokedAt = none ∧ g ∈ s.grants ∧ g ∈ t.grants
  | .refresh used _ => used.revokedAt = none ∧ used ∈ s.refreshTokens ∧ used ∈ t.refreshTokens

namespace Authority

variable {auth : Authority} {now : Instant} {fresh : Credential.Fresh} {r : TokenRequest}
  {P : Store → Store → Prop}

/-- Both know the same client. -/
theorem coupled_authenticate {operation : Operation} {uid secret : Option String}
    (hP : ∀ {s t}, P s t → t.applications = s.applications) :
    Coupled P (authenticate operation uid secret) (authenticate operation uid secret)
      fun a s b t => a = b ∧ P s t := by
  unfold authenticate
  split
  · refine coupled_mapError _ ((coupled_look_same fun h => ?_).consequence (fun h => h)
      fun ⟨heq, _, h⟩ => ⟨heq, h⟩)
    rw [Store.client, Store.client, hP h]
  · exact coupled_throw _

/-- Both come to the same verdict on the exchange of a code. -/
theorem coupled_prepareExchange {app : Application} (hP : ∀ {s t}, P s t → Store.Alike r s t)
    (hkind : r.grantType = some "authorization_code") :
    Coupled P (prepareExchange now r app) (prepareExchange now r app)
      fun x s y t => x = y ∧ x.UnusedOn s t ∧ P s t := by
  refine coupled_bind (coupled_mapError _ (coupled_look_same fun h =>
    (hP h).grantOfCode hkind)) fun g g' => coupled_given ?_
  rintro rfl
  refine coupled_bind (R := fun _ s _ t => Redemption.UnusedOn s t (.code g) ∧ P s t)
    (coupled_verdict fun {_ s t} hredeemable ⟨hfound, h⟩ => ⟨⟨?_, ?_, ?_⟩, h⟩) fun _ _ =>
    coupled_pure fun h => ⟨rfl, h⟩
  · exact (Grant.redeemable_ok hredeemable).2
  · exact ((Store.grantOfCode_eq_ok_iff (hP h).left).1 hfound).1
  · rw [← (hP h).grantOfCode hkind] at hfound
    exact ((Store.grantOfCode_eq_ok_iff (hP h).right).1 hfound).1

/-- Both come to the same verdict on a rotation. -/
theorem coupled_prepareRotation {app : Application} (hP : ∀ {s t}, P s t → Store.Alike r s t)
    (hkind : r.grantType = some "refresh_token") :
    Coupled P (prepareRotation now r app) (prepareRotation now r app)
      fun x s y t => x = y ∧ x.UnusedOn s t ∧ P s t := by
  refine coupled_bind (coupled_mapError _ (coupled_look_same fun h =>
    (hP h).refreshTokenOfText hkind)) fun used used' => coupled_given ?_
  rintro rfl
  refine coupled_bind (R := fun _ s _ t => used.revokedAt = none ∧
      s.refreshTokenOfText (r.refreshToken.getD "") = .ok used ∧ P s t)
    (coupled_verdict fun hredeemable h => ⟨RefreshToken.redeemable_ok hredeemable, h⟩)
    fun _ _ => ?_
  refine coupled_bind (coupled_mapError _ (coupled_look_same fun ⟨_, hfound, h⟩ =>
    (hP h).accessToken hkind hfound)) fun old old' => coupled_given ?_
  rintro rfl
  refine coupled_bind (R := fun _ s _ t => Redemption.UnusedOn s t (.refresh used old) ∧ P s t)
    (coupled_verdict fun {_ s t} _ ⟨_, hunused, hfound, h⟩ => ⟨⟨hunused, ?_, ?_⟩, h⟩) fun _ _ =>
    coupled_pure fun h => ⟨rfl, h⟩
  · exact ((Store.refreshTokenOfText_eq_ok_iff (hP h).left).1 hfound).1
  · rw [← (hP h).refreshTokenOfText hkind] at hfound
    exact ((Store.refreshTokenOfText_eq_ok_iff (hP h).right).1 hfound).1

/-- **The checks of a redemption are coupled** on stores that are alike for it. -/
theorem coupled_prepare (hP : ∀ {s t}, P s t → Store.Alike r s t) :
    Coupled P (auth.prepare now r) (auth.prepare now r)
      fun x s y t => x = y ∧ x.UnusedOn s t ∧ P s t := by
  refine coupled_bind (coupled_authenticate fun h => (hP h).applications) fun app app' =>
    coupled_given ?_
  rintro rfl
  refine coupled_bind (R := fun kind s kind' t => (kind = kind' ∧
      r.validate auth.refreshEnabled = .ok kind) ∧ P s t)
    (coupled_verdict fun hvalid h => ⟨⟨rfl, hvalid⟩, h⟩) fun kind kind' => coupled_given ?_
  rintro ⟨rfl, hvalid⟩
  cases kind with
  | authorizationCode => exact coupled_prepareExchange hP (validate_authorizationCode hvalid).1
  | refreshToken => exact coupled_prepareRotation hP (validate_refreshToken hvalid).1

/-- **The checks of a redemption come to the same verdict** on stores that are alike for it. -/
theorem prepare_alike {s t : Store} (h : Store.Alike r s t) (faults : Faults) (n : ℕ) :
    ((auth.prepare now r).perform faults ⟨t, none, n⟩).1 =
      ((auth.prepare now r).perform faults ⟨s, none, n⟩).1 := by
  have hcoupled : Coupled (Store.Alike r) (auth.prepare now r) (auth.prepare now r)
      fun x _ y _ => id x = id y :=
    (coupled_prepare fun h => h).consequence (fun h => h) fun h => h.1
  have hmatches := (hcoupled faults none none n s t h).map_eq
  rwa [Except.map_id, id, id, eq_comm] at hmatches

/-- **The transactions of a redemption answer alike on both.** -/
theorem redeem_matches {redemption : Redemption} {s t : Store} (hunused : redemption.UnusedOn s t)
    (hpeers : Store.Peers fresh s t) (faults : Faults) (n : ℕ) :
    Matches none none ShownAlike ((auth.redeem now fresh redemption).perform faults ⟨s, none, n⟩)
      ((auth.redeem now fresh redemption).perform faults ⟨t, none, n⟩) := by
  cases redemption with
  | code g => exact (coupled_exchangeSteps g).transaction ⟨hunused.1, hunused.2, hpeers⟩ faults n
  | refresh used old =>
    exact (coupled_rotationSteps used old).transaction ⟨hunused.1, hunused.2, hpeers⟩ faults n

/-- **A redemption is answered the same**, but for the number of the access token, on stores that
are alike for it and to which the fresh texts are new. -/
theorem token_alike {s t : Store} (h : Store.Alike r s t) (hpeers : Store.Peers fresh s t)
    (faults : Faults) (n : ℕ) :
    ((auth.token now fresh r).perform faults ⟨t, none, n⟩).1.map AccessTokenView.unnumbered =
      ((auth.token now fresh r).perform faults ⟨s, none, n⟩).1.map AccessTokenView.unnumbered := by
  have hprepare : Coupled (fun s t => Store.Alike r s t ∧ Store.Peers fresh s t)
      (auth.prepare now r) (auth.prepare now r) _ := coupled_prepare fun h => h.1
  rw [token, perform_bind, perform_bind]
  obtain ⟨e, db, db', hs, ht⟩ | ⟨x, y, s', t', m, hs, ht, rfl, hunused, -, hpeers'⟩ :=
    hprepare faults none none n s t ⟨h, hpeers⟩ <;> simp only [Database.showing] at hs ht <;>
    rw [hs, ht]
  exact (redeem_matches hunused hpeers' faults m).map_eq.symm

end Authority

end OAuthGateway

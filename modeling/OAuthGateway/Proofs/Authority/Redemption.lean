import OAuthGateway.Proofs.Authority.Checklist
import OAuthGateway.Proofs.Authority.Outcome
import OAuthGateway.Proofs.Authority.Redeemability
import OAuthGateway.Proofs.Store.Completion

/-!
# Proofs/Authority/Redemption — what a redemption checks first and does last

Every redemption starts with the client (`screens_authenticate`), and ends with a transaction that
marks its credential as used and issues tokens.  On a store that is ready for the fresh texts, and
where no call fails, that transaction succeeds, and it is said here row by row what it leaves:
`perform_exchange` for a code, `perform_rotate` for a refresh token.
-/

namespace OAuthGateway

open Time Procedure Checklist

/-- Where one thing has a property that nothing else has, to look for one that has another property
as well is to ask it. -/
theorem exists_and_iff_of_unique {α : Type} {Q P : α → Prop} {a : α} (ha : Q a)
    (hunique : ∀ b, Q b → b = a) : (∃ b, Q b ∧ P b) ↔ P a := by
  constructor
  · rintro ⟨b, hb, hP⟩
    exact hunique b hb ▸ hP
  · exact fun hP => ⟨a, ha, hP⟩

/-! ## The client

Its conditions are the same for a code and for a refresh token. -/

/-- The application has the credentials of the request, and is not revoked. -/
structure TokenRequest.Authenticates (r : TokenRequest) (s : Store) (app : Application) : Prop where
  registered : app ∈ s.applications
  uid : r.clientUid = some app.clientUid
  secret : r.clientSecret = some app.clientSecret
  unrevoked : app.revokedAt = none

/-- A request authenticates one application. -/
theorem TokenRequest.Authenticates.unique {r : TokenRequest} {s : Store} {app app' : Application}
    (h : r.Authenticates s app) (hs : s.Sound) (h' : r.Authenticates s app') : app' = app :=
  hs.applications.eq_of_key_eq h'.registered h.registered
    (Option.some.inj (h'.uid.symm.trans h.uid))

/-- What every redemption asks of its client. -/
def TokenRequest.clientConditions (r : TokenRequest) (s : Store) : List Condition :=
  [⟨(∃ uid, r.clientUid = some uid) ∧ ∃ secret, r.clientSecret = some secret,
      .validation "client_uid and client_secret are required"⟩,
    ⟨∃ app, r.Authenticates s app, .notFound "application"⟩]

/-- What belongs to the client belongs to an application of the store. -/
theorem TokenRequest.Authenticates.hasApplication {r : TokenRequest} {s : Store}
    {app : Application} {id : Int} (h : r.Authenticates s app) (hid : id = app.id) :
    s.hasApplication id = true :=
  List.any_eq_true.2 ⟨app, h.registered, beq_iff_eq.2 hid.symm⟩

/-- A request that authenticates meets all conditions on the client. -/
theorem TokenRequest.Authenticates.passes {r : TokenRequest} {s : Store} {app : Application}
    (h : r.Authenticates s app) : Passes (r.clientConditions s) := by
  simp only [clientConditions, passes_cons]
  exact ⟨⟨⟨_, h.uid⟩, _, h.secret⟩, ⟨app, h⟩, passes_nil⟩

/-- **The client is authenticated by these conditions**, in their order. -/
theorem Authority.screens_authenticate {s : Store} (hs : s.Sound) (operation : Operation)
    (r : TokenRequest) :
    Screens s (r.clientConditions s) (r.Authenticates s)
      (authenticate operation r.clientUid r.clientSecret) := by
  by_cases hgiven : (∃ uid, r.clientUid = some uid) ∧ ∃ secret, r.clientSecret = some secret
  · obtain ⟨⟨uid, huid⟩, secret, hsecret⟩ := hgiven
    rw [huid, hsecret]
    have hlookup : ∀ app, s.client uid secret = .ok app ↔ r.Authenticates s app := by
      intro app
      rw [Store.client_eq_ok_iff hs]
      constructor
      · rintro ⟨hmem, rfl, rfl, hlive⟩
        exact ⟨hmem, huid, hsecret, hlive⟩
      · rintro ⟨hmem, huid', hsecret', hlive⟩
        exact ⟨hmem, Option.some.inj (huid'.symm.trans huid),
          Option.some.inj (hsecret'.symm.trans hsecret), hlive⟩
    exact Screens.after (l := [_]) (passes_singleton.2 ⟨⟨uid, huid⟩, secret, hsecret⟩)
      (screens_lookup hlookup fun _ => Table.eq_notFound_of_found)
  · have hthrow : authenticate operation r.clientUid r.clientSecret =
        verdict (.error .missingClientCredentials) := by
      unfold authenticate
      split <;> rename_i huid hsecret
      · exact absurd ⟨⟨_, huid⟩, _, hsecret⟩ hgiven
      · rfl
    rw [hthrow]
    exact screens_verdict (failsWith_cons_of_not hgiven)

/-! ## The credential is marked

Marking is a compare-and-swap, which succeeds on a credential that is unused. -/

namespace Store

/-- The store with a code used. -/
def withGrantUsed (s : Store) (g : Grant) (moment : Instant) : Store :=
  { s with
    grants := s.grants.map fun x => if x = g then { x with revokedAt := some moment } else x }

/-- The store with a refresh token used. -/
def withRefreshTokenUsed (s : Store) (u : RefreshToken) (moment : Instant) : Store :=
  { s with
    refreshTokens := s.refreshTokens.map fun x =>
      if x = u then { x with revokedAt := some moment } else x }

variable {s : Store}

theorem nextId_withRefreshTokenUsed (u : RefreshToken) (moment : Instant) :
    nextId (s.withRefreshTokenUsed u moment).refreshTokens = nextId s.refreshTokens := by
  rw [nextId, withRefreshTokenUsed, List.length_map, nextId]

/-- An unused code is marked as used. -/
theorem revokeGrant_eq (hs : s.Sound) {g : Grant} (hg : g ∈ s.grants) (hunused : g.revokedAt = none)
    (moment : Instant) : s.revokeGrant g.code moment = .ok ((), s.withGrantUsed g moment) :=
  congrArg (· >>= _) (hs.grants.amend_usable hg hunused _)

/-- An unused refresh token is marked as used. -/
theorem revokeRefreshToken_eq (hs : s.Sound) {u : RefreshToken} (hu : u ∈ s.refreshTokens)
    (hunused : u.revokedAt = none) (moment : Instant) :
    s.revokeRefreshToken u.token moment = .ok ((), s.withRefreshTokenUsed u moment) :=
  congrArg (· >>= _) (hs.refreshTokens.amend_usable hu hunused _)

end Store

/-! ## Tokens are issued

On a store that is ready, each statement succeeds and leaves what the next one needs. -/

namespace Authority

variable {auth : Authority} {now : Instant} {fresh : Credential.Fresh} {s : Store}

/-- A store that is ready takes the access token. -/
theorem completes_addAccessToken {d : AccessTokenDraft} {f : StoreError → Refusal}
    (hd : d.token = fresh.token) :
    Completes (fun s => s.Ready fresh ∧ s.hasApplication d.applicationId = true)
      ((Database.addAccessToken d).mapError f) fun id s => s.Added fresh d id :=
  completes_mapError f (completes_call fun ⟨hready, happ⟩ => hready.addAccessToken hd happ)

/-- A store with the access token takes the refresh token for it. -/
theorem completes_addRefreshToken {d : AccessTokenDraft} {id : Int} {f : StoreError → Refusal} :
    Completes (fun s => s.Added fresh d id)
      ((Database.addRefreshToken
        (auth.lifetimes.refreshTokenFor id now fresh.refreshToken)).mapError f)
      fun refreshId s =>
        s.AddedBoth d id (auth.lifetimes.refreshTokenFor id now fresh.refreshToken) refreshId :=
  completes_mapError f (completes_call fun hadded => hadded.addRefreshToken rfl rfl)

/-- The access token is read back. -/
theorem completes_readAccessToken {P : Store → Prop} {d : AccessTokenDraft} {id : Int}
    {f : StoreError → Refusal} (hP : ∀ {s}, P s → s.Sound ∧ d.row id ∈ s.accessTokens) :
    Completes P ((Database.accessToken id).mapError f) fun _ s => P s :=
  completes_mapError f (completes_look fun h =>
    ⟨_, Store.accessToken_of_added (hP h).1 (hP h).2, h⟩)

theorem completes_readRefreshToken {d : AccessTokenDraft} {id : Int} {e : RefreshTokenDraft}
    {refreshId : Int} {f : StoreError → Refusal} :
    Completes (fun s => s.AddedBoth d id e refreshId)
      ((Database.refreshToken refreshId).mapError f) fun _ s => s.AddedBoth d id e refreshId :=
  completes_mapError f (completes_look fun h =>
    ⟨_, Store.refreshToken_of_added h.sound h.refreshToken, h⟩)

/-- Issuing completes on a store that is ready. -/
theorem completes_issue {operation : Operation} {d : AccessTokenDraft}
    (hd : d.token = fresh.token) :
    Completes (fun s => s.Ready fresh ∧ s.hasApplication d.applicationId = true)
      (auth.issue operation d now fresh.refreshToken) fun _ _ => True := by
  refine completes_bind (completes_addAccessToken hd) fun id => ?_
  have hread : ∀ refresh : Option RefreshToken,
      Completes (fun s => s.Sound ∧ d.row id ∈ s.accessTokens)
        (do return (← (Database.accessToken id).mapError (failure operation), refresh))
        fun _ _ => True :=
    fun refresh => completes_bind (completes_readAccessToken fun h => h) fun token =>
      completes_pure fun _ => trivial
  dsimp only
  split
  · refine completes_bind completes_addRefreshToken fun refreshId => ?_
    exact completes_bind (completes_map completes_readRefreshToken fun h =>
      ⟨h.sound, h.accessToken⟩) hread
  · exact completes_bind (completes_pure fun h => ⟨h.sound, h.accessToken⟩) hread

/-- **An exchange completes** on a store that is ready, for a code that is unused. -/
theorem completes_exchangeSteps (g : Grant) :
    Completes (fun s => s.Ready fresh ∧ s.hasApplication g.applicationId = true ∧ g ∈ s.grants ∧
        g.revokedAt = none)
      (auth.exchangeSteps now fresh g) fun _ _ => True := by
  refine completes_bind (completes_mapError _ (completes_call ?_)) fun _ =>
    completes_bind (completes_issue rfl) fun _ => completes_pure fun _ => trivial
  rintro s ⟨hready, happ, hg, hunused⟩
  obtain ⟨s', hmarked, hready', happs⟩ := hready.revokeGrant hg hunused now
  refine ⟨(), s', hmarked, hready', ?_⟩
  rw [Store.hasApplication, happs]
  exact happ

/-- **A rotation completes** on a store that is ready, for a refresh token that is unused. -/
theorem completes_rotationSteps (used : RefreshToken) (old : AccessToken) :
    Completes (fun s => s.Ready fresh ∧ s.hasApplication old.applicationId = true ∧
        used ∈ s.refreshTokens ∧ used.revokedAt = none)
      (auth.rotationSteps now fresh used old) fun _ _ => True := by
  refine completes_bind (completes_mapError _ (completes_call ?_)) fun _ =>
    completes_bind (completes_addAccessToken rfl) fun id =>
      completes_bind completes_addRefreshToken fun refreshId =>
        completes_bind (completes_readAccessToken fun h => ⟨h.sound, h.accessToken⟩) fun _ =>
          completes_bind completes_readRefreshToken fun _ => completes_pure fun _ => trivial
  rintro s ⟨hready, happ, hu, hunused⟩
  obtain ⟨s', hmarked, hready', happs⟩ := hready.revokeRefreshToken hu hunused now
  refine ⟨(), s', hmarked, hready', ?_⟩
  rw [Store.hasApplication, happs]
  exact happ

/-! ## The transactions -/

variable (auth now) in
/-- **An exchange of an unused code succeeds**: the code is marked, the tokens are added, and they
are what is shown. -/
theorem perform_exchange {g : Grant} (hready : s.Ready fresh)
    (happ : s.hasApplication g.applicationId = true) (hg : g ∈ s.grants)
    (hunused : g.revokedAt = none) (n : ℕ) :
    let t := (auth.lifetimes.tokenForGrant g now fresh.token).row (Store.nextId s.accessTokens)
    let u := if auth.refreshEnabled then
      some ((auth.lifetimes.refreshTokenFor t.id now fresh.refreshToken).row
        (Store.nextId s.refreshTokens)) else none
    ∃ m, (auth.exchange now fresh g).perform .none ⟨s, none, n⟩ =
      (.ok (t.view u now), ⟨(s.withGrantUsed g now).withTokens t u, none, m⟩) := by
  obtain ⟨v, s', m, hsteps, hrun⟩ : ∃ v s' m,
      (auth.exchangeSteps now fresh g).perform .none ⟨s, some s, n + 1⟩ =
        (.ok v, ⟨s, some s', m⟩) ∧
      (auth.exchange now fresh g).perform .none ⟨s, none, n⟩ = (.ok v, ⟨s', none, m + 1⟩) :=
    (completes_exchangeSteps g).transaction ⟨hready, happ, hg, hunused⟩ n
  obtain ⟨s₁, t, u, s', k, hmarked, hissues, rfl, hdb⟩ := exchangeSteps_ok hready.sound hsteps
  rw [Store.revokeGrant_eq hready.sound hg hunused now] at hmarked
  cases hmarked
  cases hdb
  obtain ⟨rfl, rfl, rfl, -⟩ := hissues
  exact ⟨_, hrun⟩

variable (auth now) in
/-- **A rotation of an unused refresh token succeeds**: it is marked, the new tokens are added, and
they are what is shown. -/
theorem perform_rotate {used : RefreshToken} {old : AccessToken} (hready : s.Ready fresh)
    (happ : s.hasApplication old.applicationId = true) (hu : used ∈ s.refreshTokens)
    (hunused : used.revokedAt = none) (n : ℕ) :
    let t := (auth.lifetimes.tokenForToken old now fresh.token).row (Store.nextId s.accessTokens)
    let u := (auth.lifetimes.refreshTokenFor t.id now fresh.refreshToken).row
      (Store.nextId s.refreshTokens)
    ∃ m, (auth.rotate now fresh used old).perform .none ⟨s, none, n⟩ =
      (.ok (t.view (some u) now),
        ⟨(s.withRefreshTokenUsed used now).withTokens t (some u), none, m⟩) := by
  obtain ⟨v, s', m, hsteps, hrun⟩ : ∃ v s' m,
      (auth.rotationSteps now fresh used old).perform .none ⟨s, some s, n + 1⟩ =
        (.ok v, ⟨s, some s', m⟩) ∧
      (auth.rotate now fresh used old).perform .none ⟨s, none, n⟩ = (.ok v, ⟨s', none, m + 1⟩) :=
    (completes_rotationSteps used old).transaction ⟨hready, happ, hu, hunused⟩ n
  obtain ⟨s₁, t, u, s', k, hmarked, hissues, rfl, hdb⟩ := rotationSteps_ok hready.sound hsteps
  rw [Store.revokeRefreshToken_eq hready.sound hu hunused now] at hmarked
  cases hmarked
  cases hdb
  obtain ⟨rfl, rfl, rfl, -⟩ := hissues
  rw [Store.nextId_withRefreshTokenUsed] at hrun
  exact ⟨_, hrun⟩

end Authority

end OAuthGateway

import OAuthGateway.Proofs.Authority.Move
import OAuthGateway.Proofs.Authority.Redeemability

/-!
# Proofs/Authority/Isolation — a client changes its own credentials only

A request is of the application whose client id it names (`IssueRequest.Of`).  A credential is
looked up by its text, whosever it is; but what comes out of the checks is of the application that
was authenticated (`Cleared.applicationId`), so the transaction adds and marks rows of that
application only (`Authority.Written.confined`).  Requests of one application, in any number and
however they overlap, therefore leave every other application with what it holds, and each of its
credentials is redeemed as before (`clients_isolated`).
-/

namespace OAuthGateway

open Time Procedure

/-! ## Whose request it is

A request is of the application whose credentials it is made with. -/

/-- The client id that a request names. -/
def IssueRequest.clientUid : IssueRequest → Option String
  | .grantor r | .grant r | .grantToken r => r.clientUid
  | .token r => r.clientUid

/-- The request names the client id of the application; its secret may be wrong. -/
def IssueRequest.Of (s : Store) (app : Int) (q : IssueRequest) : Prop :=
  ∃ a ∈ s.applications, a.id = app ∧ q.clientUid = some a.clientUid

instance (s : Store) (app : Int) (q : IssueRequest) : Decidable (q.Of s app) :=
  inferInstanceAs (Decidable (∃ a ∈ s.applications, a.id = app ∧ q.clientUid = some a.clientUid))

/-- The application whose rows a transaction is about. -/
def Clearance.applicationId : Clearance → Int
  | .code _ app => app.id
  | .token _ app => app.id
  | .redemption (.code g) => g.applicationId
  | .redemption (.refresh _ old) => old.applicationId

variable {auth : Authority} {s s' : Store} {q : IssueRequest} {c : Clearance} {app : Int}
  {now : Instant} {fresh : Credential.Fresh} {faults : Faults} {n : ℕ}

/-- **Only what is of the client passes its checks.** -/
theorem Authority.Passed.exists_client (h : auth.Passed faults now s n q c) :
    ∃ uid secret a, q.clientUid = some uid ∧ s.client uid secret = .ok a ∧
      c.applicationId = a.id := by
  cases h with
  | grantorCode entitled | grantorToken entitled | grant entitled | grantToken entitled =>
    obtain ⟨uid, secret, huid, -, hfound⟩ := entitled.resolves
    exact ⟨uid, secret, _, huid, hfound, rfl⟩
  | token prepared =>
    cases prepared with
    | code client asked valid named found looked redeemable =>
      obtain ⟨uid, secret, huid, -, hfound⟩ := client
      exact ⟨uid, secret, _, huid, hfound, (Grant.redeemable_ok redeemable).1⟩
    | refresh client asked valid named found looked redeemable behind looked' owned =>
      obtain ⟨uid, secret, huid, -, hfound⟩ := client
      exact ⟨uid, secret, _, huid, hfound, AccessToken.ownedBy_ok owned⟩

/-- What was cleared for a request is of the application of the request: a client id names one
application for good. -/
theorem Cleared.applicationId (hs : s.Sound) (h : Cleared auth s q now c) (hof : q.Of s app) :
    c.applicationId = app := by
  obtain ⟨s₀, faults, n, hempty, hleads, hpassed⟩ := h
  obtain ⟨uid, secret, a, huid, hfound, happ⟩ := hpassed.exists_client
  obtain ⟨b, hb, rfl, hbuid⟩ := hof
  obtain ⟨ha, hauid, -⟩ :=
    (Store.client_eq_ok_iff (hempty.sound Store.sound_empty)).1 hfound
  obtain ⟨a', ha', hkept⟩ := hleads.grows.applications.exists_kept ha
  have hkey : Row.key a' = Row.key b :=
    calc Row.key a' = Row.key a := hkept.key_eq
      _ = uid := hauid
      _ = b.clientUid := Option.some.inj (huid.symm.trans hbuid)
  rw [happ, ← hs.applications.eq_of_key_eq ha' hb hkey]
  exact hkept.id_eq.symm

/-! ## What a transaction changes

Everything a transaction writes is of the application of its clearance. -/

theorem Issues.confined {lifetimes : Lifetimes} {enabled : Bool} {d : AccessTokenDraft}
    {text : String} {t : AccessToken} {u : Option RefreshToken}
    (h : Issues lifetimes enabled now d text s t u s') (hs : s.Sound)
    (hd : d.applicationId = app) : Store.Confined app s s' := by
  have ht : t.applicationId = app := by
    rw [h.token]
    exact hd
  have hs' := h.leads.sound hs
  rw [h.rows] at hs' ⊢
  have hadded : ∀ t' ∈ [t], t'.applicationId = app := fun t' ht' => List.mem_singleton.1 ht' ▸ ht
  refine (Store.Confined.addAccessTokens hadded s).trans (.addRefreshTokens ?_)
  -- no other access token has the id of the new one
  intro x hx t' ht' hid
  have hbound : x.accessTokenId = t.id := by
    rw [h.refresh] at hx
    split at hx
    · rw [Option.toList_some, List.mem_singleton] at hx
      rw [hx]
      rfl
    · exact absurd hx List.not_mem_nil
  have hsame : t' = t := hs'.accessTokens.eq_of_id_eq ht'
    (List.mem_append_right _ List.mem_cons_self) (hid.trans hbound)
  rw [hsame, ht]

/-- **A transaction changes rows of the application that it was cleared for.** -/
theorem Authority.Written.confined_applicationId {issued : Issued}
    (h : auth.Written now fresh s c issued s') (hs : s.Sound) (hcleared : Cleared auth s q now c) :
    Store.Confined c.applicationId s s' := by
  cases h with
  | @code r a g s' added rows leads =>
    subst rows added
    exact .addGrants (fun g hg => List.mem_singleton.1 hg ▸ rfl) s
  | token issues => exact issues.confined hs rfl
  | exchange marked issues =>
    obtain ⟨g', hg', hkept⟩ := hcleared.exists_grant
    refine (Store.Confined.revokeGrant marked fun row hrow hcode => ?_).trans
      (issues.confined ((Store.Step.revokeGrant marked).sound hs) rfl)
    rw [hs.grants.eq_of_key_eq hrow hg' (hcode.trans hkept.key_eq.symm),
      Row.grant_applicationId_of_kept hkept]
    rfl
  | rotation marked issues =>
    obtain ⟨⟨used', hused', hkept⟩, old', hold', hkept', hid⟩ := hcleared.exists_refreshToken
    refine (Store.Confined.revokeRefreshToken marked fun row hrow htext t ht htid => ?_).trans
      (issues.confined ((Store.Step.revokeRefreshToken marked).sound hs) rfl)
    have hrow' : row = used' :=
      hs.refreshTokens.eq_of_key_eq hrow hused' (htext.trans hkept.key_eq.symm)
    have hbehind : t.id = old'.id := by
      rw [htid, hrow', Row.accessTokenId_of_kept hkept, hid]
    rw [hs.accessTokens.eq_of_id_eq ht hold' hbehind, Row.accessToken_applicationId_of_kept hkept']
    rfl

theorem Authority.Written.confined {issued : Issued} (h : auth.Written now fresh s c issued s')
    (hs : s.Sound) (hcleared : Cleared auth s q now c) (hof : q.Of s app) :
    Store.Confined app s s' :=
  hcleared.applicationId hs hof ▸ h.confined_applicationId hs hcleared

/-- A request that is answered has passed its checks, and its transaction has written. -/
theorem Authority.answer_ok {issued : Issued} {db : Database} (hs : s.Sound)
    (h : (auth.answer now fresh q).perform faults ⟨s, none, n⟩ = (.ok issued, db)) :
    ∃ c, auth.Passed faults now s n q c ∧ auth.Written now fresh s c issued db.committed := by
  rw [answer_eq_bind] at h
  obtain ⟨c, ⟨d, p, m⟩, hclear, hwrite⟩ := bind_ok h
  -- the transaction starts from the rows that the checks looked at
  have hkept := auth.keeps_untouched_clear now q faults ⟨s, none, n⟩
  rw [hclear] at hkept
  obtain ⟨rfl, rfl⟩ : d = s ∧ p = none := hkept
  exact ⟨c, clear_ok hclear, write_ok hs hwrite⟩

/-- **An answer changes rows of the application that asked**, if any, whatever fails. -/
theorem Authority.confined_answer (hs : Store.empty.Leads s) (hof : q.Of s app) :
    Store.Confined app s
      ((auth.answer now fresh q).perform faults ⟨s, none, n⟩).2.committed := by
  rcases hrun : (auth.answer now fresh q).perform faults ⟨s, none, n⟩ with ⟨e | issued, db⟩
  · rw [(auth.atomic_answer now fresh q).unchanged hrun]
    exact .refl app s
  · have hsound := hs.sound Store.sound_empty
    obtain ⟨c, hpassed, hwritten⟩ := answer_ok hsound hrun
    have hcleared : Cleared auth s q now c := ⟨s, faults, n, hs, .refl s, hpassed⟩
    exact hwritten.confined hsound hcleared hof

/-! ## What a sequence of requests changes -/

/-- The move serves the application: it checks a request of it, writes for one that waits, or gives
one up. -/
inductive Move.Serves (w : Traffic) (app : Int) : Move → Prop
  | clear {q : IssueRequest} {now : Instant} {faults : Faults} (of : q.Of w.store app) :
      Move.Serves w app (.clear q now faults)
  | write {place : ℕ} {fresh : Credential.Fresh} {faults : Faults}
      (of : ∀ task ∈ w.waiting[place]?, task.request.Of w.store app) :
      Move.Serves w app (.write place fresh faults)
  | abandon {place : ℕ} : Move.Serves w app (.abandon place)

namespace Traffic

variable {w : Traffic}

/-- All moves of the list, one after the other, serve the application. -/
inductive Serving (auth : Authority) (app : Int) : Traffic → List Move → Prop
  | nil {w : Traffic} : Serving auth app w []
  | cons {w : Traffic} {move : Move} {moves : List Move} (serves : move.Serves w app)
      (rest : Serving auth app (step auth w move) moves) : Serving auth app w (move :: moves)

/-- A transaction of the traffic changes rows of the application of its request. -/
theorem confined_write (hw : w.Sound auth) {place : ℕ} {task : Task}
    (hwaits : w.waiting[place]? = some task) (fresh : Credential.Fresh) (faults : Faults) :
    Store.Confined task.clearance.applicationId w.store
      (step auth w (.write place fresh faults)).store := by
  simp only [step, hwaits]
  rcases hrun : (auth.write task.now fresh task.clearance).perform faults (.ofStore w.store)
    with ⟨e | issued, db⟩
  · rw [(auth.atomic_write task.now fresh task.clearance).unchanged hrun]
    exact .refl _ _
  · exact (Authority.write_ok hw.store hrun).confined_applicationId hw.store
      (hw.cleared task (List.mem_of_getElem? hwaits))

theorem confined_step {move : Move} (hw : w.Sound auth) (h : move.Serves w app) :
    Store.Confined app w.store (step auth w move).store := by
  cases h with
  | @clear q now faults of => exact (store_step_clear w q now faults).symm ▸ .refl app _
  | @write place fresh faults of =>
    cases htask : w.waiting[place]? with
    | none => simp only [step, htask]; exact .refl app _
    | some task =>
      have happ := (hw.cleared task (List.mem_of_getElem? htask)).applicationId hw.store
        (of task htask)
      exact happ ▸ confined_write hw htask fresh faults
  | abandon => exact .refl app _

/-- **Requests of one application change its own rows only**, however they overlap. -/
theorem Serving.confined {moves : List Move} (h : Serving auth app w moves) (hw : w.Sound auth) :
    Store.Confined app w.store (moves.foldl (step auth) w).store := by
  induction h with
  | nil => exact .refl app _
  | @cons w move moves serves rest ih =>
    exact (confined_step hw serves).trans (ih (hw.step move))

end Traffic

/-- What is new to a store was new to those that led to it. -/
theorem Store.Ready.of_leads (h : s'.Ready fresh) (hs : s.Sound) (hleads : s.Leads s') :
    s.Ready fresh where
  sound := hs
  accessToken t ht := by
    obtain ⟨t', ht', hkept⟩ := hleads.grows.accessTokens.exists_kept ht
    exact fun htoken => h.accessToken t' ht' (hkept.key_eq.trans htoken)
  refreshToken u hu := by
    obtain ⟨u', hu', hkept⟩ := hleads.grows.refreshTokens.exists_kept hu
    exact fun htoken => h.refreshToken u' hu' (hkept.key_eq.trans htoken)

namespace Traffic

/-- **Clients are isolated.**  A request of an application, whatever it presents and whatever fails,
changes no row of another: what it adds and what it redeems is of its application.  So does any
sequence of its requests, however they overlap; and after it, a code or refresh token that another
application held before is redeemed as it would have been then.  The checks come to the same
verdict, and the answer is the same but for the number of the access token, if the fresh texts are
new. -/
theorem clients_isolated (auth : Authority) (moves : List Move) (app : Int) :
    (∀ q : IssueRequest, q.Of (after auth moves).store app → ∀ now fresh faults,
      Store.ChangedFor app (after auth moves).store ((auth.answer now fresh q).perform faults
        (.ofStore (after auth moves).store)).2.committed) ∧
    ∀ later, Serving auth app (after auth moves) later →
      Store.ChangedFor app (after auth moves).store (after auth (moves ++ later)).store ∧
      ∀ other, other ≠ app → ∀ r : TokenRequest,
        r.Presents ((after auth moves).store.holdings other) → ∀ now faults,
          ((auth.prepare now r).perform faults (.ofStore (after auth (moves ++ later)).store)).1 =
            ((auth.prepare now r).perform faults (.ofStore (after auth moves).store)).1 ∧
          ∀ fresh, (after auth (moves ++ later)).store.Ready fresh →
            ((auth.token now fresh r).perform faults
                (.ofStore (after auth (moves ++ later)).store)).1.map AccessTokenView.unnumbered =
              ((auth.token now fresh r).perform faults
                (.ofStore (after auth moves).store)).1.map AccessTokenView.unnumbered := by
  have hw := sound_after auth moves
  refine ⟨fun q hof now fresh faults => ?_, fun later hlater => ?_⟩
  · refine (Authority.confined_answer hw.reachable hof).changedFor hw.reachable ?_
    exact ((auth.atomic_answer now fresh q).settled faults (.ofStore _) rfl).2
  · have hw' := sound_after auth (moves ++ later)
    have hleads := hw.leads_foldl later
    have hconfined := hlater.confined hw
    rw [← after_append] at hleads hconfined
    refine ⟨hconfined.changedFor hw.reachable hleads, fun other hother r hpresents now faults => ?_⟩
    have halike : Store.Alike r (after auth moves).store (after auth (moves ++ later)).store :=
      ⟨hconfined.applications, hw.store, hw'.store, other, hpresents,
        hconfined.holdings other hother⟩
    refine ⟨Authority.prepare_alike halike faults 0, fun fresh hready => ?_⟩
    exact Authority.token_alike halike
      ⟨hconfined.applications, hready.of_leads hw.store hleads, hready⟩ faults 0

end Traffic

/-! ## A rival -/

namespace Race

/-- What a second client is registered with. -/
def rival : Credential.Fresh := { Race.fresh 8 with clientUid := "uid2", clientSecret := "secret2" }

/-- The rival presents the code of the race. -/
def theft : TokenRequest :=
  { exchange with clientUid := some "uid2", clientSecret := some "secret2" }

/-- The rival asks for a code of its own. -/
def rivalGrant : GrantRequest :=
  { grant with clientUid := some "uid2", clientSecret := some "secret2" }

/-- The race when the code has been issued and the rival is registered. -/
def contested : List Move := moves.take 3 ++ [.administer (.create form) .epoch rival .none]

/-- What the rival does next. -/
def rivalry : List Move :=
  [.clear (.token theft) .epoch .none, .clear (.grant rivalGrant) .epoch .none,
    .write 0 (Race.fresh 9) .none]

end Race

namespace Traffic

/-- The rival's attempt at the code changes no row of another client, and when it has got a code of
its own besides, the code of the race is exchanged as before. -/
theorem clients_isolated_race :
    Store.ChangedFor 2 (after Race.authority Race.contested).store
      ((Race.authority.answer .epoch (Race.fresh 9) (.token Race.theft)).perform .none
        (.ofStore (after Race.authority Race.contested).store)).2.committed ∧
    ∃ v, ((Race.authority.token .epoch (Race.fresh 10) Race.exchange).perform .none
        (.ofStore (after Race.authority (Race.contested ++ Race.rivalry)).store)).1.map
          AccessTokenView.unnumbered = .ok v ∧ v.token = "token10" := by
  have hof : (IssueRequest.token Race.theft).Of (after Race.authority Race.contested).store 2 := by
    decide +kernel
  have hserving : Serving Race.authority 2 (after Race.authority Race.contested) Race.rivalry := by
    refine .cons (.clear hof) (.cons (.clear ?_) (.cons (.write ?_) .nil))
    · decide +kernel
    · decide +kernel
  have hpresents : Race.exchange.Presents
      ((after Race.authority Race.contested).store.holdings 1) :=
    .code (g := Race.code) rfl (by decide +kernel) rfl
  have hready : (after Race.authority (Race.contested ++ Race.rivalry)).store.Ready
      (Race.fresh 10) := ⟨(sound_after _ _).store, by decide +kernel, by decide +kernel⟩
  have hbefore : ∃ v, ((Race.authority.token .epoch (Race.fresh 10) Race.exchange).perform .none
      (.ofStore (after Race.authority Race.contested).store)).1.map
        AccessTokenView.unnumbered = .ok v ∧ v.token = "token10" := ⟨_, rfl, rfl⟩
  obtain ⟨hone, hmany⟩ := clients_isolated Race.authority Race.contested 2
  obtain ⟨-, hsame⟩ :=
    (hmany Race.rivalry hserving).2 1 (by decide) Race.exchange hpresents .epoch .none
  obtain ⟨v, hv, htext⟩ := hbefore
  exact ⟨hone _ hof .epoch (Race.fresh 9) .none, v, (hsame _ hready).trans hv, htext⟩

end Traffic

end OAuthGateway

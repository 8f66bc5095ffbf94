import OAuthGateway.Proofs.Authority.Traffic

/-!
# Proofs/Authority/Move — what one move does, and what every run keeps

A waiting request was `Cleared`: its checks passed on an earlier store, from which statements led to
the present one.  An answer has one of seven `Effect`s on the rows (`step_effect`): a refusal has
none, a success did what its transaction does.  Every run keeps the store reachable by statements
and the waiting requests cleared (`Traffic.sound_after`), so a property of rows and answers that
every `Effect` preserves holds after any moves (`Traffic.after_effects`).  Where the request itself
matters, what is new after a move is told by where it comes from: what waits was cleared by the move
(`mem_waiting_step`), what is in the log was answered by it (`answers_of_mem_log`), and what was
issued was written for a request that waited (`written_of_issued`, `mem_log_step`).
-/

namespace OAuthGateway

open Time Procedure

/-! ## Clearances are kept -/

/-- The checks of the request passed on a store that led to this one. -/
def Cleared (auth : Authority) (s : Store) (q : IssueRequest) (now : Instant) (c : Clearance) :
    Prop :=
  ∃ s₀ faults n, Store.empty.Leads s₀ ∧ s₀.Leads s ∧ auth.Passed faults now s₀ n q c

namespace Cleared

variable {auth : Authority} {s s' : Store} {q : IssueRequest} {now : Instant}

theorem mono {c : Clearance} (hleads : s.Leads s') (h : Cleared auth s q now c) :
    Cleared auth s' q now c := by
  obtain ⟨s₀, faults, n, hempty, hs₀, hpassed⟩ := h
  exact ⟨s₀, faults, n, hempty, hs₀.trans hleads, hpassed⟩

theorem redemption {redemption : Redemption} (h : Cleared auth s q now (.redemption redemption)) :
    ∃ r, q = .token r := by
  obtain ⟨s₀, faults, n, -, -, hpassed⟩ := h
  cases hpassed with
  | token prepared => exact ⟨_, rfl⟩

/-- The code of a cleared exchange is the one that its request names. -/
theorem exchange {r : TokenRequest} {g : Grant}
    (h : Cleared auth s (.token r) now (.redemption (.code g))) :
    r.grantType = some "authorization_code" ∧ r.code = some g.code := by
  obtain ⟨s₀, faults, n, hempty, -, hpassed⟩ := h
  cases hpassed with
  | token prepared =>
    cases prepared with
    | code client asked valid named found looked redeemable =>
      obtain ⟨-, hcode⟩ := (Store.grantOfCode_eq_ok_iff (hempty.sound Store.sound_empty)).1 found
      exact ⟨(validate_authorizationCode valid).1, hcode ▸ named⟩

/-- The refresh token of a cleared rotation is the one that its request names. -/
theorem rotation {r : TokenRequest} {used : RefreshToken} {old : AccessToken}
    (h : Cleared auth s (.token r) now (.redemption (.refresh used old))) :
    r.grantType = some "refresh_token" ∧ r.refreshToken = some used.token ∧
      auth.refreshEnabled = true := by
  obtain ⟨s₀, faults, n, hempty, -, hpassed⟩ := h
  cases hpassed with
  | token prepared =>
    cases prepared with
    | refresh client asked valid named found looked redeemable behind looked' owned =>
      obtain ⟨htype, henabled, -⟩ := validate_refreshToken valid
      obtain ⟨-, htext⟩ :=
        (Store.refreshTokenOfText_eq_ok_iff (hempty.sound Store.sound_empty)).1 found
      exact ⟨htype, htext ▸ named, henabled⟩

/-- The code of a cleared exchange is still there. -/
theorem exists_grant {g : Grant} (h : Cleared auth s q now (.redemption (.code g))) :
    ∃ g' ∈ s.grants, Row.Kept g g' := by
  obtain ⟨s₀, faults, n, hempty, hleads, hpassed⟩ := h
  cases hpassed with
  | token prepared =>
    cases prepared with
    | code client asked valid named found looked redeemable =>
      obtain ⟨hg, -⟩ := (Store.grantOfCode_eq_ok_iff (hempty.sound Store.sound_empty)).1 found
      exact hleads.grows.grants.exists_kept hg

/-- The refresh token of a cleared rotation is still there, and the access token behind it. -/
theorem exists_refreshToken {used : RefreshToken} {old : AccessToken}
    (h : Cleared auth s q now (.redemption (.refresh used old))) :
    (∃ used' ∈ s.refreshTokens, Row.Kept used used') ∧
      ∃ old' ∈ s.accessTokens, Row.Kept old old' ∧ old'.id = used.accessTokenId := by
  obtain ⟨s₀, faults, n, hempty, hleads, hpassed⟩ := h
  cases hpassed with
  | token prepared =>
    cases prepared with
    | refresh client asked valid named found looked redeemable behind looked' owned =>
      have hs₀ := hempty.sound Store.sound_empty
      obtain ⟨hused, -⟩ := (Store.refreshTokenOfText_eq_ok_iff hs₀).1 found
      obtain ⟨hold, hid⟩ := (Store.accessToken_eq_ok_iff hs₀).1 behind
      obtain ⟨old', hold', hkept⟩ := hleads.grows.accessTokens.exists_kept hold
      exact ⟨hleads.grows.refreshTokens.exists_kept hused, old', hold', hkept,
        hkept.id_eq.trans hid⟩

end Cleared

/-! ## Effects -/

/-- What an answer says has been done to the rows. -/
inductive Effect (auth : Authority) (s : Store) : Event → Store → Prop
  /-- Nothing is issued. -/
  | refused {q : IssueRequest} {e : Refusal} : Effect auth s (.issue q (.error e)) s
  /-- A code is added. -/
  | code {q : IssueRequest} {r : GrantRequest} {app : Application} {now : Instant}
      {fresh : Credential.Fresh} {g : Grant} {s' : Store}
      (cleared : Cleared auth s q now (.code r app))
      (added : g = (auth.lifetimes.codeFor r app now fresh.code).row (Store.nextId s.grants))
      (rows : s' = { s with grants := s.grants ++ [g] }) (leads : s.Leads s') :
      Effect auth s (.issue q (.ok (.grant (g.view now)))) s'
  /-- Tokens are added without a code. -/
  | token {q : IssueRequest} {r : GrantRequest} {app : Application} {now : Instant}
      {fresh : Credential.Fresh} {t : AccessToken} {u : Option RefreshToken} {s' : Store}
      (cleared : Cleared auth s q now (.token r app))
      (issues : Issues auth.lifetimes auth.refreshEnabled now
        (auth.lifetimes.tokenFor r app now fresh.token) fresh.refreshToken s t u s') :
      Effect auth s (.issue q (.ok (.token (t.view u now)))) s'
  /-- A code is marked as used, and tokens are added. -/
  | exchange {r : TokenRequest} {g : Grant} {now : Instant} {fresh : Credential.Fresh}
      {s₁ : Store} {t : AccessToken} {u : Option RefreshToken} {s' : Store}
      (cleared : Cleared auth s (.token r) now (.redemption (.code g)))
      (marked : s.revokeGrant g.code now = .ok ((), s₁))
      (issues : Issues auth.lifetimes auth.refreshEnabled now
        (auth.lifetimes.tokenForGrant g now fresh.token) fresh.refreshToken s₁ t u s') :
      Effect auth s (.issue (.token r) (.ok (.token (t.view u now)))) s'
  /-- A refresh token is marked as used, and tokens are added. -/
  | rotation {r : TokenRequest} {used : RefreshToken} {old : AccessToken} {now : Instant}
      {fresh : Credential.Fresh} {s₁ : Store} {t : AccessToken} {u : Option RefreshToken}
      {s' : Store}
      (cleared : Cleared auth s (.token r) now (.redemption (.refresh used old)))
      (marked : s.revokeRefreshToken used.token now = .ok ((), s₁))
      (issues : Issues auth.lifetimes auth.refreshEnabled now
        (auth.lifetimes.tokenForToken old now fresh.token) fresh.refreshToken s₁ t u s') :
      Effect auth s (.issue (.token r) (.ok (.token (t.view u now)))) s'
  /-- An access token is marked as revoked, or nothing is. -/
  | revocation {r : RevokeRequest} {answer : Except Refusal Unit} {s' : Store}
      (withdrawn : s.Withdrawn s') : Effect auth s (.revoke r answer) s'
  /-- Applications change. -/
  | errand {errand : Errand} {answer : Except Refusal Errand.Result} {s' : Store}
      (administered : s.Administered s') : Effect auth s (.administer errand answer) s'

namespace Effect

variable {auth : Authority} {s s' : Store}

/-- Whatever an answer has done, it has done by statements. -/
theorem leads {e : Event} (h : Effect auth s e s') : s.Leads s' := by
  cases h with
  | refused => exact .refl s
  | code cleared added rows leads => exact leads
  | token cleared issues => exact issues.leads
  | exchange cleared marked issues =>
    exact (Store.Leads.single (.revokeGrant marked)).trans issues.leads
  | rotation cleared marked issues =>
    exact (Store.Leads.single (.revokeRefreshToken marked)).trans issues.leads
  | revocation withdrawn => exact withdrawn.leads
  | errand administered => exact administered.leads

variable {q : IssueRequest} {now : Instant} {fresh : Credential.Fresh} {faults : Faults} {n : ℕ}
  {db : Database}

/-- **The transaction of a cleared request** has the effect that its answer says. -/
theorem of_write {c : Clearance} {answer : Except Refusal Issued} (hs : s.Sound)
    (hcleared : Cleared auth s q now c)
    (h : (auth.write now fresh c).perform faults ⟨s, none, n⟩ = (answer, db)) :
    Effect auth s (.issue q answer) db.committed := by
  cases answer with
  | error e =>
    rw [(auth.atomic_write now fresh c).unchanged h]
    exact .refused
  | ok issued =>
    cases Authority.write_ok hs h with
    | code added rows leads => exact .code hcleared added rows leads
    | token issues => exact .token hcleared issues
    | exchange marked issues =>
      obtain ⟨r, rfl⟩ := hcleared.redemption
      exact .exchange hcleared marked issues
    | rotation marked issues =>
      obtain ⟨r, rfl⟩ := hcleared.redemption
      exact .rotation hcleared marked (hcleared.rotation.2.2 ▸ issues)

end Effect

/-! ## Moves -/

namespace Traffic

variable {auth : Authority} {w : Traffic}

/-- Statements led to the store, and all that waits was cleared. -/
structure Sound (auth : Authority) (w : Traffic) : Prop where
  reachable : Store.empty.Leads w.store
  cleared : ∀ task ∈ w.waiting, Cleared auth w.store task.request task.now task.clearance

theorem Sound.store (hw : w.Sound auth) : w.store.Sound := hw.reachable.sound Store.sound_empty

/-- **What a move does**: it answers nothing and changes no rows, or it gives one answer and has the
effect that the answer says. -/
theorem step_effect (hw : w.Sound auth) (move : Move) :
    ((step auth w move).store = w.store ∧ (step auth w move).log = w.log) ∨
      ∃ e, (step auth w move).log = e :: w.log ∧
        Effect auth w.store e (step auth w move).store := by
  cases move with
  | clear q now faults =>
    rw [store_step_clear]
    rcases hrun : (auth.clear now q).perform faults (.ofStore w.store) with ⟨e | c, db⟩ <;>
      simp only [step, hrun]
    · exact .inr ⟨_, rfl, .refused⟩
    · exact .inl ⟨trivial, trivial⟩
  | write place fresh faults =>
    cases htask : w.waiting[place]? with
    | none => exact .inl (by simp only [step, htask, and_self])
    | some task =>
      simp only [step, htask]
      exact .inr ⟨_, rfl, .of_write hw.store (hw.cleared task (List.mem_of_getElem? htask)) rfl⟩
  | abandon place => exact .inl ⟨rfl, rfl⟩
  | revoke r now faults =>
    refine .inr ⟨_, rfl, .revocation ?_⟩
    have hstore : (step auth w (.revoke r now faults)).store =
      ((Authority.revokeToken now r).perform faults (.ofStore w.store)).2.committed := rfl
    rw [hstore]
    rcases hrun : (Authority.revokeToken now r).perform faults (.ofStore w.store) with ⟨e | v, db⟩
    · rw [(Authority.atomic_revokeToken now r).unchanged hrun]
      exact .refl _
    · obtain ⟨text, _, hverdict, hrun⟩ := bind_ok hrun
      cases (Prod.mk.inj hverdict).2
      obtain ⟨s', hrevoke, rfl⟩ := call_ok (mapError_ok hrun)
      exact .revoke hrevoke
  | administer errand now fresh faults =>
    refine .inr ⟨_, rfl, .errand ?_⟩
    exact (errand.keeps_administered_answer now fresh faults (.ofStore w.store) rfl).2

/-- A move gives one answer at most. -/
theorem log_step (w : Traffic) (move : Move) :
    (step auth w move).log = w.log ∨ ∃ e, (step auth w move).log = e :: w.log := by
  cases move with
  | clear q now faults =>
    rcases hrun : (auth.clear now q).perform faults (.ofStore w.store) with ⟨e | c, db⟩ <;>
      simp only [step, hrun]
    · exact .inr ⟨_, rfl⟩
    · exact .inl trivial
  | write place fresh faults =>
    cases htask : w.waiting[place]? with
    | none => exact .inl (by simp only [step, htask])
    | some task =>
      simp only [step, htask]
      exact .inr ⟨_, rfl⟩
  | abandon place => exact .inl rfl
  | revoke r now faults => exact .inr ⟨_, rfl⟩
  | administer errand now fresh faults => exact .inr ⟨_, rfl⟩

/-- **What waits after a move**: what has waited before, or a part of it, or a request besides that
the move has cleared. -/
theorem waiting_step (w : Traffic) (move : Move) :
    (step auth w move).waiting.Sublist w.waiting ∨
      ∃ task faults db, (step auth w move).waiting = task :: w.waiting ∧
        move = .clear task.request task.now faults ∧
        (auth.clear task.now task.request).perform faults (.ofStore w.store) =
          (.ok task.clearance, db) := by
  cases move with
  | clear q now faults =>
    rcases hrun : (auth.clear now q).perform faults (.ofStore w.store) with ⟨e | c, db⟩ <;>
      simp only [step, hrun]
    · exact .inl (List.Sublist.refl _)
    · exact .inr ⟨⟨q, now, c⟩, faults, db, rfl, rfl, hrun⟩
  | write place fresh faults =>
    cases htask : w.waiting[place]? with
    | none => simp only [step, htask]; exact .inl (List.Sublist.refl _)
    | some task => simp only [step, htask]; exact .inl (List.eraseIdx_sublist _ _)
  | abandon place => exact .inl (List.eraseIdx_sublist _ _)
  | revoke r now faults => exact .inl (List.Sublist.refl _)
  | administer errand now fresh faults => exact .inl (List.Sublist.refl _)

/-- A request that waits after a move has waited before, or this move has cleared it. -/
theorem mem_waiting_step {move : Move} {task : Task} (h : task ∈ (step auth w move).waiting) :
    task ∈ w.waiting ∨ ∃ faults db, move = .clear task.request task.now faults ∧
      (auth.clear task.now task.request).perform faults (.ofStore w.store) =
        (.ok task.clearance, db) := by
  rcases @waiting_step auth w move with hsub | ⟨task', faults, db, hwaiting, hmove, hrun⟩
  · exact .inl (hsub.subset h)
  · rw [hwaiting] at h
    rcases List.mem_cons.1 h with rfl | h
    · exact .inr ⟨faults, db, hmove, hrun⟩
    · exact .inl h

/-- The procedure whose answer a move gives, with the answer and the rows it has left. -/
inductive Answers (auth : Authority) (w : Traffic) : Move → Event → Store → Prop
  | refused {q : IssueRequest} {now : Instant} {faults : Faults} {e : Refusal} {db : Database}
      (run : (auth.clear now q).perform faults (.ofStore w.store) = (.error e, db)) :
      Answers auth w (.clear q now faults) (.issue q (.error e)) db.committed
  | written {place : ℕ} {fresh : Credential.Fresh} {faults : Faults} {task : Task}
      {answer : Except Refusal Issued} {db : Database} (waits : w.waiting[place]? = some task)
      (run : (auth.write task.now fresh task.clearance).perform faults (.ofStore w.store) =
        (answer, db)) :
      Answers auth w (.write place fresh faults) (.issue task.request answer) db.committed
  | revoked {r : RevokeRequest} {now : Instant} {faults : Faults} {answer : Except Refusal Unit}
      {db : Database}
      (run : (Authority.revokeToken now r).perform faults (.ofStore w.store) = (answer, db)) :
      Answers auth w (.revoke r now faults) (.revoke r answer) db.committed
  | administered {errand : Errand} {now : Instant} {fresh : Credential.Fresh} {faults : Faults}
      {answer : Except Refusal Errand.Result} {db : Database}
      (run : (errand.answer now fresh).perform faults (.ofStore w.store) = (answer, db)) :
      Answers auth w (.administer errand now fresh faults) (.administer errand answer) db.committed

/-- **An answer in the log was given by its procedure.** -/
theorem answers_of_log {move : Move} {e : Event} (h : (step auth w move).log = e :: w.log) :
    Answers auth w move e (step auth w move).store := by
  cases move with
  | clear q now faults =>
    rcases hrun : (auth.clear now q).perform faults (.ofStore w.store) with ⟨e | c, db⟩ <;>
      simp only [step, hrun] at h ⊢
    · cases (List.cons.inj h).1
      exact .refused hrun
    · exact absurd h.symm (List.cons_ne_self _ _)
  | write place fresh faults =>
    cases htask : w.waiting[place]? with
    | none =>
      rw [step, htask] at h
      exact absurd h.symm (List.cons_ne_self _ _)
    | some task =>
      simp only [step, htask] at h ⊢
      cases (List.cons.inj h).1
      exact .written htask rfl
  | abandon place => exact absurd h.symm (List.cons_ne_self _ _)
  | revoke r now faults =>
    cases (List.cons.inj h).1
    exact .revoked rfl
  | administer errand now fresh faults =>
    cases (List.cons.inj h).1
    exact .administered rfl

/-- What is in the log after a move was there before, or is what this move has answered. -/
theorem answers_of_mem_log {move : Move} {e : Event} (h : e ∈ (step auth w move).log) :
    e ∈ w.log ∨ (step auth w move).log = e :: w.log ∧
      Answers auth w move e (step auth w move).store := by
  rcases @log_step auth w move with hlog | ⟨e', hlog⟩
  · exact .inl (hlog ▸ h)
  · rcases List.mem_cons.1 (hlog ▸ h) with rfl | hbefore
    · exact .inr ⟨hlog, answers_of_log hlog⟩
    · exact .inl hbefore

/-- What a move issues is the answer of a transaction to a request that waited. -/
theorem performed_of_issued {move : Move} {q : IssueRequest} {issued : Issued}
    (h : (step auth w move).log = .issue q (.ok issued) :: w.log) :
    ∃ task ∈ w.waiting, task.request = q ∧ ∃ fresh faults db,
      (auth.write task.now fresh task.clearance).perform faults (.ofStore w.store) =
        (.ok issued, db) ∧ (step auth w move).store = db.committed := by
  have hanswers := answers_of_log h
  generalize (step auth w move).store = s' at hanswers ⊢
  cases hanswers with
  | written waits run =>
    exact ⟨_, List.mem_of_getElem? waits, rfl, _, _, _, run, rfl⟩

/-- What a move issues it has written. -/
theorem written_of_issued {move : Move} (hw : w.Sound auth) {q : IssueRequest} {issued : Issued}
    (h : (step auth w move).log = .issue q (.ok issued) :: w.log) :
    ∃ task ∈ w.waiting, task.request = q ∧ ∃ fresh,
      auth.Written task.now fresh w.store task.clearance issued (step auth w move).store := by
  obtain ⟨task, htask, hq, fresh, faults, db, hrun, hstore⟩ := performed_of_issued h
  exact ⟨task, htask, hq, fresh, hstore ▸ Authority.write_ok hw.store hrun⟩

/-- What is new in the log after a move is one answer; what that issues was written. -/
theorem mem_log_step {move : Move} (hw : w.Sound auth) {q : IssueRequest} {issued : Issued}
    (h : .issue q (.ok issued) ∈ (step auth w move).log) :
    .issue q (.ok issued) ∈ w.log ∨
      (step auth w move).log = .issue q (.ok issued) :: w.log ∧
        ∃ task ∈ w.waiting, task.request = q ∧ ∃ fresh,
          auth.Written task.now fresh w.store task.clearance issued (step auth w move).store := by
  rcases answers_of_mem_log h with hbefore | ⟨hlog, -⟩
  · exact .inl hbefore
  · exact .inr ⟨hlog, written_of_issued hw hlog⟩

/-- Answers stay in the log. -/
theorem log_suffix_step (w : Traffic) (move : Move) : w.log <:+ (step auth w move).log := by
  rcases log_step w move with hlog | ⟨e, hlog⟩
  · exact ⟨[], hlog.symm⟩
  · exact ⟨[e], hlog.symm⟩

theorem Sound.leads_step (hw : w.Sound auth) (move : Move) :
    w.store.Leads (step auth w move).store := by
  rcases step_effect hw move with ⟨hstore, -⟩ | ⟨e, -, heffect⟩
  · exact hstore ▸ .refl _
  · exact heffect.leads

theorem Sound.step (hw : w.Sound auth) (move : Move) : (step auth w move).Sound auth where
  reachable := hw.reachable.trans (hw.leads_step move)
  cleared task htask := by
    rcases mem_waiting_step htask with htask | ⟨faults, db, -, hrun⟩
    · exact (hw.cleared task htask).mono (hw.leads_step move)
    · exact ⟨w.store, faults, 0, hw.reachable, hw.leads_step move, Authority.clear_ok hrun⟩

theorem sound_start : start.Sound auth :=
  ⟨Store.Leads.refl _, fun _ htask => absurd htask List.not_mem_nil⟩

/-- **Every run is sound.** -/
theorem sound_after (auth : Authority) (moves : List Move) : (after auth moves).Sound auth :=
  after_induction sound_start (fun _ move hw => hw.step move) moves

theorem Sound.foldl (hw : w.Sound auth) (moves : List Move) :
    (moves.foldl (Traffic.step auth) w).Sound auth := by
  induction moves generalizing w with
  | nil => exact hw
  | cons move moves ih => exact ih (hw.step move)

/-- Whatever moves come next, they lead on from the store that is there. -/
theorem Sound.leads_foldl (hw : w.Sound auth) (moves : List Move) :
    w.store.Leads (moves.foldl (Traffic.step auth) w).store := by
  induction moves generalizing w with
  | nil => exact .refl _
  | cons move moves ih => exact (hw.leads_step move).trans (ih (hw.step move))

/-- A run leads on from every earlier store of it. -/
theorem leads_after (auth : Authority) (moves later : List Move) :
    (after auth moves).store.Leads (after auth (moves ++ later)).store := by
  rw [after_append]
  exact (sound_after auth moves).leads_foldl later

/-- What holds at the start and survives every move of a sound traffic holds after any moves. -/
theorem after_sound_induction {P : Traffic → Prop} (hstart : P start)
    (hstep : ∀ w move, w.Sound auth → P w → P (step auth w move)) (moves : List Move) :
    P (after auth moves) := by
  have hboth : (after auth moves).Sound auth ∧ P (after auth moves) :=
    after_induction (P := fun w => w.Sound auth ∧ P w) ⟨sound_start, hstart⟩
      (fun w move ⟨hw, hP⟩ => ⟨hw.step move, hstep w move hw hP⟩) moves
  exact hboth.2

/-- **What every effect preserves holds of rows and answers after any moves.** -/
theorem after_effects {P : Store → List Event → Prop} (hstart : P .empty [])
    (heffect : ∀ {s log e s'}, Store.empty.Leads s → Effect auth s e s' → P s log → P s' (e :: log))
    (moves : List Move) : P (after auth moves).store (after auth moves).log := by
  refine after_sound_induction (P := fun w => P w.store w.log) hstart
    (fun w move hw hP => ?_) moves
  rcases step_effect hw move with ⟨hstore, hlog⟩ | ⟨e, hlog, he⟩
  · rw [hstore, hlog]
    exact hP
  · rw [hlog]
    exact heffect hw.reachable he hP

/-- Every answer of a run had its effect on a store that statements led to. -/
theorem exists_effect_of_mem_log {moves : List Move} {e : Event}
    (he : e ∈ (after auth moves).log) :
    ∃ s s', Store.empty.Leads s ∧ Effect auth s e s' := by
  refine after_effects (P := fun _ log => ∀ e ∈ log, ∃ s s', Store.empty.Leads s ∧
    Effect auth s e s') (fun _ he => absurd he List.not_mem_nil)
    (fun {s log e s'} hs heffect hP e' he' => ?_) moves e he
  rcases List.mem_cons.1 he' with rfl | he'
  · exact ⟨s, s', hs, heffect⟩
  · exact hP e' he'

end Traffic

end OAuthGateway

import OAuthGateway.Proofs.Authority.Isolation

/-!
# Proofs/Authority/Retirement — what becomes of an application that was revoked

An application is `Retired` once its row is revoked, and stays so along every history, since no
statement takes a revocation back (`Retired.mono`).  Its client id resolves to nothing from then on
(`Retired.client_eq_error`), so its requests are refused where their client is looked up
(`perform_answer_unresolved`), and no checks pass for it (`Passed.applicationId_ne`).

What it holds is then left alone: whatever else is answered is of another application, and leaves
its holdings `Frozen`.  Only a request that had passed its checks before the revocation may still
write; no other ever waits (`waiting_foldl`).
-/

namespace OAuthGateway

open Time Procedure

/-! ## Revoked applications

A revocation of an application is never taken back. -/

/-- The application with the id has been revoked. -/
def Store.Retired (s : Store) (id : Int) : Prop :=
  ∃ a ∈ s.applications, a.id = id ∧ a.revokedAt.isSome = true

namespace Store

variable {s s' s'' : Store} {id : Int}

theorem retired_of_revokeApplication {moment : Instant}
    (h : s.revokeApplication id moment = .ok ((), s')) : s'.Retired id := by
  obtain ⟨rows, hamend, rfl⟩ := revokeApplication_ok h
  obtain ⟨hany, rfl⟩ := Table.amend_eq_ok_iff.1 hamend
  obtain ⟨a, ha, hrevokes⟩ := List.any_eq_true.1 hany
  have hid : a.id = id := beq_iff_eq.1 (Bool.and_eq_true _ _ ▸ hrevokes).1
  refine ⟨_, List.mem_map_of_mem ha, ?_⟩
  rw [if_pos hrevokes]
  exact ⟨hid, rfl⟩

namespace Retired

/-- **A revocation is never taken back.** -/
theorem mono (h : s.Retired id) (hleads : s.Leads s') : s'.Retired id := by
  obtain ⟨a, ha, hid, hrevoked⟩ := h
  obtain ⟨moment, hmoment⟩ := Option.isSome_iff_exists.1 hrevoked
  obtain ⟨a', ha', hkept⟩ := hleads.grows.applications.exists_kept ha
  have hmoment' : a'.revokedAt = some moment := hkept.revokedAt hmoment
  exact ⟨a', ha', hkept.id_eq.trans hid, by rw [hmoment']; rfl⟩

variable (hs : s.Sound) (h : s.Retired id)

include hs h

theorem isSome_revokedAt {a : Application} (ha : a ∈ s.applications) (hid : a.id = id) :
    a.revokedAt.isSome = true := by
  obtain ⟨b, hb, hbid, hrevoked⟩ := h
  rw [hs.applications.eq_of_id_eq ha hb (hid.trans hbid.symm)]
  exact hrevoked

/-- Whatever resolves is another application. -/
theorem id_ne {uid secret : String} {a : Application} (hfound : s.client uid secret = .ok a) :
    a.id ≠ id := by
  intro hid
  obtain ⟨ha, -, -, hlive⟩ := (client_eq_ok_iff hs).1 hfound
  have hrevoked := h.isSome_revokedAt hs ha hid
  rw [hlive] at hrevoked
  cases hrevoked

/-- **The client id of a revoked application resolves to nothing**, with whatever secret. -/
theorem client_eq_error {a : Application} (ha : a ∈ s.applications) (hid : a.id = id)
    (secret : String) : s.client a.clientUid secret = .error .notFound := by
  refine Table.found_eq_error fun b hb hfits => ?_
  simp only [Bool.and_eq_true, beq_iff_eq, Option.isNone_iff_eq_none] at hfits
  obtain rfl : b = a := hs.applications.eq_of_key_eq hb ha hfits.1.1
  have hrevoked := h.isSome_revokedAt hs ha hid
  rw [hfits.2] at hrevoked
  cases hrevoked

end Retired

/-! ## Holdings that stay -/

/-- The application holds what it held: its codes and its refresh tokens, used and unused, are the
same, and so are its access tokens, but that one of them may have been revoked. -/
structure Frozen (id : Int) (s s' : Store) : Prop where
  grants : (s'.holdings id).grants = (s.holdings id).grants
  accessTokens : (s'.holdings id).accessTokens.map Row.fixed =
    (s.holdings id).accessTokens.map Row.fixed
  refreshTokens : (s'.holdings id).refreshTokens = (s.holdings id).refreshTokens

namespace Frozen

theorem of_holdings_eq (h : s'.holdings id = s.holdings id) : Frozen id s s' := by
  constructor <;> rw [h]

theorem refl (id : Int) (s : Store) : Frozen id s s := .of_holdings_eq rfl

theorem trans (h : Frozen id s s') (h' : Frozen id s' s'') : Frozen id s s'' where
  grants := h'.grants.trans h.grants
  accessTokens := h'.accessTokens.trans h.accessTokens
  refreshTokens := h'.refreshTokens.trans h.refreshTokens

end Frozen

/-- A change for one application leaves what another holds. -/
theorem Confined.frozen {app : Int} (h : Confined app s s') (hne : app ≠ id) : Frozen id s s' :=
  .of_holdings_eq (h.holdings id hne.symm)

/-- Errands leave what applications hold. -/
theorem Administered.frozen (h : s.Administered s') : Frozen id s s' := by
  refine .of_holdings_eq ?_
  rw [holdings, holdings, h.grants, h.accessTokens, h.refreshTokens]

/-- Which access tokens are of an application can be told by what is fixed in them. -/
theorem fixed_holdings_accessTokens (s : Store) (id : Int) :
    (s.holdings id).accessTokens.map Row.fixed =
      (s.accessTokens.map Row.fixed).filter (·.applicationId == id) := by
  rw [List.filter_map]
  rfl

/-- So can which refresh tokens are. -/
theorem holdings_refreshTokens_eq (s : Store) (id : Int) :
    (s.holdings id).refreshTokens = s.refreshTokens.filter fun u =>
      ((s.accessTokens.map Row.fixed).filter (·.applicationId == id)).any
        (·.id == u.accessTokenId) := by
  refine List.filter_congr fun u _ => ?_
  rw [← fixed_holdings_accessTokens, List.any_map]
  rfl

/-- A revocation of an access token leaves what applications hold. -/
theorem Withdrawn.frozen (h : s.Withdrawn s') : Frozen id s s' where
  grants := congrArg (List.filter _) h.grants
  accessTokens := by
    rw [fixed_holdings_accessTokens, fixed_holdings_accessTokens, h.accessTokens Row.Kept.fixed]
  refreshTokens := by
    rw [holdings_refreshTokens_eq, holdings_refreshTokens_eq, h.accessTokens Row.Kept.fixed,
      h.refreshTokens]

end Store

/-! ## Requests with the credentials of a revoked application -/

/-- The client secret that a request names. -/
def IssueRequest.clientSecret : IssueRequest → Option String
  | .grantor r | .grant r | .grantToken r => r.clientSecret
  | .token r => r.clientSecret

/-- The request comes as far as to the lookup of its client: before that only a response type has
to be known, and only where it decides what is asked for. -/
def IssueRequest.ReachesClient : IssueRequest → Prop
  | .grantor r =>
    ∃ kind, (required r.responseType "response_type" >>= ResponseType.parse) = .ok kind
  | _ => True

namespace Authority

variable {auth : Authority} {now : Instant} {fresh : Credential.Fresh} {faults : Faults}
  {s : Store} {n : ℕ} {q : IssueRequest} {id : Int}

section Unresolved

variable {uid secret : String} (hunknown : s.client uid secret = .error .notFound)
  (hasked : faults n .applicationByCredentials = none)

include hunknown hasked

theorem perform_authenticate_unresolved (operation : Operation) :
    (authenticate operation (some uid) (some secret)).perform faults ⟨s, none, n⟩ =
      (.error (.unknown .application), ⟨s, none, n + 1⟩) := by
  have hvisible : s.client uid secret = (Database.visible ⟨s, none, n⟩).client uid secret := rfl
  rw [authenticate, perform_mapError, Database.client, perform_look, hasked, ← hvisible, hunknown]
  rfl

theorem perform_entitle_unresolved {r : GrantRequest} (kind : ResponseType)
    (huid : r.clientUid = some uid) (hsecret : r.clientSecret = some secret) :
    (entitle kind r).perform faults ⟨s, none, n⟩ =
      (.error (.unknown .application), ⟨s, none, n + 1⟩) := by
  rw [entitle, perform_bind, huid, hsecret, perform_authenticate_unresolved hunknown hasked]

theorem perform_clear_unresolved (hreaches : q.ReachesClient) (huid : q.clientUid = some uid)
    (hsecret : q.clientSecret = some secret) :
    (auth.clear now q).perform faults ⟨s, none, n⟩ =
      (.error (.unknown .application), ⟨s, none, n + 1⟩) := by
  have hentitle : ∀ {r : GrantRequest}, r.clientUid = some uid → r.clientSecret = some secret →
      ∀ (kind : ResponseType) (f : Application → Clearance),
        (f <$> entitle kind r).perform faults ⟨s, none, n⟩ =
          (.error (.unknown .application), ⟨s, none, n + 1⟩) := by
    intro r huid hsecret kind f
    rw [perform_map, perform_entitle_unresolved hunknown hasked kind huid hsecret]
    rfl
  cases q with
  | grantor r =>
    obtain ⟨kind, hkind⟩ := hreaches
    rw [clear, perform_bind, perform_verdict, hkind]
    cases kind <;> exact hentitle huid hsecret _ _
  | grant r => exact hentitle huid hsecret _ _
  | grantToken r => exact hentitle huid hsecret _ _
  | token r =>
    have huid : r.clientUid = some uid := huid
    have hsecret : r.clientSecret = some secret := hsecret
    rw [clear, perform_map, prepare, perform_bind, huid, hsecret,
      perform_authenticate_unresolved hunknown hasked]
    rfl

/-- **Where its client is looked up, the request is refused**, and nothing is done. -/
theorem perform_answer_unresolved (hreaches : q.ReachesClient) (huid : q.clientUid = some uid)
    (hsecret : q.clientSecret = some secret) :
    (auth.answer now fresh q).perform faults ⟨s, none, n⟩ =
      (.error (.unknown .application), ⟨s, none, n + 1⟩) := by
  rw [answer_eq_bind, perform_bind,
    perform_clear_unresolved hunknown hasked hreaches huid hsecret]

end Unresolved

/-- No checks pass for a revoked application. -/
theorem Passed.applicationId_ne {c : Clearance} (h : auth.Passed faults now s n q c)
    (hs : s.Sound) (hretired : s.Retired id) : c.applicationId ≠ id := by
  obtain ⟨uid, secret, a, -, hfound, hof⟩ := h.exists_client
  rw [hof]
  exact hretired.id_ne hs hfound

/-- **Nothing is issued to a revoked application**, and nothing of it is redeemed. -/
theorem frozen_answer (hs : Store.empty.Leads s) (hretired : s.Retired id) :
    Store.Frozen id s ((auth.answer now fresh q).perform faults ⟨s, none, n⟩).2.committed := by
  rcases hrun : (auth.answer now fresh q).perform faults ⟨s, none, n⟩ with ⟨e | issued, db⟩
  · rw [(auth.atomic_answer now fresh q).unchanged hrun]
    exact .refl id s
  · have hsound := hs.sound Store.sound_empty
    obtain ⟨c, hpassed, hwritten⟩ := answer_ok hsound hrun
    have hcleared : Cleared auth s q now c := ⟨s, faults, n, hs, .refl s, hpassed⟩
    exact (hwritten.confined_applicationId hsound hcleared).frozen
      (hpassed.applicationId_ne hsound hretired)

end Authority

/-! ## Moves after a revocation

Only a request that had passed its checks before can still write for the application. -/

/-- The task is of the application. -/
def Task.isOf (id : Int) (task : Task) : Bool := task.clearance.applicationId == id

/-- The move runs the transaction of a request of the application that has passed its checks. -/
def Move.Finishes (w : Traffic) (id : Int) (move : Move) : Prop :=
  ∃ place fresh faults, move = .write place fresh faults ∧
    ∃ task ∈ w.waiting[place]?, task.isOf id = true

namespace Traffic

variable {auth : Authority} {w : Traffic} {id : Int}

/-- **A revocation that was answered has been made.** -/
theorem retired_of_logged {moves : List Move}
    (h : .administer (.revoke id) (.ok .done) ∈ (after auth moves).log) :
    (after auth moves).store.Retired id := by
  refine after_sound_induction
    (P := fun w => .administer (.revoke id) (.ok .done) ∈ w.log → w.store.Retired id)
    (fun h => absurd h List.not_mem_nil) (fun w move hw ih hlogged => ?_) moves h
  rcases answers_of_mem_log hlogged with hbefore | ⟨-, hanswers⟩
  · exact (ih hbefore).mono (hw.leads_step move)
  · generalize (step auth w move).store = s' at hanswers
    cases hanswers with
    | administered run =>
      obtain ⟨_, hrun, -⟩ := map_ok run
      obtain ⟨s', hrevoke, rfl⟩ := call_ok (mapError_ok hrun)
      exact Store.retired_of_revokeApplication hrevoke

/-- **A move leaves what an application holds**, unless it writes for a request of it. -/
theorem frozen_step (hw : w.Sound auth) {move : Move} (h : ¬ move.Finishes w id) :
    Store.Frozen id w.store (step auth w move).store := by
  rcases step_effect hw move with ⟨hstore, -⟩ | ⟨e, hlog, heffect⟩
  · rw [hstore]
    exact .refl id _
  · have hanswers := answers_of_log hlog
    generalize hstore : (step auth w move).store = s' at hanswers heffect ⊢
    -- who has answered tells which of the effects it was
    cases hanswers with
    | refused run =>
      generalize Database.committed _ = s' at heffect ⊢
      cases heffect
      exact .refl id _
    | written waits run =>
      have hne : Clearance.applicationId _ ≠ id := fun hof =>
        h ⟨_, _, _, rfl, _, waits, beq_iff_eq.2 hof⟩
      exact hstore ▸ (confined_write hw waits _ _).frozen hne
    | revoked run =>
      generalize Database.committed _ = s' at heffect ⊢
      cases heffect with
      | revocation withdrawn => exact withdrawn.frozen
    | administered run =>
      generalize Database.committed _ = s' at heffect ⊢
      cases heffect with
      | errand administered => exact administered.frozen

/-- **No request of a revoked application passes its checks**: those that wait had passed them
before. -/
theorem waiting_foldl (hw : w.Sound auth) (hretired : w.store.Retired id)
    (moves : List Move) :
    ((moves.foldl (step auth) w).waiting.filter (Task.isOf id)).Sublist
      (w.waiting.filter (Task.isOf id)) := by
  induction moves generalizing w with
  | nil => exact List.Sublist.refl _
  | cons move moves ih =>
    -- after the first move the application is still revoked
    refine (ih (hw.step move) (hretired.mono (hw.leads_step move))).trans ?_
    rcases @waiting_step auth w move with hsub | ⟨task, faults, db, hwaiting, -, hrun⟩
    · exact hsub.filter _
    · have hne : ¬ task.isOf id = true := fun hof =>
        (Authority.clear_ok hrun).applicationId_ne hw.store hretired (beq_iff_eq.1 hof)
      rw [hwaiting, List.filter_cons_of_neg hne]

/-- **A revoked application without requests under way** holds what it held, whatever happens. -/
theorem frozen_foldl (hw : w.Sound auth) (hretired : w.store.Retired id)
    (hidle : w.waiting.filter (Task.isOf id) = []) (moves : List Move) :
    Store.Frozen id w.store (moves.foldl (step auth) w).store := by
  induction moves generalizing w with
  | nil => exact .refl id _
  | cons move moves ih =>
    have hother : ¬ move.Finishes w id := by
      rintro ⟨place, fresh, faults, -, task, hwaits, hof⟩
      exact List.filter_eq_nil_iff.1 hidle task (List.mem_of_getElem? hwaits) hof
    have hidle' : (step auth w move).waiting.filter (Task.isOf id) = [] :=
      List.sublist_nil.1 (hidle ▸ waiting_foldl hw hretired [move])
    exact (frozen_step hw hother).trans
      (ih (hw.step move) (hretired.mono (hw.leads_step move)) hidle')

end Traffic

end OAuthGateway

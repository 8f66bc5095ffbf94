import OAuthGateway.Proofs.Authority.Traffic

/-!
# Proofs/Authority/Readback — what an error of the administration leaves behind

Registering an application and changing one are two calls: a statement, which commits on its own,
and a lookup, which shows the result.  In a reachable store the lookup finds the row that was
written, so it fails by a fault of the store and by nothing else.  Hence an errand that ends in an
error has changed nothing, or it was one of these two and has done all it was asked to do
(`unchanged_or_done`): the rows are those of the answer that was lost.

The second case is real: an application can be registered by a request that was refused, and once
more by the same request repeated (`registered_though_refused`).
-/

namespace OAuthGateway

open Time Procedure

/-! ## Writing, then reading back

Two calls without a transaction around them: the second can fail when the first has succeeded. -/

namespace Procedure

variable {ε α β : Type} {kind kind' : Call} {statement : Store → Except StoreError (α × Store)}
  {query : α → Store → Except StoreError β} {g g' : StoreError → ε} {s : Store}

/-- **Where the lookup finds what was written, only its fault can lose the answer**: any other error
has changed nothing. -/
theorem unchanged_or_unread
    (hreadable : ∀ {v s'}, statement s = .ok (v, s') → ∃ b, query v s' = .ok b)
    {faults : Faults} {n : ℕ} {e : ε} {db : Database}
    (h : ((call kind statement).mapError g >>= fun v => (look kind' (query v)).mapError g').perform
      faults ⟨s, none, n⟩ = (.error e, db)) :
    db = ⟨s, none, n + 1⟩ ∨ ∃ f b, faults (n + 1) kind' = some f ∧ e = g' f ∧
      ((call kind statement).mapError g >>= fun v => (look kind' (query v)).mapError g').perform
        .none ⟨s, none, n⟩ = (.ok b, db) := by
  have hvisible : Database.visible ⟨s, none, n⟩ = s := rfl
  simp only [perform_bind, perform_mapError, perform_call, hvisible, Faults.none] at h ⊢
  cases hstatement : statement s with
  | error e' =>
    simp only [hstatement] at h
    -- with a fault or without, the statement is the only call that is made
    cases hfault : faults n kind <;> simp only [hfault] at h <;> cases h <;> exact .inl rfl
  | ok r =>
    obtain ⟨b, hb⟩ := hreadable hstatement
    simp only [hstatement] at h ⊢
    cases hfault : faults n kind with
    | some f =>
      simp only [hfault] at h
      cases h
      exact .inl rfl
    | none =>
      have hb' : query r.1 (Database.visible ⟨r.2, none, n + 1⟩) = .ok b := hb
      simp only [hfault, Except.mapError, Database.write, perform_look] at h ⊢
      cases hlook : faults (n + 1) kind' with
      | some f =>
        simp only [hlook] at h
        cases h
        exact .inr ⟨f, b, rfl, rfl, by rw [hb']; rfl⟩
      | none =>
        simp only [hlook, hb'] at h
        cases h

end Procedure

/-! ## Reading back what was written -/

namespace Store

variable {s s' : Store} {id : Int}

theorem application_of_addApplication {d : ApplicationDraft} (hs : s.Sound)
    (h : s.addApplication d = .ok (id, s')) : s'.application id = .ok (d.row id) := by
  have hsound : s'.Sound := (Step.addApplication h).sound hs
  obtain ⟨-, -, rfl⟩ := addApplication_ok h
  exact (application_eq_ok_iff hsound).2 ⟨List.mem_append_right _ List.mem_cons_self, rfl⟩

theorem application_of_updateApplication {c : ApplicationChanges} (hs : s.Sound)
    (h : s.updateApplication id c = .ok ((), s')) : ∃ a, s'.application id = .ok a := by
  have hsound : s'.Sound := (Step.updateApplication h).sound hs
  obtain ⟨rows, hamend, rfl⟩ := updateApplication_ok h
  obtain ⟨hany, -⟩ := Table.amend_eq_ok_iff.1 hamend
  obtain ⟨a, ha, hid⟩ := List.any_eq_true.1 hany
  -- the row with the id is still there after the change, which leaves ids alone
  obtain ⟨b, hb, hbid⟩ := Table.exists_amended (P := fun a : Application => a.id = id) hamend
    (fun _ _ hid => hid) ⟨a, ha, beq_iff_eq.1 hid⟩
  exact ⟨b, (application_eq_ok_iff hsound).2 ⟨hb, hbid⟩⟩

end Store

/-! ## Errors of errands -/

namespace Errand

/-- The errand ends by showing the application that it has written. -/
def ReadsBack : Errand → Prop
  | create _ | update _ _ => True
  | list _ | one _ | revoke _ => False

/-- The errand has done all it was asked to do, and left the database so; but the application could
not be shown, and the error says no more than which operation it was. -/
structure DoneUnseen (errand : Errand) (now : Instant) (fresh : Credential.Fresh) (faults : Faults)
    (s : Store) (n : ℕ) (e : Refusal) (db : Database) : Prop where
  readsBack : errand.ReadsBack
  /-- The second call has failed. -/
  unread : ∃ f, faults (n + 1) .applicationById = some f ∧
    (f ≠ .notFound → ∃ operation, e = .internal operation)
  /-- Where no call fails, the errand is answered, and leaves the same rows. -/
  done : ∃ a, (errand.answer now fresh).perform .none ⟨s, none, n⟩ = (.ok (.application a), db)

theorem internal_of_ofLookup {f : StoreError} (hf : f ≠ .notFound) (operation : Operation)
    (entity : Entity) : Refusal.ofLookup operation entity f = .internal operation := by
  cases f <;> first | rfl | exact absurd rfl hf

section Atomic

variable (now : Instant) (fresh : Credential.Fresh)

theorem atomic_list (w : Window) : Atomic ((list w).answer now fresh) :=
  .of_untouched (keeps_map _ (keeps_bind (keeps_mapError _ (keeps_untouched_look _ _)) fun _ =>
    keeps_bind (keeps_mapError _ (keeps_untouched_look _ _)) fun _ => keeps_pure _))

theorem atomic_one (id : Int) : Atomic ((one id).answer now fresh) :=
  .of_untouched (keeps_map _ (keeps_mapError _ (keeps_untouched_look _ _)))

theorem atomic_revoke (id : Int) : Atomic ((revoke id).answer now fresh) :=
  atomic_map _ (atomic_mapError _ (atomic_call fun h => .single (.revokeApplication h)))

end Atomic

variable {now : Instant} {fresh : Credential.Fresh} {faults : Faults} {s : Store} {n : ℕ}
  {e : Refusal} {db : Database}

/-- A form that is in order is registered by a statement and a lookup. -/
theorem create_of_valid {form : ApplicationForm} {ownerType : OwnerType}
    (h : form.validate = .ok ownerType) :
    Registry.create now fresh form =
      ((Database.addApplication
          (form.draft ownerType now fresh.clientUid fresh.clientSecret)).mapError
        fun _ => .internal .createApplication) >>= fun id =>
          (Database.application id).mapError fun _ => .internal .createApplication := by
  rw [Registry.create, h]
  rfl

/-- An errand of a statement and a lookup that finds what was written: where it fails, it has
changed nothing, or it is done. -/
theorem unchanged_or_doneUnseen {errand : Errand} {α : Type} {kind : Call}
    {statement : Store → Except StoreError (α × Store)}
    {query : α → Store → Except StoreError Application} {g g' : StoreError → Refusal}
    (hreads : errand.ReadsBack)
    (hanswer : errand.answer now fresh = .application <$> ((call kind statement).mapError g >>=
      fun v => (look .applicationById (query v)).mapError g'))
    (hreadable : ∀ {v s'}, statement s = .ok (v, s') → ∃ a, query v s' = .ok a)
    (hinternal : ∀ f ≠ .notFound, ∃ operation, g' f = .internal operation)
    (h : (errand.answer now fresh).perform faults ⟨s, none, n⟩ = (.error e, db)) :
    (∃ m, db = ⟨s, none, m⟩) ∨ errand.DoneUnseen now fresh faults s n e db := by
  rw [hanswer] at h
  rcases unchanged_or_unread hreadable (map_error h) with rfl | ⟨f, a, hfault, rfl, hdone⟩
  · exact .inl ⟨n + 1, rfl⟩
  · refine .inr ⟨hreads, ⟨f, hfault, hinternal f⟩, a, ?_⟩
    rw [hanswer, perform_map, hdone]
    rfl

/-- **An errand that fails has changed nothing, or has done all it was asked to do** and only could
not show it: then it was a registration or a change, and the lookup after its statement failed. -/
theorem unchanged_or_done (errand : Errand) (hs : Store.empty.Leads s)
    (h : (errand.answer now fresh).perform faults ⟨s, none, n⟩ = (.error e, db)) :
    (∃ m, db = ⟨s, none, m⟩) ∨ errand.DoneUnseen now fresh faults s n e db := by
  have hsound : s.Sound := hs.sound Store.sound_empty
  cases errand with
  | list w => exact .inl ((atomic_list now fresh w).restored h)
  | one id => exact .inl ((atomic_one now fresh id).restored h)
  | revoke id => exact .inl ((atomic_revoke now fresh id).restored h)
  | create form =>
    cases hform : form.validate with
    | error refusal =>
      have hrun := map_error h
      rw [Registry.create, hform, perform_bind, perform_verdict] at hrun
      cases hrun
      exact .inl ⟨n, rfl⟩
    | ok ownerType =>
      have hread : ∀ {id s'}, s.addApplication
          (form.draft ownerType now fresh.clientUid fresh.clientSecret) = .ok (id, s') →
            ∃ a, s'.application id = .ok a :=
        fun hadd => ⟨_, Store.application_of_addApplication hsound hadd⟩
      exact unchanged_or_doneUnseen trivial
        (congrArg (Result.application <$> ·) (create_of_valid hform)) hread (fun _ _ => ⟨_, rfl⟩) h
  | update id form =>
    have hread : ∀ {v s'}, s.updateApplication id (form.changes now) = .ok (v, s') →
        ∃ a, s'.application id = .ok a :=
      fun hupdate => Store.application_of_updateApplication hsound hupdate
    exact unchanged_or_doneUnseen trivial rfl hread
      (fun f hf => ⟨_, internal_of_ofLookup hf _ _⟩) h

/-! ### A registration that is not shown -/

end Errand

namespace Race

/-- Applications cannot be looked up by their ids, and nothing else fails. -/
def unreadable : Faults := fun _ call => if call = .applicationById then some .timeout else none

/-- What is drawn when the registration is repeated. -/
def freshAgain : Credential.Fresh := { fresh 1 with clientUid := "uid1" }

/-- The application that the form of the race registers. -/
def unseen : Application :=
  ⟨1, none, .confidentialClient, none, "", "uid", "secret", .epoch, .epoch, none⟩

end Race

namespace Errand

/-- Where applications cannot be looked up, a registration ends in an error, and is done. -/
theorem unchanged_or_done_unseen :
    ((create Race.form).answer .epoch (Race.fresh 0)).perform Race.unreadable ⟨.empty, none, 0⟩ =
      (.error (.internal .createApplication), ⟨⟨[Race.unseen], [], [], []⟩, none, 2⟩) ∧
    (create Race.form).DoneUnseen .epoch (Race.fresh 0) Race.unreadable .empty 0
      (.internal .createApplication) ⟨⟨[Race.unseen], [], [], []⟩, none, 2⟩ := by
  have h : ((create Race.form).answer .epoch (Race.fresh 0)).perform Race.unreadable
      ⟨.empty, none, 0⟩ =
        (.error (.internal .createApplication), ⟨⟨[Race.unseen], [], [], []⟩, none, 2⟩) := rfl
  refine ⟨h, (unchanged_or_done (create Race.form) (.refl _) h).resolve_left ?_⟩
  rintro ⟨m, hsame⟩
  cases hsame

/-- **An application is registered although the answer is an error**, and a second one when the
request is repeated. -/
theorem registered_though_refused :
    ∃ e db, (Registry.create .epoch (Race.fresh 0) Race.form).perform Race.unreadable
        ⟨.empty, none, 0⟩ = (.error e, db) ∧
      db.committed.applications ≠ Store.empty.applications ∧
      ((Registry.create .epoch Race.freshAgain Race.form).perform .none
        db).2.committed.applications.length = 2 :=
  ⟨.internal .createApplication, ⟨⟨[Race.unseen], [], [], []⟩, none, 2⟩, rfl, nofun, rfl⟩

end Errand

end OAuthGateway

import OAuthGateway.Proofs.Authority.Move
import OAuthGateway.Proofs.Authority.Readback

/-!
# Proofs/Authority/Upkeep — what administration makes of an application

An update or a revocation is one statement on one row: it maps the table of applications
(`Traffic.store_step_of_target`), and every other move at most adds a row
(`Traffic.exists_applications_step_of_untargeted`).  So what becomes of an application is a fold
over the moves that name it, however they lie among others (`Move.amend`), and the fold is told
column by column: the last description and the last scopes that were given, the first revocation,
and the rest as it was (`Application.amended`, `Traffic.upkeep_fieldwise`).

An update counts when the store has carried out its statement.  It may be answered with an error all
the same, because reading the row back is a call of its own.
-/

namespace OAuthGateway

open Time Procedure

/-! ## One statement on the applications

A call that amends applications maps their table, also when it fails or finds nothing. -/

namespace Procedure

variable {ε ε' α β : Type} {faults : Faults} {db : Database}

theorem committed_mapError (g : ε → ε') (p : Procedure ε α) :
    ((p.mapError g).perform faults db).2.committed = (p.perform faults db).2.committed := by
  rw [perform_mapError]

theorem committed_map (f : α → β) (p : Procedure ε α) :
    ((f <$> p).perform faults db).2.committed = (p.perform faults db).2.committed := by
  rw [perform_map]

/-- Looking at what was done leaves it done. -/
theorem committed_bind (p : Procedure ε α) {f : α → Procedure ε β}
    (hf : ∀ a, Keeps .untouched (f a)) :
    ((p >>= f).perform faults db).2.committed = (p.perform faults db).2.committed := by
  rw [perform_bind]
  rcases p.perform faults db with ⟨e | a, db'⟩
  · rfl
  · exact (hf a faults db').1

/-- **A call that amends applications maps them**: where it fails, or finds none to amend, it maps
them to themselves. -/
theorem committed_amend (s : Store) {kind : Call} {p : Application → Bool}
    {f amended : Application → Application}
    (hamended : ∀ a, amended a = if p a = true ∧ faults 0 kind = none then f a else a) :
    ((call kind fun s => do
        let rows ← Store.amend p f s.applications
        return ((), { s with applications := rows })).perform faults (.ofStore s)).2.committed =
      { s with applications := s.applications.map amended } := by
  obtain rfl := funext hamended
  rw [perform_call, Database.visible_ofStore, Database.calls_ofStore]
  cases faults 0 kind with
  | some e => simp only [reduceCtorEq, and_false, if_false, List.map_id']; rfl
  | none =>
    simp only [and_true]
    cases hamend : Store.amend p f s.applications with
    | error e =>
      obtain ⟨hnone, -⟩ := Table.amend_eq_error_iff.1 hamend
      have hsame : (s.applications.map fun a => if p a = true then f a else a) = s.applications :=
        (List.map_congr_left fun a ha => if_neg (List.any_eq_false.1 hnone a ha)).trans
          (List.map_id' _)
      rw [hsame]
      rfl
    | ok rows =>
      obtain ⟨-, rfl⟩ := Table.amend_eq_ok_iff.1 hamend
      rfl

end Procedure

/-- An application that is there is revoked by a statement unless it was before. -/
theorem Store.exists_revokeApplication_iff {s : Store} (hs : s.Sound) {id : Int} {a : Application}
    (h : s.application id = .ok a) (moment : Instant) :
    (∃ s', s.revokeApplication id moment = .ok ((), s')) ↔ a.revokedAt = none := by
  obtain ⟨ha, rfl⟩ := (application_eq_ok_iff hs).1 h
  constructor
  · rintro ⟨s', hrevoke⟩
    obtain ⟨rows, hamend, -⟩ := revokeApplication_ok hrevoke
    obtain ⟨b, hb, hfits⟩ := List.any_eq_true.1 (Table.amend_eq_ok_iff.1 hamend).1
    rw [Bool.and_eq_true, beq_iff_eq, Option.isNone_iff_eq_none] at hfits
    exact hs.applications.eq_of_id_eq hb ha hfits.1 ▸ hfits.2
  · intro hlive
    have hany : (s.applications.any fun b => b.id == a.id && b.revokedAt.isNone) = true :=
      List.any_eq_true.2 ⟨a, ha, by rw [hlive, beq_self_eq_true]; rfl⟩
    exact ⟨_, congrArg (· >>= _) (Table.amend_eq_ok_iff.2 ⟨hany, rfl⟩)⟩

/-- A revocation succeeds where neither the store fails nor the application was revoked before. -/
theorem Registry.revoke_ok_iff {s : Store} (hs : s.Sound) {id : Int} {a : Application}
    (h : s.application id = .ok a) {now : Instant} {faults : Faults} :
    ((revoke now id).perform faults (.ofStore s)).1 = .ok () ↔
      faults 0 .applicationRevoke = none ∧ a.revokedAt = none := by
  rw [revoke, perform_mapError, Database.revokeApplication, perform_call,
    Database.visible_ofStore, Database.calls_ofStore, ← Store.exists_revokeApplication_iff hs h now]
  cases faults 0 .applicationRevoke with
  | some e => exact ⟨nofun, nofun⟩
  | none =>
    cases hrevoke : s.revokeApplication id now with
    | error e => exact ⟨nofun, nofun⟩
    | ok r => exact ⟨fun _ => ⟨rfl, r.2, rfl⟩, fun _ => rfl⟩

/-! ## What is given to an application

Each column has a rule of its own for what is given to it more than once. -/

namespace Application

/-- The application with what was given to it, the earliest first: of the descriptions and of the
scopes the last counts, of the revocations the first. -/
def amended (a : Application) (descriptions scopes : List String) (revocations : List Instant)
    (updated : Instant) : Application :=
  { a with
    description := descriptions.getLast? <|> a.description
    scopes := scopes.getLast?.getD a.scopes
    revokedAt := a.revokedAt <|> revocations.head?
    updatedAt := updated }

variable (a : Application) {descriptions descriptions' scopes scopes' : List String}
  {revocations revocations' : List Instant} {t t' : Instant}

theorem amended_nil : a.amended [] [] [] a.updatedAt = a := by
  simp [amended]

/-- What was given earlier and what was given later make one list. -/
theorem amended_append :
    (a.amended descriptions scopes revocations t).amended descriptions' scopes' revocations' t' =
      a.amended (descriptions ++ descriptions') (scopes ++ scopes') (revocations ++ revocations')
        t' := by
  simp only [amended, List.getLast?_append, List.head?_append, Option.orElse_eq_orElse,
    Option.orElse_eq_or, Option.or_assoc, Option.getD_or]

theorem changed_eq_amended (form : ApplicationForm) (now : Instant) :
    Store.changed (form.changes now) a =
      a.amended form.description.toList form.scopes.toList [] now := by
  cases hdescription : form.description <;> cases hscopes : form.scopes <;>
    simp [Store.changed, ApplicationForm.changes, amended, hdescription, hscopes]

/-- To an application that is revoked no revocation is given. -/
theorem amended_of_revoked (h : a.revokedAt ≠ none) :
    a.amended descriptions scopes revocations t = a.amended descriptions scopes [] t := by
  obtain ⟨m, hm⟩ := Option.ne_none_iff_exists'.1 h
  have hkept : ∀ o : Option Instant, (a.revokedAt <|> o) = a.revokedAt := fun o => by rw [hm]; rfl
  simp only [amended, hkept]

theorem exists_revoked_eq_amended (now : Instant) :
    ∃ t, (if a.revokedAt = none then { a with revokedAt := some now, updatedAt := now } else a) =
      a.amended [] [] [now] t := by
  by_cases hlive : a.revokedAt = none
  · exact ⟨now, by simp [amended, hlive]⟩
  · exact ⟨a.updatedAt, by rw [if_neg hlive, amended_of_revoked _ hlive, amended_nil]⟩

/-- The application without the time of its last change. -/
def untimed : Application := { a with updatedAt := .epoch }

/-- **What is given in columns of its own may be given earlier or later.** -/
theorem untimed_amended_comm (hdescriptions : descriptions = [] ∨ descriptions' = [])
    (hscopes : scopes = [] ∨ scopes' = []) (hrevocations : revocations = [] ∨ revocations' = []) :
    (a.amended (descriptions ++ descriptions') (scopes ++ scopes') (revocations ++ revocations')
        t).untimed =
      (a.amended (descriptions' ++ descriptions) (scopes' ++ scopes) (revocations' ++ revocations)
        t').untimed := by
  have hcomm : ∀ {α : Type} {l l' : List α}, l = [] ∨ l' = [] → l ++ l' = l' ++ l := by
    rintro α l l' (rfl | rfl)
    · exact (List.append_nil l').symm
    · exact List.append_nil l
  rw [hcomm hdescriptions, hcomm hscopes, hcomm hrevocations]
  rfl

end Application

/-- The application that an errand is to change. -/
def Errand.target? : Errand → Option Int
  | .update id _ | .revoke id => some id
  | .list _ | .one _ | .create _ => none

namespace Move

/-- The application that a move is to change. -/
def target? : Move → Option Int
  | .administer errand _ _ _ => errand.target?
  | _ => none

variable (id : Int)

/-- The form of an update of the application that the store carries out. -/
def form? : Move → Option ApplicationForm
  | .administer (.update id' form) _ _ faults =>
    if id' = id ∧ faults 0 .applicationUpdate = none then some form else none
  | _ => none

/-- The description that the move gives to the application. -/
def description? (move : Move) : Option String := (move.form? id).bind (·.description)

/-- The scopes that the move gives to the application. -/
def scopes? (move : Move) : Option String := (move.form? id).bind (·.scopes)

/-- The time of a revocation of the application that reaches the store. -/
def revocation? : Move → Option Instant
  | .administer (.revoke id') now _ faults =>
    if id' = id ∧ faults 0 .applicationRevoke = none then some now else none
  | _ => none

/-- The time of a revocation of the application, if it succeeds. -/
def revoked? (w : Traffic) : Move → Option Instant
  | .administer (.revoke id') now _ faults =>
    if id' = id ∧ ((Registry.revoke now id').perform faults (.ofStore w.store)).1 = .ok () then
      some now
    else none
  | _ => none

/-- What the move makes of an application. -/
def amend (move : Move) (a : Application) : Application :=
  match move with
  | .administer (.update id form) now _ faults =>
    if id = a.id ∧ faults 0 .applicationUpdate = none then Store.changed (form.changes now) a else a
  | .administer (.revoke id) now _ faults =>
    if id = a.id ∧ faults 0 .applicationRevoke = none then
      if a.revokedAt = none then { a with revokedAt := some now, updatedAt := now } else a
    else a
  | _ => a

/-- A move updates an application, or revokes one, or gives nothing to any. -/
inductive View : Move → Prop
  | update (id : Int) (form : ApplicationForm) (now : Instant) (fresh : Credential.Fresh)
      (faults : Faults) : View (.administer (.update id form) now fresh faults)
  | revoke (id : Int) (now : Instant) (fresh : Credential.Fresh) (faults : Faults) :
      View (.administer (.revoke id) now fresh faults)
  | other {move : Move} (target : move.target? = none) (amend : ∀ a, move.amend a = a)
      (form : ∀ id, move.form? id = none) (revocation : ∀ id, move.revocation? id = none)
      (revoked : ∀ id w, move.revoked? id w = none) : View move

theorem view (move : Move) : move.View := by
  rcases move with _ | _ | _ | _ | ⟨_ | _ | _ | ⟨id, form⟩ | id, now, fresh, faults⟩
  case administer.update => exact .update id form now fresh faults
  case administer.revoke => exact .revoke id now fresh faults
  all_goals exact .other rfl (fun _ => rfl) (fun _ => rfl) (fun _ => rfl) (fun _ _ => rfl)

/-- **What a move makes of an application is what it gives to it.** -/
theorem exists_amend_eq (move : Move) (a : Application) :
    ∃ t, move.amend a = a.amended (move.description? a.id).toList (move.scopes? a.id).toList
      (move.revocation? a.id).toList t := by
  have hnothing : a = a.amended [] [] [] a.updatedAt := a.amended_nil.symm
  cases move.view with
  | update id form now fresh faults =>
    by_cases hgiven : id = a.id ∧ faults 0 .applicationUpdate = none
    · refine ⟨now, ?_⟩
      simp only [amend, description?, scopes?, revocation?, form?, if_pos hgiven]
      exact a.changed_eq_amended form now
    · refine ⟨a.updatedAt, ?_⟩
      simp only [amend, description?, scopes?, revocation?, form?, if_neg hgiven]
      exact hnothing
  | revoke id now fresh faults =>
    by_cases hgiven : id = a.id ∧ faults 0 .applicationRevoke = none
    · simp only [amend, description?, scopes?, revocation?, form?, if_pos hgiven]
      exact a.exists_revoked_eq_amended now
    · refine ⟨a.updatedAt, ?_⟩
      simp only [amend, description?, scopes?, revocation?, form?, if_neg hgiven]
      exact hnothing
  | other _ hamend hform hrevocation _ =>
    refine ⟨a.updatedAt, ?_⟩
    rw [hamend, description?, scopes?, hform, hrevocation]
    exact hnothing

theorem id_amend (move : Move) (a : Application) : (move.amend a).id = a.id := by
  obtain ⟨t, ht⟩ := move.exists_amend_eq a
  rw [ht]
  rfl

/-- A move leaves the applications that it is not to change. -/
theorem amend_of_target_ne {move : Move} {a : Application} (h : move.target? ≠ some a.id) :
    move.amend a = a := by
  cases move.view with
  | update id form now fresh faults => exact if_neg fun hgiven => h (congrArg some hgiven.1)
  | revoke id now fresh faults => exact if_neg fun hgiven => h (congrArg some hgiven.1)
  | other _ hamend _ _ _ => exact hamend a

end Move

namespace Traffic

variable {auth : Authority} {w : Traffic} {id : Int}

/-! ## Moves on the applications -/

/-- **An update or a revocation maps the applications**, and changes nothing else. -/
theorem store_step_of_target {move : Move} (h : move.target? = some id) :
    (step auth w move).store =
      { w.store with applications := w.store.applications.map move.amend } := by
  cases move.view with
  | update id' form now fresh faults =>
    have hlook : ∀ _ : Unit, Keeps .untouched (Registry.one id') :=
      fun _ => keeps_mapError _ (keeps_untouched_look _ _)
    refine (committed_map _ _).trans ((committed_bind _ hlook).trans
      ((committed_mapError _ _).trans (committed_amend w.store fun a => ?_)))
    have hfits : id' = a.id ↔ (a.id == id') = true := eq_comm.trans beq_iff_eq.symm
    exact if_congr (and_congr_left' hfits) rfl rfl
  | revoke id' now fresh faults =>
    refine (committed_map _ _).trans
      ((committed_mapError _ _).trans (committed_amend w.store fun a => ?_))
    have hfits : ((id' = a.id ∧ faults 0 .applicationRevoke = none) ∧ a.revokedAt = none) ↔
        (a.id == id' && a.revokedAt.isNone) = true ∧ faults 0 .applicationRevoke = none := by
      rw [Bool.and_eq_true, beq_iff_eq, Option.isNone_iff_eq_none, eq_comm, and_right_comm]
    exact (ite_and ..).symm.trans (if_congr hfits rfl rfl)
  | other target _ _ _ _ =>
    rw [target] at h
    cases h

/-- Any other move at most adds an application. -/
theorem exists_applications_step_of_untargeted (auth : Authority) (w : Traffic) {move : Move}
    (h : move.target? = none) :
    ∃ news, (step auth w move).store.applications = w.store.applications ++ news := by
  have hsame : ∀ {s s' : Store}, s'.applications = s.applications →
      ∃ news, s'.applications = s.applications ++ news :=
    fun hs => ⟨[], hs.trans (List.append_nil _).symm⟩
  refine related_step (R := fun s s' => ∃ news, s'.applications = s.applications ++ news)
    (fun s => hsame rfl) ?_ (fun task _ => Authority.statements_of_applications hsame _) ?_ ?_
  · rintro s s' s'' ⟨news, hnews⟩ ⟨news', hnews'⟩
    exact ⟨news ++ news', by rw [hnews', hnews, List.append_assoc]⟩
  · intro text moment s s' _ hrevoke
    obtain ⟨rows, -, rfl⟩ := Store.revokeAccessToken_ok hrevoke
    exact hsame rfl
  · rintro errand now fresh faults rfl
    refine errand.keeps_outside_answer now fresh ?_ ?_ ?_
    · intro d s s' id hadd
      obtain ⟨-, -, rfl⟩ := Store.addApplication_ok hadd
      exact ⟨[d.row id], rfl⟩
    · rintro id form rfl
      cases h
    · rintro id rfl
      cases h

/-- **A move amends the applications that are there**, and may add some. -/
theorem exists_applications_step (auth : Authority) (w : Traffic) (move : Move) :
    ∃ news, (step auth w move).store.applications =
      w.store.applications.map move.amend ++ news := by
  cases h : move.target? with
  | some id =>
    rw [store_step_of_target h]
    exact ⟨[], (List.append_nil _).symm⟩
  | none =>
    obtain ⟨news, hnews⟩ := exists_applications_step_of_untargeted auth w h
    have hsame : move.amend = id := funext fun a => Move.amend_of_target_ne (h ▸ nofun)
    exact ⟨news, by rw [hnews, hsame, List.map_id]⟩

/-! ## One application along a run

Moves of all kinds lie between those that name the application, and give nothing to it. -/

/-- The times of the revocations of the application that succeed, the earliest first. -/
def revocations (auth : Authority) (id : Int) : Traffic → List Move → List Instant
  | _, [] => []
  | w, move :: moves => (move.revoked? id w).toList ++ revocations auth id (step auth w move) moves

/-- Of the revocations that reach the store, those of an application that is not revoked succeed. -/
theorem revoked?_eq (hs : w.store.Sound) {a : Application} (h : w.store.application id = .ok a)
    (move : Move) :
    move.revoked? id w = if a.revokedAt = none then move.revocation? id else none := by
  cases move.view with
  | update id' form now fresh faults => exact (ite_self _).symm
  | revoke id' now fresh faults =>
    rw [Move.revoked?, Move.revocation?, ← ite_and]
    refine if_congr ?_ rfl rfl
    constructor
    · rintro ⟨rfl, hok⟩
      obtain ⟨hfault, hlive⟩ := (Registry.revoke_ok_iff hs h).1 hok
      exact ⟨hlive, rfl, hfault⟩
    · rintro ⟨hlive, rfl, hfault⟩
      exact ⟨rfl, (Registry.revoke_ok_iff hs h).2 ⟨hfault, hlive⟩⟩
  | other _ _ _ hrevocation hrevoked => rw [hrevocation, hrevoked, ite_self]

/-- **What a move gives to an application**, read off the answers where it revokes. -/
theorem exists_application_step (hw : w.Sound auth) {a : Application}
    (h : w.store.application id = .ok a) (move : Move) :
    ∃ t, (step auth w move).store.application id = .ok (a.amended (move.description? id).toList
      (move.scopes? id).toList (move.revoked? id w).toList t) := by
  have hrevoked := revoked?_eq hw.store h move
  obtain ⟨ha, rfl⟩ := (Store.application_eq_ok_iff hw.store).1 h
  obtain ⟨news, hnews⟩ := exists_applications_step auth w move
  obtain ⟨t, ht⟩ := move.exists_amend_eq a
  have hmem : move.amend a ∈ (step auth w move).store.applications :=
    hnews ▸ List.mem_append_left _ (List.mem_map_of_mem ha)
  have hamended : move.amend a = a.amended (move.description? a.id).toList
      (move.scopes? a.id).toList (move.revoked? a.id w).toList t := by
    rw [ht, hrevoked]
    split
    · rfl
    · exact a.amended_of_revoked ‹_›
  exact ⟨t, (Store.application_eq_ok_iff (hw.step move).store).2 ⟨hamended ▸ hmem, rfl⟩⟩

/-- **What some moves give to an application.** -/
theorem exists_application_foldl (hw : w.Sound auth) {a : Application}
    (h : w.store.application id = .ok a) (moves : List Move) :
    ∃ t, (moves.foldl (step auth) w).store.application id = .ok (a.amended
      (moves.filterMap (·.description? id)) (moves.filterMap (·.scopes? id))
      (revocations auth id w moves) t) := by
  induction moves generalizing w a with
  | nil => exact ⟨a.updatedAt, a.amended_nil.symm ▸ h⟩
  | cons move moves ih =>
    obtain ⟨t, ht⟩ := exists_application_step hw h move
    obtain ⟨t', ht'⟩ := ih (hw.step move) ht
    refine ⟨t', ht'.trans ?_⟩
    rw [Application.amended_append]
    simp only [List.filterMap_eq_flatMap_toList, List.flatMap_cons, revocations]

/-- **An update or a revocation leaves every other application as it is.** -/
theorem application_step_of_target_ne {move : Move} (h : move.target? = some id) {other : Int}
    (hother : other ≠ id) :
    (step auth w move).store.application other = w.store.application other := by
  have hsame : ((w.store.applications.map move.amend).find? fun a => a.id == other) =
      w.store.applications.find? fun a => a.id == other := by
    have hid : (fun a : Application => a.id == other) ∘ move.amend = fun a => a.id == other :=
      funext fun a => congrArg (· == other) (move.id_amend a)
    rw [List.find?_map, hid]
    cases hfind : w.store.applications.find? fun a => a.id == other with
    | none => rfl
    | some a =>
      have hne : move.target? ≠ some a.id := by
        have hid : a.id = other := by simpa using List.find?_some hfind
        rw [h, hid]
        exact fun heq => hother (Option.some.inj heq).symm
      exact congrArg some (Move.amend_of_target_ne hne)
  rw [store_step_of_target h]
  exact congrArg Store.found hsame

end Traffic

/-! ## Errands in either order

Two errands that give nothing to the same column commute, but for the time of the last change. -/

/-- Two errands that give nothing to the same column of one application. -/
inductive Errand.Apart : Errand → Errand → Prop
  | updates {id id' : Int} {form form' : ApplicationForm}
      (description : id = id' → form.description = none ∨ form'.description = none)
      (scopes : id = id' → form.scopes = none ∨ form'.scopes = none) :
      Apart (.update id form) (.update id' form')
  | updateRevoke {id id' : Int} {form : ApplicationForm} : Apart (.update id form) (.revoke id')

/-- The rows without the times at which applications were last changed. -/
def Store.untimed (s : Store) : Store :=
  { s with applications := s.applications.map Application.untimed }

namespace Move

/-- Two moves that give nothing to the same column of one application. -/
structure Apart (move move' : Move) : Prop where
  description : ∀ id, move.description? id = none ∨ move'.description? id = none
  scopes : ∀ id, move.scopes? id = none ∨ move'.scopes? id = none
  revocation : ∀ id, move.revocation? id = none ∨ move'.revocation? id = none

/-- What two updates give to an application in a column is apart if their forms are. -/
theorem column_apart {id id' : Int} {form form' : ApplicationForm}
    (column : ApplicationForm → Option String)
    (h : id = id' → column form = none ∨ column form' = none) (now now' : Instant)
    (fresh fresh' : Credential.Fresh) (faults faults' : Faults) (i : Int) :
    ((administer (.update id form) now fresh faults).form? i).bind column = none ∨
      ((administer (.update id' form') now' fresh' faults').form? i).bind column = none := by
  by_cases hgiven : id = i ∧ faults 0 .applicationUpdate = none
  · by_cases hgiven' : id' = i ∧ faults' 0 .applicationUpdate = none
    · simp only [form?, if_pos hgiven, if_pos hgiven', Option.bind_some]
      exact h (hgiven.1.trans hgiven'.1.symm)
    · exact .inr (by rw [form?, if_neg hgiven', Option.bind_none])
  · exact .inl (by rw [form?, if_neg hgiven, Option.bind_none])

theorem apart_of_errands {errand errand' : Errand} (h : errand.Apart errand') (now now' : Instant)
    (fresh fresh' : Credential.Fresh) (faults faults' : Faults) :
    (administer errand now fresh faults).Apart (administer errand' now' fresh' faults') := by
  cases h with
  | updates hdescription hscopes =>
    exact ⟨column_apart _ hdescription _ _ _ _ _ _, column_apart _ hscopes _ _ _ _ _ _,
      fun _ => .inl rfl⟩
  | updateRevoke => exact ⟨fun _ => .inr rfl, fun _ => .inr rfl, fun _ => .inl rfl⟩

/-- What two moves make of an application is what both give to it. -/
theorem exists_amend_amend_eq (move move' : Move) (a : Application) :
    ∃ t, move'.amend (move.amend a) = a.amended
      ((move.description? a.id).toList ++ (move'.description? a.id).toList)
      ((move.scopes? a.id).toList ++ (move'.scopes? a.id).toList)
      ((move.revocation? a.id).toList ++ (move'.revocation? a.id).toList) t := by
  obtain ⟨t, ht⟩ := move.exists_amend_eq a
  obtain ⟨t', ht'⟩ := move'.exists_amend_eq (move.amend a)
  exact ⟨t', by rw [ht', id_amend, ht, Application.amended_append]⟩

/-- **Moves that are apart make the same of an application in either order.** -/
theorem Apart.untimed_amend_comm {move move' : Move} (h : move.Apart move') (a : Application) :
    (move'.amend (move.amend a)).untimed = (move.amend (move'.amend a)).untimed := by
  obtain ⟨t, ht⟩ := move.exists_amend_amend_eq move' a
  obtain ⟨t', ht'⟩ := move'.exists_amend_amend_eq move a
  have hnil : ∀ {α : Type} {o o' : Option α}, o = none ∨ o' = none →
      o.toList = [] ∨ o'.toList = [] :=
    fun ho => ho.imp Option.toList_eq_nil_iff.2 Option.toList_eq_nil_iff.2
  rw [ht, ht']
  exact a.untimed_amended_comm (hnil (h.description a.id)) (hnil (h.scopes a.id))
    (hnil (h.revocation a.id))

end Move

theorem Errand.Apart.exists_target {errand errand' : Errand} (h : errand.Apart errand') :
    ∃ id id', errand.target? = some id ∧ errand'.target? = some id' := by
  cases h <;> exact ⟨_, _, rfl, rfl⟩

namespace Traffic

/-- **Updates and revocations that are apart may come in either order.** -/
theorem untimed_step_comm (auth : Authority) (w : Traffic) {move move' : Move}
    (h : move.Apart move') {id id' : Int} (htarget : move.target? = some id)
    (htarget' : move'.target? = some id') :
    (step auth (step auth w move) move').store.untimed =
      (step auth (step auth w move') move).store.untimed := by
  simp only [Store.untimed, store_step_of_target htarget, store_step_of_target htarget',
    List.map_map]
  congr 1
  exact List.map_congr_left fun a _ => h.untimed_amend_comm a

/-! ## Upkeep -/

/-- **Administration is field by field, and loses nothing.**  After any further moves an application
has the last description and the last scopes that updates gave to it, the first revocation that
succeeded, and the rest as it was; a revocation succeeds where the application was not revoked and
the store does not fail; an update or a revocation leaves every other application alone; and updates
of different columns, or an update and a revocation, may come in either order. -/
theorem upkeep_fieldwise (auth : Authority) :
    (∀ before moves id a, (after auth before).store.application id = .ok a →
      ∃ t, (after auth (before ++ moves)).store.application id = .ok
        { a with
          description := (moves.filterMap (·.description? id)).getLast? <|> a.description
          scopes := (moves.filterMap (·.scopes? id)).getLast?.getD a.scopes
          revokedAt := a.revokedAt <|> (revocations auth id (after auth before) moves).head?
          updatedAt := t }) ∧
    (∀ before id a, (after auth before).store.application id = .ok a → ∀ now faults,
      ((Registry.revoke now id).perform faults (.ofStore (after auth before).store)).1 = .ok () ↔
        faults 0 .applicationRevoke = none ∧ a.revokedAt = none) ∧
    (∀ w errand id now fresh faults, errand.target? = some id → ∀ other ≠ id,
      (step auth w (.administer errand now fresh faults)).store.application other =
        w.store.application other) ∧
    ∀ w errand errand', errand.Apart errand' → ∀ now now' fresh fresh' faults faults',
      (step auth (step auth w (.administer errand now fresh faults))
          (.administer errand' now' fresh' faults')).store.untimed =
        (step auth (step auth w (.administer errand' now' fresh' faults'))
          (.administer errand now fresh faults)).store.untimed := by
  refine ⟨fun before moves id a h => ?_,
    fun before id a h _ _ => Registry.revoke_ok_iff (sound_after auth before).store h,
    fun w errand id now fresh faults h other hother => ?_,
    fun w errand errand' h now now' fresh fresh' faults faults' => ?_⟩
  · rw [after_append]
    exact exists_application_foldl (sound_after auth before) h moves
  · refine application_step_of_target_ne ?_ hother
    exact h
  · obtain ⟨id, id', htarget, htarget'⟩ := h.exists_target
    exact untimed_step_comm auth w (Move.apart_of_errands h now now' fresh fresh' faults faults')
      htarget htarget'

end Traffic

namespace Race

/-- Two clients are registered. -/
def registered : List Move :=
  [.administer (.create form) .epoch (fresh 0) .none,
    .administer (.create form) .epoch freshAgain .none]

/-- The change of a description. -/
def description : Errand := .update 1 ⟨none, none, some "desk", none⟩

/-- The change of scopes. -/
def scopes : Errand := .update 1 ⟨none, none, none, some "read"⟩

/-- The time at which the client of the race is revoked. -/
def closing : Instant :=
  { Instant.epoch with nanosecond := 2, nanosecond_lt := by decide, ends_minute := by decide }

/-- The client of the race is described, revoked once with success, and given scopes, by an update
whose answer is an error; before, a revocation was lost, and another one comes too late. -/
def upkeep : List Move :=
  [.administer description .epoch (fresh 0) .none,
    .administer (.update 2 ⟨none, none, some "door", none⟩) .epoch (fresh 0) .none,
    .administer (.revoke 1) .epoch (fresh 0) .closed,
    .administer (.revoke 1) closing (fresh 0) .none,
    .administer scopes .epoch (fresh 0) unreadable,
    .administer (.revoke 1) .last (fresh 0) .none]

end Race

namespace Traffic

/-- The client of the race keeps what the moves that took effect gave to it; the other client is not
touched, and the two updates may come in either order. -/
theorem upkeep_fieldwise_race :
    (∃ t, (after Race.authority (Race.registered ++ Race.upkeep)).store.application 1 = .ok
      { Race.client with
        description := some "desk", scopes := "read", revokedAt := some Race.closing
        updatedAt := t }) ∧
    ((Registry.revoke Race.closing 1).perform .none
      (.ofStore (after Race.authority Race.registered).store)).1 = .ok () ∧
    (step Race.authority (after Race.authority Race.registered)
        (.administer Race.description .epoch (Race.fresh 0) .none)).store.application 2 =
      (after Race.authority Race.registered).store.application 2 ∧
    (step Race.authority (step Race.authority (after Race.authority Race.registered)
          (.administer Race.description .epoch (Race.fresh 0) .none))
        (.administer Race.scopes .last (Race.fresh 0) .none)).store.untimed =
      (step Race.authority (step Race.authority (after Race.authority Race.registered)
          (.administer Race.scopes .last (Race.fresh 0) .none))
        (.administer Race.description .epoch (Race.fresh 0) .none)).store.untimed := by
  obtain ⟨hfields, hrevoke, hothers, hcommute⟩ := upkeep_fieldwise Race.authority
  refine ⟨?_, (hrevoke Race.registered 1 Race.client rfl _ _).2 ⟨rfl, rfl⟩,
    hothers _ _ 1 _ _ _ rfl 2 (by decide), hcommute _ _ _ ?_ _ _ _ _ _ _⟩
  · obtain ⟨t, ht⟩ := hfields Race.registered Race.upkeep 1 Race.client rfl
    exact ⟨t, ht.trans rfl⟩
  · exact .updates (fun _ => .inr rfl) (fun _ => .inl rfl)

end Traffic

end OAuthGateway

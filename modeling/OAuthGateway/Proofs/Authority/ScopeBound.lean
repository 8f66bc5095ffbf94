import OAuthGateway.Proofs.Authority.Provenance
import OAuthGateway.Proofs.Authority.Upkeep

/-!
# Proofs/Authority/ScopeBound — scopes are those that the application had when it asked

Scopes are checked once, when a grant is asked for, and copied from then on.  So whatever is issued
has a root, whose request passed its checks earlier in the run, and none of its scopes is beyond
those that the application had at that moment (`issued_scopes_bounded`).  Whether it still has them
is up to the administration: a code, or a chain of refresh tokens, outlives an update that takes
them away (`narrowed_scopes_issued`).  Without such an update it has them still, because the scopes
of an application are those that a move gives to it, or those that it had (`allows_step`).  An
update that the store did not carry out takes nothing away.
-/

namespace OAuthGateway

open Time Procedure

/-! ## What is issued -/

namespace Issued

/-- The application that it is issued to. -/
def applicationId : Issued → Int
  | .grant v => v.applicationId
  | .token v => v.applicationId

/-- What it may be used for. -/
def scopes : Issued → String
  | .grant v => v.scopes
  | .token v => v.scopes

end Issued

/-- What was issued to the request goes back to the root: a code was issued to the very request of
the root, and an access token stems from it. -/
def Root.Explains (root : Root) (log : List Event) (q : IssueRequest) : Issued → Prop
  | .grant _ => q.grantRequest? = some root.request
  | .token v => Stems log v root

namespace Traffic

variable {auth : Authority} {moves : List Move}

/-- **Whatever is written has a root.** -/
theorem Traced.exists_root (htraced : Traced auth moves) {task : Task}
    (htask : task ∈ (after auth moves).waiting) {fresh : Credential.Fresh} {issued : Issued}
    {s' : Store}
    (hwritten : auth.Written task.now fresh (after auth moves).store task.clearance issued s') :
    ∃ root : Root, root.Accepted auth moves ∧
      (∃ owner, root.Yields issued.applicationId owner issued.scopes) ∧
      root.Explains (.issue task.request (.ok issued) :: (after auth moves).log) task.request
        issued := by
  cases issued with
  | grant v =>
    obtain ⟨root, -, haccepted, hasked, hyields⟩ := htraced.exists_root_of_code htask hwritten
    exact ⟨root, haccepted, ⟨_, hyields⟩, hasked⟩
  | token v =>
    obtain ⟨root, haccepted, hyields, hstems⟩ := htraced.exists_root_of_token htask hwritten
    exact ⟨root, haccepted, ⟨_, hyields⟩, hstems⟩

end Traffic

/-! ## What an application has

Scopes of an application come and go by updates alone. -/

/-- The application with the id has all the scopes. -/
def Store.Allows (id : Int) (scopes : String) (s : Store) : Prop :=
  ∃ a ∈ s.applications, a.id = id ∧ Scope.covers a.scopes scopes

/-- The move is an update of the application that the store carries out, and it gives scopes that
lack some of these. -/
def Move.Narrows (id : Int) (scopes : String) (move : Move) : Prop :=
  ∃ left, move.scopes? id = some left ∧ ¬ Scope.covers left scopes

section Allows

variable {id : Int} {scopes : String}

/-- The lookup of the application shows its scopes. -/
theorem Store.Allows.application {s : Store} (hs : s.Sound) (h : s.Allows id scopes) :
    ∃ app, s.application id = .ok app ∧ Scope.covers app.scopes scopes := by
  obtain ⟨app, happ, hid, hcovers⟩ := h
  exact ⟨app, (Store.application_eq_ok_iff hs).2 ⟨happ, hid⟩, hcovers⟩

namespace Traffic

variable {auth : Authority} {w : Traffic}

/-- **Only an update takes scopes away**: any other move leaves an application with those that it
has. -/
theorem allows_step {move : Move} (hkeeps : ¬ move.Narrows id scopes)
    (h : w.store.Allows id scopes) : (step auth w move).store.Allows id scopes := by
  obtain ⟨a, ha, rfl, hcovers⟩ := h
  obtain ⟨news, hnews⟩ := exists_applications_step auth w move
  obtain ⟨t, ht⟩ := move.exists_amend_eq a
  have hmem : move.amend a ∈ (step auth w move).store.applications :=
    hnews ▸ List.mem_append_left _ (List.mem_map_of_mem ha)
  refine ⟨move.amend a, hmem, move.id_amend a, ?_⟩
  rw [ht]
  cases hleft : move.scopes? a.id with
  | none => exact hcovers
  | some left =>
    by_contra hlacks
    exact hkeeps ⟨left, hleft, hlacks⟩

/-- **Without an update that takes them away, an application has its scopes after any moves.** -/
theorem allows_foldl {moves : List Move} (hkeeps : ∀ m ∈ moves, ¬ m.Narrows id scopes)
    (h : w.store.Allows id scopes) : (moves.foldl (step auth) w).store.Allows id scopes := by
  induction moves generalizing w with
  | nil => exact h
  | cons move moves ih =>
    refine ih (fun m hm => hkeeps m (List.mem_cons_of_mem _ hm)) ?_
    exact allows_step (hkeeps move List.mem_cons_self) h

/-- What issues something takes no scopes away. -/
theorem not_narrows_of_issued {move : Move} {q : IssueRequest} {issued : Issued}
    (h : (step auth w move).log = .issue q (.ok issued) :: w.log) : ¬ move.Narrows id scopes := by
  rintro ⟨left, hleft, -⟩
  cases move with
  | administer errand now fresh faults => cases (List.cons.inj h).1
  | _ => cases hleft

end Traffic

end Allows

/-! ## The bound -/

namespace Race

/-- The client of the race is registered with two scopes. -/
def scopedForm : ApplicationForm := { form with scopes := some "read write" }

/-- The client asks for both scopes. -/
def scopedGrant : GrantRequest := { grant with scopes := some "read write" }

/-- A client with two scopes is given a code for both, and the exchange of it waits. -/
def scopedMoves : List Move :=
  [.administer (.create scopedForm) .epoch (fresh 0) .none,
    .clear (.grant scopedGrant) .epoch .none, .write 0 (fresh 1) .none,
    .clear (.token exchange) .epoch .none]

/-- One of its scopes is taken away. -/
def narrow : Move := .administer (.update 1 ⟨none, none, none, some "read"⟩) .epoch (fresh 0) .none

/-- The same with one of the scopes taken away before the code is exchanged. -/
def narrowedMoves : List Move := scopedMoves.take 3 ++ narrow :: scopedMoves.drop 3

end Race

namespace Traffic

/-- **Scopes are those of the request that was accepted.**  Whatever is issued goes back to a grant
request whose checks passed earlier in the run: it is for the same application, it has the scopes
that were requested, and the application had all of them at that moment.  It has all of them still
at the moment of issue, unless an update that the store has carried out since has taken some
away. -/
theorem issued_scopes_bounded (auth : Authority) (moves : List Move) (move : Move)
    {q : IssueRequest} {issued : Issued}
    (h : (after auth (moves ++ [move])).log = .issue q (.ok issued) :: (after auth moves).log) :
    ∃ (root : Root) (before : List Move) (asked : IssueRequest) (now : Instant) (faults : Faults)
      (rest : List Move), moves = before ++ .clear asked now faults :: rest ∧
      root.Clears auth (after auth before).store asked now faults ∧
      asked.grantRequest? = some root.request ∧
      root.request.Entitled root.kind (after auth before).store root.app ∧
      root.Explains (after auth (moves ++ [move])).log q issued ∧
      issued.applicationId = root.app.id ∧ issued.scopes = root.request.scopes.getD "" ∧
      (∀ w ∈ Scope.words issued.scopes, w ∈ Scope.words root.app.scopes) ∧
      ((∀ m ∈ rest, ¬ m.Narrows issued.applicationId issued.scopes) →
        ∃ app, (after auth (moves ++ [move])).store.application issued.applicationId = .ok app ∧
          ∀ w ∈ Scope.words issued.scopes, w ∈ Scope.words app.scopes) := by
  have hsound := sound_after auth moves
  have hlog : (step auth (after auth moves) move).log =
      .issue q (.ok issued) :: (after auth moves).log := by rw [← after_concat]; exact h
  obtain ⟨task, htask, rfl, fresh, hwritten⟩ := written_of_issued hsound hlog
  obtain ⟨root, haccepted, ⟨owner, hyields⟩, hexplains⟩ :=
    (traced auth moves).exists_root htask hwritten
  have hcovers := haccepted.covers hyields
  obtain ⟨before, asked, now, faults, ⟨rest, rfl⟩, hclears⟩ := haccepted
  have hentitled := hclears.entitled
  refine ⟨root, before, asked, now, faults, rest, List.append_assoc _ _ _, hclears, hclears.asked,
    hentitled, h ▸ hexplains, hyields.applicationId, hyields.scopes, hcovers, fun hkeeps => ?_⟩
  have happ : (after auth before).store.Allows issued.applicationId issued.scopes :=
    ⟨root.app, hentitled.mem_applications (sound_after auth before).store,
      hyields.applicationId.symm, hcovers⟩
  have hrun : (after auth (before ++ [.clear asked now faults] ++ rest ++ [move])).store.Allows
      issued.applicationId issued.scopes := by
    rw [List.append_assoc, List.append_assoc, after, List.foldl_append]
    refine allows_foldl (fun m hm => ?_) happ
    rcases List.mem_append.1 hm with hm | hm
    · rw [List.mem_singleton.1 hm]
      rintro ⟨left, hleft, -⟩
      cases hleft
    rcases List.mem_append.1 hm with hm | hm
    · exact hkeeps m hm
    · rw [List.mem_singleton.1 hm]
      exact not_narrows_of_issued hlog
  exact hrun.application (sound_after auth _).store

/-- Where no scope is taken away, the exchange of the code issues both, and the client has both. -/
theorem issued_scopes_bounded_race :
    ∃ q issued, (after Race.authority (Race.scopedMoves ++ [.write 0 (Race.fresh 2) .none])).log =
        .issue q (.ok issued) :: (after Race.authority Race.scopedMoves).log ∧
      issued.scopes = "read write" ∧
      ∃ app, (after Race.authority
          (Race.scopedMoves ++ [.write 0 (Race.fresh 2) .none])).store.application
            issued.applicationId = .ok app ∧
        ∀ w ∈ Scope.words issued.scopes, w ∈ Scope.words app.scopes := by
  have hissued : ∃ q issued,
      (after Race.authority (Race.scopedMoves ++ [.write 0 (Race.fresh 2) .none])).log =
        .issue q (.ok issued) :: (after Race.authority Race.scopedMoves).log ∧
      issued.scopes = "read write" := ⟨_, _, rfl, rfl⟩
  obtain ⟨q, issued, hlog, hscopes⟩ := hissued
  obtain ⟨root, before, asked, now, faults, rest, hmoves, -, -, -, -, -, -, -, hstill⟩ :=
    issued_scopes_bounded Race.authority Race.scopedMoves _ hlog
  refine ⟨q, issued, hlog, hscopes, hstill fun m hm => ?_⟩
  have hmem : m ∈ Race.scopedMoves := by
    rw [hmoves]
    exact List.mem_append_right _ (List.mem_cons_of_mem _ hm)
  simp only [Race.scopedMoves, List.mem_cons, List.not_mem_nil, or_false] at hmem
  rcases hmem with rfl | rfl | rfl | rfl <;> exact fun ⟨_, hleft, _⟩ => by cases hleft

/-- **Scopes outlive an update that takes them away**: the application of an access token need not
have all its scopes at the moment when it is issued. -/
theorem narrowed_scopes_issued :
    ¬ ∀ (auth : Authority) (moves : List Move) (move : Move) (q : IssueRequest) (issued : Issued),
      (after auth (moves ++ [move])).log = .issue q (.ok issued) :: (after auth moves).log →
        ∀ app, (after auth (moves ++ [move])).store.application issued.applicationId = .ok app →
          ∀ w ∈ Scope.words issued.scopes, w ∈ Scope.words app.scopes := by
  intro h
  have hissued : ∃ q issued app,
      (after Race.authority (Race.narrowedMoves ++ [.write 0 (Race.fresh 2) .none])).log =
        .issue q (.ok issued) :: (after Race.authority Race.narrowedMoves).log ∧
      (after Race.authority
          (Race.narrowedMoves ++ [.write 0 (Race.fresh 2) .none])).store.application
        issued.applicationId = .ok app ∧
      issued.scopes = "read write" ∧ app.scopes = "read" := ⟨_, _, _, rfl, rfl, rfl, rfl⟩
  obtain ⟨q, issued, app, hlog, happ, hscopes, hleft⟩ := hissued
  have hall := h Race.authority Race.narrowedMoves _ q issued hlog app happ
  rw [hscopes, hleft] at hall
  exact absurd (hall "write" (by decide)) (by decide)

end Traffic

end OAuthGateway

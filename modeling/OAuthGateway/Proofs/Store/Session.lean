import OAuthGateway.Proofs.Store.Holdings
import OAuthGateway.Proofs.Store.Transaction

/-!
# Proofs/Store/Session — the store is an append-only history with intact references

A session is any list of `Command`s to the database: statements that change rows, with any arguments
and whichever of them fail, and transactions begun, committed and rolled back anywhere among them.
Whatever the session was, its rows are those of a history (`Coherent`): the committed rows are led
to from the empty store, and the visible ones from the committed.  So everything that histories keep
is kept by sessions (`grows_after_and_intact`): committed rows only grow, ids increase in the order
of insertion, texts name one row, and every reference is to a row (`Store.Referential`).
-/

namespace OAuthGateway

open Time

/-! ## References

A row is added only for a row that it refers to, and no row ever goes. -/

namespace Store

variable {s s' : Store}

theorem exists_of_hasApplication {id : Int} (h : ¬ (!s.hasApplication id) = true) :
    id ∈ s.applications.map (·.id) := by
  rw [Bool.not_eq_true', Bool.not_eq_false, hasApplication, List.any_eq_true] at h
  obtain ⟨a, ha, hid⟩ := h
  exact List.mem_map.2 ⟨a, ha, beq_iff_eq.1 hid⟩

/-- A grant is added only for an application that is there. -/
theorem exists_of_addGrant {d : GrantDraft} {id : Int} (h : s.addGrant d = .ok (id, s')) :
    d.applicationId ∈ s.applications.map (·.id) := by
  rw [addGrant] at h
  split at h <;> rename_i hnew
  · cases h
  · rw [Bool.or_eq_true, not_or] at hnew
    exact exists_of_hasApplication hnew.2

/-- An access token is added only for an application that is there. -/
theorem exists_of_addAccessToken {d : AccessTokenDraft} {id : Int}
    (h : s.addAccessToken d = .ok (id, s')) : d.applicationId ∈ s.applications.map (·.id) := by
  rw [addAccessToken] at h
  split at h <;> rename_i hnew
  · cases h
  · rw [Bool.or_eq_true, not_or] at hnew
    exact exists_of_hasApplication hnew.2

/-- Every column that refers to a row of another table does. -/
structure Referential (s : Store) : Prop where
  /-- Every code is of an application. -/
  grants : s.grants.map (·.applicationId) ⊆ s.applications.map (·.id)
  /-- Every access token is of an application. -/
  accessTokens : s.accessTokens.map (·.applicationId) ⊆ s.applications.map (·.id)
  /-- Every refresh token is of an access token. -/
  refreshTokens : s.refreshTokens.map (·.accessTokenId) ⊆ s.accessTokens.map (·.id)

theorem referential_empty : empty.Referential :=
  ⟨List.nil_subset _, List.nil_subset _, List.nil_subset _⟩

/-- **A statement leaves all references intact.** -/
theorem Step.referential (h : Step s s') (hs : s.Referential) : s'.Referential := by
  have happs : s.applications.map (·.id) ⊆ s'.applications.map (·.id) :=
    h.grows.applications.map_id_subset
  have hbound : s'.refreshTokens.map (·.accessTokenId) ⊆ s'.accessTokens.map (·.id) :=
    h.bound hs.refreshTokens
  have hgrants := List.Subset.trans hs.grants happs
  have htokens := List.Subset.trans hs.accessTokens happs
  cases h with
  | addApplication h =>
    obtain ⟨-, -, rfl⟩ := addApplication_ok h
    exact ⟨hgrants, htokens, hbound⟩
  | updateApplication h =>
    obtain ⟨rows, -, rfl⟩ := updateApplication_ok h
    exact ⟨hgrants, htokens, hbound⟩
  | revokeApplication h =>
    obtain ⟨rows, -, rfl⟩ := revokeApplication_ok h
    exact ⟨hgrants, htokens, hbound⟩
  | addGrant h =>
    have hnew := exists_of_addGrant h
    obtain ⟨-, -, rfl⟩ := addGrant_ok h
    refine ⟨?_, htokens, hbound⟩
    rw [List.map_append, List.append_subset]
    exact ⟨hgrants, List.cons_subset.2 ⟨hnew, List.nil_subset _⟩⟩
  | revokeGrant h =>
    obtain ⟨rows, hamend, rfl⟩ := revokeGrant_ok h
    have hsame := Table.map_amend Row.grant_applicationId_of_kept (kept_revokedGrant _) hamend
    exact ⟨hsame ▸ hgrants, htokens, hbound⟩
  | addAccessToken h =>
    have hnew := exists_of_addAccessToken h
    obtain ⟨-, -, rfl⟩ := addAccessToken_ok h
    refine ⟨hgrants, ?_, hbound⟩
    rw [List.map_append, List.append_subset]
    exact ⟨htokens, List.cons_subset.2 ⟨hnew, List.nil_subset _⟩⟩
  | revokeAccessToken h =>
    obtain ⟨rows, hamend, rfl⟩ := revokeAccessToken_ok h
    have hsame := Table.map_amend Row.accessToken_applicationId_of_kept
      (kept_revokedAccessToken _) hamend
    exact ⟨hgrants, hsame ▸ htokens, hbound⟩
  | addRefreshToken h =>
    obtain ⟨-, -, rfl⟩ := addRefreshToken_ok h
    exact ⟨hgrants, htokens, hbound⟩
  | revokeRefreshToken h =>
    obtain ⟨rows, -, rfl⟩ := revokeRefreshToken_ok h
    exact ⟨hgrants, htokens, hbound⟩

/-- **References stay intact** along every history. -/
theorem Leads.referential (h : s.Leads s') (hs : s.Referential) : s'.Referential := by
  induction h with
  | refl => exact hs
  | tail _ hstep ih => exact hstep.referential ih

end Store

/-! ## Tables in order

In a sound table the ids increase from row to row. -/

namespace Table

variable {α : Type} [Row α] {rows : List α}

/-- Ids increase in the order of insertion, and a text is looked up to at most one row. -/
structure Ordered (rows : List α) : Prop where
  ids : (rows.map Row.id).Pairwise (· < ·)
  unique : ∀ k, (rows.filter fun a => Row.key a == k).length ≤ 1

theorem Sound.ordered (h : Sound rows) : Ordered rows where
  ids := by
    rw [h.numbered, List.pairwise_map]
    exact List.pairwise_lt_range.imp fun hij => by omega
  unique k :=
    calc (rows.filter fun a => Row.key a == k).length = rows.countP (fun a => Row.key a == k) :=
          List.countP_eq_length_filter.symm
      _ = (rows.map Row.key).count k := by rw [List.count, List.countP_map]; rfl
      _ ≤ 1 := List.nodup_iff_count_le_one.1 h.distinct k

end Table

/-- What holds of the rows at all times: the tables are in order, and the references intact. -/
structure Store.Intact (s : Store) : Prop extends s.Referential where
  orderedApplications : Table.Ordered s.applications
  orderedGrants : Table.Ordered s.grants
  orderedAccessTokens : Table.Ordered s.accessTokens
  orderedRefreshTokens : Table.Ordered s.refreshTokens

/-- The rows of a history are intact. -/
theorem Store.intact_of_leads {s : Store} (h : Store.empty.Leads s) : s.Intact :=
  have hsound := h.sound sound_empty
  { h.referential referential_empty with
    orderedApplications := hsound.applications.ordered
    orderedGrants := hsound.grants.ordered
    orderedAccessTokens := hsound.accessTokens.ordered
    orderedRefreshTokens := hsound.refreshTokens.ordered }

/-! ## Sessions

A command leaves the rows a history from those before, whatever it is and whether it fails or not.
-/

/-- A statement that changes rows. -/
inductive Statement where
  | addApplication (draft : ApplicationDraft)
  | updateApplication (id : Int) (changes : ApplicationChanges)
  | revokeApplication (id : Int) (moment : Instant)
  | addGrant (draft : GrantDraft)
  | revokeGrant (code : String) (moment : Instant)
  | addAccessToken (draft : AccessTokenDraft)
  | revokeAccessToken (token : String) (moment : Instant)
  | addRefreshToken (draft : RefreshTokenDraft)
  | revokeRefreshToken (token : String) (moment : Instant)

/-- The call that makes a statement. -/
def Statement.procedure : Statement → Procedure StoreError Unit
  | addApplication draft => (fun _ => ()) <$> Database.addApplication draft
  | updateApplication id changes => Database.updateApplication id changes
  | revokeApplication id moment => Database.revokeApplication id moment
  | addGrant draft => (fun _ => ()) <$> Database.addGrant draft
  | revokeGrant code moment => Database.revokeGrant code moment
  | addAccessToken draft => (fun _ => ()) <$> Database.addAccessToken draft
  | revokeAccessToken token moment => Database.revokeAccessToken token moment
  | addRefreshToken draft => (fun _ => ()) <$> Database.addRefreshToken draft
  | revokeRefreshToken token moment => Database.revokeRefreshToken token moment

/-- What is asked of the database: a statement, or something about its transaction.  A command does
not say on which connection it is made, and there is at most one transaction.  Nothing is lost by
that, because the database has one writer at a time.  A statement on another connection, beside an
open transaction, is carried out before the transaction has written anything, and might as well come
before its begin; or it waits, and is carried out after its end; or it gives up waiting, and is a
call that fails. -/
inductive Command where
  | statement (statement : Statement)
  | begin
  | commit
  | rollback

namespace Database

/-- The database after a command, whether it succeeds or fails. -/
def afterCommand (faults : Faults) (db : Database) : Command → Database
  | .statement statement => (statement.procedure.perform faults db).2
  | .begin => (Procedure.begin.perform faults db).2
  | .commit => (Procedure.commit.perform faults db).2
  | .rollback => db.rolledBack

/-- The database after the commands of a session, one after the other. -/
def after (faults : Faults) (db : Database) (commands : List Command) : Database :=
  commands.foldl (afterCommand faults) db

/-- The rows of a database come of histories: the committed ones of one from the empty store, and
the pending ones of one from the committed. -/
structure Coherent (db : Database) : Prop where
  committed : Store.empty.Leads db.committed
  pending : ∀ s, db.pending = some s → db.committed.Leads s

end Database

open Procedure

section Keeps

variable {α : Type} {kind : Call} {change : Store → Except StoreError (α × Store)}

/-- A call that makes steps of a history makes them in a transaction and out of one. -/
theorem keeps_call (h : Follows Store.Leads change) :
    Keeps .buffered (call kind change) ∧ Keeps .settled (call kind change) :=
  ⟨keeps_inside_call h, keeps_outside_call h⟩

theorem keeps_map_call (h : Follows Store.Leads change) (f : α → Unit) :
    Keeps .buffered (f <$> call kind change) ∧ Keeps .settled (f <$> call kind change) :=
  (keeps_call h).imp (keeps_map f) (keeps_map f)

end Keeps

/-- **Whatever a statement does is a step of a history**, in a transaction and out of one. -/
theorem Statement.keeps (statement : Statement) :
    Keeps .buffered statement.procedure ∧ Keeps .settled statement.procedure := by
  cases statement with
  | addApplication draft => exact keeps_map_call (fun h => .single (.addApplication h)) _
  | updateApplication id changes => exact keeps_call fun h => .single (.updateApplication h)
  | revokeApplication id moment => exact keeps_call fun h => .single (.revokeApplication h)
  | addGrant draft => exact keeps_map_call (fun h => .single (.addGrant h)) _
  | revokeGrant code moment => exact keeps_call fun h => .single (.revokeGrant h)
  | addAccessToken draft => exact keeps_map_call (fun h => .single (.addAccessToken h)) _
  | revokeAccessToken token moment => exact keeps_call fun h => .single (.revokeAccessToken h)
  | addRefreshToken draft => exact keeps_map_call (fun h => .single (.addRefreshToken h)) _
  | revokeRefreshToken token moment => exact keeps_call fun h => .single (.revokeRefreshToken h)

namespace Database

variable {db : Database}

theorem coherent_empty : empty.Coherent := ⟨.refl _, fun s hs => by cases hs⟩

namespace Coherent

/-- The visible rows are led to from the committed. -/
theorem visible (h : db.Coherent) : db.committed.Leads db.visible := by
  rw [Database.visible]
  cases hpending : db.pending with
  | none => exact .refl _
  | some s => exact h.pending s hpending

/-- A database with other pending rows, where the committed ones lead to them. -/
theorem of_leads {db' : Database} (h : db.Coherent) (hcommitted : db.committed.Leads db'.committed)
    (hpending : ∀ s, db'.pending = some s → db'.committed.Leads s) :
    db'.Coherent ∧ db.committed.Leads db'.committed :=
  ⟨⟨h.committed.trans hcommitted, hpending⟩, hcommitted⟩

/-- **A command keeps the rows those of a history**, and committed rows lead to committed rows. -/
theorem afterCommand (h : db.Coherent) (faults : Faults) (command : Command) :
    (db.afterCommand faults command).Coherent ∧
      db.committed.Leads (db.afterCommand faults command).committed := by
  obtain ⟨c, p, n⟩ := db
  cases command with
  | statement statement =>
    obtain ⟨hbuffered, hsettled⟩ := statement.keeps
    rw [Database.afterCommand]
    cases p with
    | some s =>
      obtain ⟨hcommitted, s', hs', hleads⟩ := hbuffered faults ⟨c, some s, n⟩ s rfl
      refine h.of_leads (hcommitted ▸ .refl _) fun s'' hs'' => ?_
      obtain rfl : s' = s'' := Option.some.inj (hs'.symm.trans hs'')
      rw [hcommitted]
      exact (h.pending s rfl).trans hleads
    | none =>
      obtain ⟨hnone, hleads⟩ := hsettled faults ⟨c, none, n⟩ rfl
      exact h.of_leads hleads fun s hs => by rw [hnone] at hs; cases hs
  | begin =>
    rw [Database.afterCommand, begin, perform_control]
    cases faults n .begin with
    | some e => exact h.of_leads (.refl _) h.pending
    | none => exact h.of_leads (.refl _) fun s hs => by cases hs; exact .refl _
  | commit =>
    rw [Database.afterCommand, commit, perform_control]
    cases faults n .commit with
    | some e => exact h.of_leads (.refl _) h.pending
    | none => exact h.of_leads h.visible fun s hs => by cases hs
  | rollback => exact h.of_leads (.refl _) fun s hs => by cases hs

/-- **Whatever the session, its rows are those of a history.** -/
theorem after (h : db.Coherent) (faults : Faults) (commands : List Command) :
    (db.after faults commands).Coherent ∧
      db.committed.Leads (db.after faults commands).committed := by
  induction commands generalizing db with
  | nil => exact ⟨h, .refl _⟩
  | cons command commands ih =>
    obtain ⟨hnext, hleads⟩ := h.afterCommand faults command
    obtain ⟨hafter, hleads'⟩ := ih hnext
    exact ⟨hafter, hleads.trans hleads'⟩

end Coherent

/-- **The store is an append-only history with intact references.**  Whatever commands a session
has given and whichever of them failed, the rows it sees and the committed ones are in order and
refer to rows; and whatever it does later, its committed rows stay where they are, with the columns
and the revocations they have. -/
theorem grows_after_and_intact (faults : Faults) (commands later : List Command) :
    (empty.after faults commands).committed.Intact ∧
    (empty.after faults commands).visible.Intact ∧
    (empty.after faults commands).committed.Grows (empty.after faults commands).visible ∧
    (empty.after faults commands).committed.Grows
      (empty.after faults (commands ++ later)).committed := by
  have hcoherent := (coherent_empty.after faults commands).1
  have hlater : (empty.after faults commands).committed.Leads
      (empty.after faults (commands ++ later)).committed := by
    have happend : empty.after faults (commands ++ later) =
        (empty.after faults commands).after faults later := List.foldl_append
    rw [happend]
    exact (hcoherent.after faults later).2
  exact ⟨Store.intact_of_leads hcoherent.committed,
    Store.intact_of_leads (hcoherent.committed.trans hcoherent.visible),
    hcoherent.visible.grows, hlater.grows⟩

end Database

end OAuthGateway

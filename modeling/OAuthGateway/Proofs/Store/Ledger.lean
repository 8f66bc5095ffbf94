import Mathlib.Data.List.Induction
import OAuthGateway.Proofs.Store.Session

/-!
# Proofs/Store/Ledger — the rows of a session are told by its answers

A session is a list of commands and the calls of them that fail.  Its `log` has every command with
its answer, and from the log alone, without a look at any row, a `Ledger` is kept of the statements
that were carried out: those that are `lasting`, and apart from them the `tentative` ones of the
transaction that is open.  A commit makes the tentative ones lasting; dropping the transaction
strikes them out.  Transactions come one at a time, as `Command` explains: what is asked beside an
open one is a call that fails, and one whose commit fails is open until it is dropped.

The rows are those that the statements of the ledger make, one after the other, of no rows
(`Session.tells`): what failed, was refused or was rolled back has left no trace.
-/

namespace OAuthGateway

open Procedure

/-! ## Statements on rows -/

/-- The call that makes a statement, by its kind. -/
def Statement.call : Statement → Call
  | addApplication _ => .applicationCreate
  | updateApplication .. => .applicationUpdate
  | revokeApplication .. => .applicationRevoke
  | addGrant _ => .grantCreate
  | revokeGrant .. => .grantRevoke
  | addAccessToken _ => .accessTokenCreate
  | revokeAccessToken .. => .accessTokenRevoke
  | addRefreshToken _ => .refreshTokenCreate
  | revokeRefreshToken .. => .refreshTokenRevoke

namespace Store

variable {s s' : Store} {statement : Statement} {statements : List Statement}

/-- The rows after a statement, or why it was refused. -/
def apply (s : Store) : Statement → Except StoreError Store
  | .addApplication draft => (s.addApplication draft).map (·.2)
  | .updateApplication id changes => (s.updateApplication id changes).map (·.2)
  | .revokeApplication id moment => (s.revokeApplication id moment).map (·.2)
  | .addGrant draft => (s.addGrant draft).map (·.2)
  | .revokeGrant code moment => (s.revokeGrant code moment).map (·.2)
  | .addAccessToken draft => (s.addAccessToken draft).map (·.2)
  | .revokeAccessToken token moment => (s.revokeAccessToken token moment).map (·.2)
  | .addRefreshToken draft => (s.addRefreshToken draft).map (·.2)
  | .revokeRefreshToken token moment => (s.revokeRefreshToken token moment).map (·.2)

/-- The rows that statements make, one after the other, of no rows. -/
def made (statements : List Statement) : Except StoreError Store := statements.foldlM apply empty

/-- The last statement is made on the rows of the others. -/
theorem made_append_singleton :
    made (statements ++ [statement]) = made statements >>= fun s => s.apply statement := by
  rw [made, List.foldlM_append]
  exact congrArg (made statements >>= ·) (funext fun s => bind_pure _)

theorem exists_of_map_snd {α : Type} {x : Except StoreError (α × Store)}
    (h : x.map (·.2) = .ok s') : ∃ v, x = .ok (v, s') := by
  cases x with
  | error e => cases h
  | ok r => cases h; exact ⟨r.1, rfl⟩

/-- A statement that is carried out is a step of a history. -/
theorem step_of_apply (h : s.apply statement = .ok s') : Step s s' := by
  cases statement <;> obtain ⟨v, h⟩ := exists_of_map_snd h
  · exact .addApplication h
  · exact .updateApplication h
  · exact .revokeApplication h
  · exact .addGrant h
  · exact .revokeGrant h
  · exact .addAccessToken h
  · exact .revokeAccessToken h
  · exact .addRefreshToken h
  · exact .revokeRefreshToken h

/-- What statements make of no rows is a history. -/
theorem leads_of_made (h : made statements = .ok s) : empty.Leads s := by
  induction statements using List.reverseRecOn generalizing s with
  | nil => cases h; exact .refl _
  | append_singleton statements statement ih =>
    rw [made_append_singleton] at h
    obtain ⟨s₀, hmade, happly⟩ := exists_of_bind_eq_ok h
    exact (ih hmade).trans (.single (step_of_apply happly))

end Store

/-! ## Commands and their answers

A log has what was asked and what was answered, and nothing of the rows. -/

/-- A command and its answer. -/
abbrev Entry := Command × Except StoreError Unit

namespace Database

variable (faults : Faults) (db : Database)

/-- What comes of the visible rows when a statement is made, or why they stay. -/
def attempt (statement : Statement) : Except StoreError Store :=
  match faults db.calls statement.call with
  | some e => .error e
  | none => db.visible.apply statement

/-- The answer of a call, and the database after it, by the rows that were made. -/
def outcome : Except StoreError Store → Except StoreError Unit × Database
  | .ok s => (.ok (), ({ db with calls := db.calls + 1 } : Database).write s)
  | .error e => (.error e, { db with calls := db.calls + 1 })

/-- The answer to a command; a transaction can always be dropped. -/
def answer : Command → Except StoreError Unit
  | .statement statement => (statement.procedure.perform faults db).1
  | .begin => (Procedure.begin.perform faults db).1
  | .commit => (Procedure.commit.perform faults db).1
  | .rollback => .ok ()

/-- The commands of a session, each with its answer. -/
def log (faults : Faults) : Database → List Command → List Entry
  | _, [] => []
  | db, command :: commands =>
    (command, db.answer faults command) :: log faults (db.afterCommand faults command) commands

/-- The log of a session goes on from where its first part has ended. -/
theorem log_append (later commands : List Command) :
    db.log faults (commands ++ later) =
      db.log faults commands ++ (db.after faults commands).log faults later := by
  induction commands generalizing db with
  | nil => rfl
  | cons command commands ih => exact congrArg (_ :: ·) (ih _)

/-- Every answer in a log was given to its command after those before it. -/
theorem exists_of_mem_log {commands : List Command} {entry : Entry}
    (h : entry ∈ db.log faults commands) :
    ∃ before behind, commands = before ++ entry.1 :: behind ∧
      (db.after faults before).answer faults entry.1 = entry.2 := by
  induction commands generalizing db with
  | nil => cases h
  | cons command commands ih =>
    rcases List.mem_cons.1 h with rfl | h
    · exact ⟨[], commands, rfl, rfl⟩
    · obtain ⟨before, behind, rfl, hanswer⟩ := ih _ h
      exact ⟨command :: before, behind, rfl, hanswer⟩

end Database

section Perform

variable {α : Type} {faults : Faults} {db : Database} {kind : Call}

/-- A call whose value is dropped leaves the rows that its statement makes, or all as it was. -/
theorem Procedure.perform_map_change (f : α → Unit)
    (change : Store → Except StoreError (α × Store)) :
    (f <$> call kind change).perform faults db = db.outcome
      (match faults db.calls kind with
        | some e => .error e
        | none => (change db.visible).map (·.2)) := by
  rw [perform_map, perform_call]
  cases faults db.calls kind with
  | some e => rfl
  | none => cases change db.visible <;> rfl

/-- So does a call that has none. -/
theorem Procedure.perform_change (change : Store → Except StoreError (Unit × Store)) :
    (call kind change).perform faults db = db.outcome
      (match faults db.calls kind with
        | some e => .error e
        | none => (change db.visible).map (·.2)) := by
  rw [← perform_map_change id, id_map]

/-- **A statement leaves the rows that it makes**, or, refused or failed, all as it was. -/
theorem Statement.perform_procedure (statement : Statement) :
    statement.procedure.perform faults db = db.outcome (db.attempt faults statement) := by
  cases statement with
  | addApplication | addGrant | addAccessToken | addRefreshToken => exact perform_map_change _ _
  | updateApplication | revokeApplication | revokeGrant | revokeAccessToken | revokeRefreshToken =>
    rw [procedure]
    exact perform_change _

/-- The answer to a statement says whether it was carried out. -/
theorem Database.answer_statement (statement : Statement) :
    db.answer faults (.statement statement) =
      (db.attempt faults statement).map fun _ => () := by
  rw [answer, Statement.perform_procedure]
  cases db.attempt faults statement <;> rfl

end Perform

/-! ## Ledgers

A ledger is kept by reading a log, entry by entry.  It tells the rows if each command does to it
what it does to them. -/

/-- The statements that were carried out: for good, and in the transaction that is open. -/
structure Ledger where
  lasting : List Statement
  tentative : Option (List Statement)

namespace Ledger

/-- The ledger before the first command. -/
def blank : Ledger := ⟨[], none⟩

/-- What was carried out for good, and what was in the open transaction. -/
def visible (l : Ledger) : List Statement := l.lasting ++ l.tentative.getD []

/-- Enters a command that was answered with success. -/
def enter (l : Ledger) : Command → Ledger
  | .statement statement =>
    match l.tentative with
    | some statements => { l with tentative := some (statements ++ [statement]) }
    | none => { l with lasting := l.lasting ++ [statement] }
  | .begin => { l with tentative := some [] }
  | .commit => ⟨l.visible, none⟩
  | .rollback => { l with tentative := none }

/-- Enters a command unless its answer was an error. -/
def note (l : Ledger) (entry : Entry) : Ledger :=
  match entry.2 with
  | .ok _ => l.enter entry.1
  | .error _ => l

/-- The ledger of a log. -/
def ofLog (log : List Entry) : Ledger := log.foldl note blank

/-- Among the entries, no transaction is closed: none is committed, and none dropped. -/
structure Unclosed (log : List Entry) : Prop where
  commit : (.commit, .ok ()) ∉ log
  rollback : (.rollback, .ok ()) ∉ log

section Note

variable (l : Ledger) (entry : Entry) (log : List Entry)

/-- What was carried out for good is never struck out. -/
theorem lasting_isPrefix_note : l.lasting <+: (l.note entry).lasting := by
  obtain ⟨command, e | ok⟩ := entry
  · exact List.prefix_rfl
  · cases command with
    | statement statement =>
      obtain ⟨lasting, _ | statements⟩ := l
      · exact List.prefix_append lasting [statement]
      · exact List.prefix_rfl
    | begin | rollback => exact List.prefix_rfl
    | commit => exact List.prefix_append _ _

/-- What is lasting stays lasting. -/
theorem lasting_isPrefix_foldl : l.lasting <+: (log.foldl note l).lasting := by
  induction log generalizing l with
  | nil => exact List.prefix_rfl
  | cons entry log ih => exact (l.lasting_isPrefix_note entry).trans (ih (l.note entry))

/-- A statement that is entered comes last. -/
theorem visible_enter_statement (statement : Statement) :
    (l.enter (.statement statement)).visible = l.visible ++ [statement] := by
  obtain ⟨lasting, _ | statements⟩ := l
  · rw [visible, visible, enter, Option.getD_none, List.append_nil, List.append_nil]
  · exact (List.append_assoc lasting statements [statement]).symm

theorem visible_enter_begin : (l.enter .begin).visible = l.lasting := List.append_nil _

theorem visible_enter_commit : (l.enter .commit).visible = l.visible := List.append_nil _

theorem visible_enter_rollback : (l.enter .rollback).visible = l.lasting := List.append_nil _

/-- A statement becomes visible by being answered with success. -/
theorem mem_visible_note {statement : Statement} (h : statement ∈ (l.note entry).visible) :
    statement ∈ l.visible ∨ (.statement statement, .ok ()) = entry := by
  obtain ⟨command, e | ok⟩ := entry
  · exact .inl h
  · rw [note] at h
    cases command with
    | statement other =>
      rw [visible_enter_statement, List.mem_append, List.mem_singleton] at h
      exact h.imp_right fun heq => by rw [heq]
    | begin => exact .inl (List.mem_append_left _ (l.visible_enter_begin ▸ h))
    | commit => exact .inl (l.visible_enter_commit ▸ h)
    | rollback => exact .inl (List.mem_append_left _ (l.visible_enter_rollback ▸ h))

/-- Whatever is visible in the end was so at the start, or was answered well. -/
theorem mem_visible_foldl {statement : Statement} (h : statement ∈ (log.foldl note l).visible) :
    statement ∈ l.visible ∨ (.statement statement, .ok ()) ∈ log := by
  induction log generalizing l with
  | nil => exact .inl h
  | cons entry log ih =>
    rcases ih (l.note entry) h with hvisible | hlog
    · exact (l.mem_visible_note entry hvisible).imp_right fun heq => List.mem_cons.2 (.inl heq)
    · exact .inr (List.mem_cons_of_mem entry hlog)

/-- While a transaction is open and not closed, nothing becomes lasting. -/
theorem lasting_foldl_of_unclosed (hopen : l.tentative.isSome = true) (h : Unclosed log) :
    (log.foldl note l).lasting = l.lasting := by
  induction log generalizing l with
  | nil => rfl
  | cons entry log ih =>
    obtain ⟨hcommit, hrollback⟩ := h
    rw [List.mem_cons, not_or] at hcommit hrollback
    obtain ⟨lasting, _ | statements⟩ := l
    · cases hopen
    · have hnext : ((⟨lasting, some statements⟩ : Ledger).note entry).lasting = lasting ∧
          ((⟨lasting, some statements⟩ : Ledger).note entry).tentative.isSome = true := by
        obtain ⟨command, e | ⟨⟩⟩ := entry
        · exact ⟨rfl, rfl⟩
        · cases command with
          | statement | begin => exact ⟨rfl, rfl⟩
          | commit => exact absurd rfl hcommit.1
          | rollback => exact absurd rfl hrollback.1
      exact (ih _ hnext.2 ⟨hcommit.2, hrollback.2⟩).trans hnext.1

end Note

/-- The rows of a database are those that the statements of the ledger make: the committed rows the
lasting ones, and the pending rows the tentative ones after them. -/
structure Tells (l : Ledger) (db : Database) : Prop where
  committed : Store.made l.lasting = .ok db.committed
  pending : Option.Rel (fun statements s => Store.made (l.lasting ++ statements) = .ok s)
    l.tentative db.pending

namespace Tells

variable {l : Ledger} {db : Database} {faults : Faults}

theorem blank : Ledger.blank.Tells .empty := ⟨rfl, .none⟩

/-- The statements that are visible in the ledger make the visible rows. -/
theorem visible (h : l.Tells db) : Store.made l.visible = .ok db.visible := by
  obtain ⟨lasting, tentative⟩ := l
  obtain ⟨c, p, n⟩ := db
  obtain ⟨hcommitted, hpending⟩ := h
  cases hpending with
  | none => exact (congrArg Store.made (List.append_nil _)).trans hcommitted
  | some hmade => exact hmade

/-- A statement that was carried out is entered. -/
theorem write (h : l.Tells db) {statement : Statement} {s : Store}
    (happly : db.visible.apply statement = .ok s) (n : ℕ) :
    (l.enter (.statement statement)).Tells (({ db with calls := n } : Database).write s) := by
  have hmade : Store.made (l.visible ++ [statement]) = .ok s := by
    rw [Store.made_append_singleton, h.visible]
    exact happly
  obtain ⟨lasting, tentative⟩ := l
  obtain ⟨c, p, m⟩ := db
  obtain ⟨hcommitted, hpending⟩ := h
  cases hpending with
  | none =>
    refine ⟨?_, .none⟩
    rwa [Ledger.visible, Option.getD_none, List.append_nil] at hmade
  | some =>
    refine ⟨hcommitted, .some ?_⟩
    rwa [Ledger.visible, Option.getD_some, List.append_assoc] at hmade

/-- **A command keeps the ledger telling the rows**, whatever it is answered. -/
theorem note (h : l.Tells db) (faults : Faults) (command : Command) :
    (l.note (command, db.answer faults command)).Tells (db.afterCommand faults command) := by
  cases command with
  | statement statement =>
    rw [Database.answer, Database.afterCommand, Statement.perform_procedure]
    cases hattempt : db.attempt faults statement with
    | error e => exact ⟨h.committed, h.pending⟩
    | ok s =>
      refine h.write ?_ _
      rw [Database.attempt] at hattempt
      split at hattempt
      · cases hattempt
      · exact hattempt
  | begin =>
    rw [Database.answer, Database.afterCommand, begin, perform_control]
    cases faults db.calls .begin with
    | some e => exact ⟨h.committed, h.pending⟩
    | none =>
      refine ⟨h.committed, .some ?_⟩
      rw [List.append_nil]
      exact h.committed
  | commit =>
    rw [Database.answer, Database.afterCommand, commit, perform_control]
    cases faults db.calls .commit with
    | some e => exact ⟨h.committed, h.pending⟩
    | none => exact ⟨h.visible, .none⟩
  | rollback => exact ⟨h.committed, .none⟩

/-- **The ledger of a session tells its rows.** -/
theorem log (h : l.Tells db) (faults : Faults) (commands : List Command) :
    ((db.log faults commands).foldl Ledger.note l).Tells (db.after faults commands) := by
  induction commands generalizing l db with
  | nil => exact h
  | cons command commands ih => exact ih (h.note faults command)

end Tells

end Ledger

/-! ## Sessions

A session may be continued, and what is lasting in its ledger then stays in front. -/

/-- What was asked of a database, one command after the other and with one transaction at a time,
and which of its calls fail. -/
structure Session where
  faults : Faults
  commands : List Command

namespace Session

/-- The database that the session has come to. -/
def database (σ : Session) : Database := Database.empty.after σ.faults σ.commands

/-- The ledger that is kept of the session. -/
def ledger (σ : Session) : Ledger := .ofLog (Database.empty.log σ.faults σ.commands)

/-- The answer to a command that comes next. -/
def answer (σ : Session) (command : Command) : Except StoreError Unit :=
  σ.database.answer σ.faults command

/-- The entries that later commands add to the log. -/
def log (σ : Session) (later : List Command) : List Entry := σ.database.log σ.faults later

/-- The session with more commands. -/
def continued (σ : Session) (later : List Command) : Session :=
  { σ with commands := σ.commands ++ later }

/-- The session after the open transaction, if there is one, has been dropped. -/
def rolledBack (σ : Session) : Session := σ.continued [.rollback]

/-- The session after a transaction of these commands was begun and dropped. -/
def undone (σ : Session) (inner : List Command) : Session :=
  (σ.continued (.begin :: inner)).rolledBack

variable (σ : Session) (later : List Command)

/-- **The ledger of a session tells its rows.** -/
theorem tells : σ.ledger.Tells σ.database := Ledger.Tells.blank.log σ.faults σ.commands

/-- A session that is continued goes on from its database. -/
theorem database_continued : (σ.continued later).database = σ.database.after σ.faults later :=
  List.foldl_append

/-- A session that is continued goes on from its ledger. -/
theorem ledger_continued :
    (σ.continued later).ledger = (σ.log later).foldl Ledger.note σ.ledger := by
  rw [ledger, Ledger.ofLog, continued, Database.log_append, List.foldl_append]
  rfl

theorem continued_continued (before behind : List Command) :
    (σ.continued before).continued behind = σ.continued (before ++ behind) := by
  rw [continued, continued, continued, List.append_assoc]

/-- What is lasting in a session is so in every continuation. -/
theorem lasting_isPrefix_continued : σ.ledger.lasting <+: (σ.continued later).ledger.lasting := by
  rw [ledger_continued]
  exact σ.ledger.lasting_isPrefix_foldl _

theorem lasting_isPrefix_visible : σ.ledger.lasting <+: (σ.continued later).ledger.visible :=
  (σ.lasting_isPrefix_continued later).trans (List.prefix_append _ _)

/-- A session that was rolled back has only what is lasting to tell. -/
theorem ledger_rolledBack : σ.rolledBack.ledger = ⟨σ.ledger.lasting, none⟩ := σ.ledger_continued _

/-- **A transaction that is rolled back leaves no trace**, whatever was asked in it. -/
theorem undone_eq {inner : List Command} (hbegin : σ.answer .begin = .ok ())
    (hinner : Ledger.Unclosed ((σ.continued [.begin]).log inner)) :
    (σ.undone inner).ledger = ⟨σ.ledger.lasting, none⟩ ∧
      (σ.undone inner).database.committed = σ.database.committed ∧
      (σ.undone inner).database.pending = none := by
  have hbegun : (σ.continued [.begin]).ledger = ⟨σ.ledger.lasting, some []⟩ := by
    rw [ledger_continued]
    change σ.ledger.note (.begin, σ.answer .begin) = _
    rw [hbegin]
    rfl
  have hlasting : (σ.continued (.begin :: inner)).ledger.lasting = σ.ledger.lasting := by
    rw [← List.singleton_append, ← continued_continued, ledger_continued,
      Ledger.lasting_foldl_of_unclosed _ _ (by rw [hbegun]; rfl) hinner, hbegun]
  have hledger : (σ.undone inner).ledger = ⟨σ.ledger.lasting, none⟩ := by
    rw [undone, ledger_rolledBack, hlasting]
  have htells := (σ.undone inner).tells
  rw [hledger] at htells
  refine ⟨hledger, Except.ok.inj (htells.committed.symm.trans σ.tells.committed), ?_⟩
  cases hpending : (σ.undone inner).database.pending with
  | none => rfl
  | some s => cases hpending ▸ htells.pending

end Session

end OAuthGateway

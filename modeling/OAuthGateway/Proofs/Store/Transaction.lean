import OAuthGateway.Proofs.Store.History
import OAuthGateway.Store.Database

/-!
# Proofs/Store/Transaction — what a procedure may leave behind, whatever fails

A `Frame` is a relation between the database before and after that may be chained, and a procedure
that `Keeps` it does so under every pattern of faults and with every answer.  Three frames matter:
a procedure that only looks is `untouched`; `inside` a transaction the committed rows stay, and the
pending ones before and after are related; `outside` of one nothing is left pending, and the
committed rows are related.  Where the relation is that statements lead from one to the other, a
procedure is `buffered` inside and `settled` outside.

`Atomic` is the law of a whole operation: it is settled, and after an error the committed rows are
what they were.  It holds of every `transaction` over buffered statements (`atomic_transaction`),
and what a transaction does when it succeeds is what its body did to the pending rows
(`transaction_ok`).
-/

namespace OAuthGateway.Procedure

variable {ε ε' α β : Type} {faults : Faults} {db db' : Database}

/-! ## Success, read backwards

A procedure that has succeeded tells what each of its parts has answered, and on what rows. -/

/-- A sequence that succeeds has both its parts succeed, the second from where the first has left
the database. -/
theorem bind_ok {p : Procedure ε α} {f : α → Procedure ε β} {b : β}
    (h : (p >>= f).perform faults db = (.ok b, db')) :
    ∃ a db₁, p.perform faults db = (.ok a, db₁) ∧ (f a).perform faults db₁ = (.ok b, db') := by
  rw [perform_bind] at h
  rcases hp : p.perform faults db with ⟨a | a, db₁⟩ <;> rw [hp] at h
  · cases h
  · exact ⟨a, db₁, rfl, h⟩

theorem map_ok {p : Procedure ε α} {f : α → β} {b : β}
    (h : (f <$> p).perform faults db = (.ok b, db')) :
    ∃ a, p.perform faults db = (.ok a, db') ∧ b = f a := by
  rw [perform_map] at h
  rcases hp : p.perform faults db with ⟨a | a, db₁⟩ <;> rw [hp] at h <;> cases h
  exact ⟨a, rfl, rfl⟩

theorem map_error {p : Procedure ε α} {f : α → β} {e : ε}
    (h : (f <$> p).perform faults db = (.error e, db')) :
    p.perform faults db = (.error e, db') := by
  rw [perform_map] at h
  rcases hp : p.perform faults db with ⟨a | a, db₁⟩ <;> rw [hp] at h <;> cases h
  rfl

theorem mapError_ok {p : Procedure ε α} {g : ε → ε'} {a : α}
    (h : (p.mapError g).perform faults db = (.ok a, db')) :
    p.perform faults db = (.ok a, db') := by
  rw [perform_mapError] at h
  rcases hp : p.perform faults db with ⟨e | v, db₁⟩ <;> rw [hp] at h <;> cases h
  rfl

/-- A call that succeeds has written what its statement makes of the visible rows. -/
theorem call_ok {kind : Call} {statement : Store → Except StoreError (α × Store)} {v : α}
    (h : (call kind statement).perform faults db = (.ok v, db')) :
    ∃ s, statement db.visible = .ok (v, s) ∧
      db' = ({ db with calls := db.calls + 1 } : Database).write s := by
  rw [perform_call] at h
  split at h
  · cases h
  · split at h <;> rename_i hs <;> cases h
    exact ⟨_, hs, rfl⟩

/-- A call that only looks answers what the statement answers, or its fault, and leaves all but the
number of calls. -/
theorem perform_look (kind : Call) (statement : Store → Except StoreError α) :
    (look kind statement).perform faults db =
      (match faults db.calls kind with | some e => .error e | none => statement db.visible,
        { db with calls := db.calls + 1 }) := by
  obtain ⟨c, p, n⟩ := db
  rw [look, perform_call]
  cases faults n kind with
  | some e => rfl
  | none => cases hv : statement (Database.visible ⟨c, p, n⟩) <;> cases p <;> rfl

/-- A look that succeeds has found what it shows in the visible rows, and has changed nothing. -/
theorem look_ok {kind : Call} {statement : Store → Except StoreError α} {v : α}
    (h : (look kind statement).perform faults db = (.ok v, db')) :
    faults db.calls kind = none ∧ statement db.visible = .ok v ∧
      db' = { db with calls := db.calls + 1 } := by
  rw [perform_look, Prod.mk.injEq] at h
  obtain ⟨hv, rfl⟩ := h
  split at hv <;> rename_i hfault
  · cases hv
  · exact ⟨hfault, hv, rfl⟩

/-- Out of transactions, a lookup that succeeds answers the row and counts a call. -/
theorem perform_lookup {f : StoreError → ε} {kind : Call} {statement : Store → Except StoreError α}
    {s : Store} {n : ℕ} {v : α} (hcall : faults n kind = none) (hv : statement s = .ok v) :
    ((look kind statement).mapError f).perform faults ⟨s, none, n⟩ = (.ok v, ⟨s, none, n + 1⟩) := by
  have hvisible : statement (Database.visible ⟨s, none, n⟩) = .ok v := hv
  rw [perform_mapError, perform_look, hcall, hvisible]
  rfl

/-! ## Frames

A frame is kept by a procedure if it is kept by all its parts, so that what a procedure leaves
behind is read off the calls that it makes. -/

/-- How a database before and after may be related, step by step. -/
structure Frame where
  /-- The relation. -/
  holds : Database → Database → Prop
  refl : ∀ db, holds db db
  trans : ∀ {a b c}, holds a b → holds b c → holds a c

namespace Frame

/-- No rows have changed. -/
def untouched : Frame where
  holds db db' := db'.committed = db.committed ∧ db'.pending = db.pending
  refl _ := ⟨rfl, rfl⟩
  trans h h' := ⟨h'.1.trans h.1, h'.2.trans h.2⟩

/-- In a transaction, only pending rows have changed, and they are so related. -/
def inside (R : Store → Store → Prop) (refl : ∀ s, R s s)
    (trans : ∀ {s s' s''}, R s s' → R s' s'' → R s s'') : Frame where
  holds db db' := ∀ s, db.pending = some s →
    db'.committed = db.committed ∧ ∃ s', db'.pending = some s' ∧ R s s'
  refl _ s h := ⟨rfl, s, h, refl s⟩
  trans h h' s hs := by
    obtain ⟨hcommitted, t, ht, hst⟩ := h s hs
    obtain ⟨hcommitted', u, hu, htu⟩ := h' t ht
    exact ⟨hcommitted'.trans hcommitted, u, hu, trans hst htu⟩

/-- Out of transactions, nothing is left pending, and the committed rows are so related. -/
def outside (R : Store → Store → Prop) (refl : ∀ s, R s s)
    (trans : ∀ {s s' s''}, R s s' → R s' s'' → R s s'') : Frame where
  holds db db' := db.pending = none → db'.pending = none ∧ R db.committed db'.committed
  refl db h := ⟨h, refl db.committed⟩
  trans h h' hnone := by
    obtain ⟨hnone', hleads⟩ := h hnone
    obtain ⟨hnone'', hleads'⟩ := h' hnone'
    exact ⟨hnone'', trans hleads hleads'⟩

/-- In a transaction, only pending rows have changed, and by statements. -/
def buffered : Frame := inside Store.Leads .refl .trans

/-- Out of transactions, nothing is left pending, and committed rows have changed by statements. -/
def settled : Frame := outside Store.Leads .refl .trans

end Frame

/-- Whatever fails and whatever is answered, the database before and after is so related. -/
def Keeps (F : Frame) (p : Procedure ε α) : Prop :=
  ∀ faults db, F.holds db (p.perform faults db).2

section Keeps

variable {F : Frame}

theorem keeps_pure (v : α) : Keeps F (pure v : Procedure ε α) := fun _ db => F.refl db

theorem keeps_throw (e : ε) : Keeps F (throw e : Procedure ε α) := fun _ db => F.refl db

theorem keeps_verdict (v : Except ε α) : Keeps F (verdict v) := fun _ db => F.refl db

/-- A sequence keeps what both its parts keep. -/
theorem keeps_bind {p : Procedure ε α} {f : α → Procedure ε β} (hp : Keeps F p)
    (hf : ∀ a, Keeps F (f a)) : Keeps F (p >>= f) := by
  intro faults db
  have h := hp faults db
  rw [perform_bind]
  rcases hrun : p.perform faults db with ⟨e | a, db₁⟩ <;> rw [hrun] at h
  · exact h
  · exact F.trans h (hf a faults db₁)

theorem keeps_map {p : Procedure ε α} (f : α → β) (hp : Keeps F p) : Keeps F (f <$> p) := by
  intro faults db
  rw [perform_map]
  exact hp faults db

theorem keeps_mapError {p : Procedure ε α} (g : ε → ε') (hp : Keeps F p) :
    Keeps F (p.mapError g) := by
  intro faults db
  rw [perform_mapError]
  exact hp faults db

end Keeps

/-- A look touches no rows, whether it fails or not. -/
theorem keeps_untouched_look (kind : Call) (statement : Store → Except StoreError α) :
    Keeps .untouched (look kind statement) := by
  intro faults db
  rw [perform_look]
  exact ⟨rfl, rfl⟩

section Relation

variable {R : Store → Store → Prop} {refl : ∀ s, R s s}
  {trans : ∀ {s s' s''}, R s s' → R s' s'' → R s s''}

/-- What touches no rows keeps any relation inside of a transaction. -/
theorem Keeps.inside_of_untouched {p : Procedure ε α} (h : Keeps .untouched p) :
    Keeps (.inside R refl trans) p := by
  intro faults db s hs
  obtain ⟨hcommitted, hpending⟩ := h faults db
  exact ⟨hcommitted, s, hpending.trans hs, refl s⟩

/-- What touches no rows keeps any relation outside of a transaction. -/
theorem Keeps.outside_of_untouched {p : Procedure ε α} (h : Keeps .untouched p) :
    Keeps (.outside R refl trans) p := by
  intro faults db hnone
  obtain ⟨hcommitted, hpending⟩ := h faults db
  exact ⟨hpending.trans hnone, hcommitted ▸ refl _⟩

/-- Whenever the statement succeeds, the rows before and after are so related. -/
def Follows (R : Store → Store → Prop) (statement : Store → Except StoreError (α × Store)) : Prop :=
  ∀ {s s' v}, statement s = .ok (v, s') → R s s'

section Follows

variable {kind : Call} {statement : Store → Except StoreError (α × Store)}

/-- Inside of a transaction, a call relates the pending rows as its statement does. -/
theorem keeps_inside_call (h : Follows R statement) :
    Keeps (.inside R refl trans) (call kind statement) := by
  rintro faults ⟨c, p, n⟩ s rfl
  rw [perform_call]
  cases faults n kind with
  | some e => exact ⟨rfl, s, rfl, refl s⟩
  | none =>
    cases hv : statement (Database.visible ⟨c, some s, n⟩) with
    | error e => exact ⟨rfl, s, rfl, refl s⟩
    | ok r => exact ⟨rfl, r.2, rfl, h hv⟩

/-- Outside of a transaction, a call relates the committed rows as its statement does. -/
theorem keeps_outside_call (h : Follows R statement) :
    Keeps (.outside R refl trans) (call kind statement) := by
  rintro faults ⟨c, p, n⟩ rfl
  rw [perform_call]
  cases faults n kind with
  | some e => exact ⟨rfl, refl c⟩
  | none =>
    cases hv : statement (Database.visible ⟨c, none, n⟩) with
    | error e => exact ⟨rfl, refl c⟩
    | ok r => exact ⟨rfl, h hv⟩

end Follows

end Relation

/-! ## Transactions

A transaction is its body between two calls of its own.  What the body has written is committed only
after all of it has succeeded. -/

section Transaction

variable {failure : StoreError → ε} {p : Procedure ε α} {c : Store} {n : ℕ}

/-- **What a transaction does**: it can fail at its begin, in its body and at its commit, and each
time the rows are those from before. -/
theorem perform_transaction :
    (transaction failure p).perform faults ⟨c, none, n⟩ =
      match faults n .begin with
      | some e => (.error (failure e), ⟨c, none, n + 1⟩)
      | none =>
        match p.perform faults ⟨c, some c, n + 1⟩ with
        | (.error e, db) => (.error e, db.rolledBack)
        | (.ok v, db) =>
          match faults db.calls .commit with
          | some e => (.error (failure e), ⟨db.committed, none, db.calls + 1⟩)
          | none => (.ok v, ⟨db.visible, none, db.calls + 1⟩) := by
  rw [transaction, perform_bind, perform_mapError, begin, perform_control]
  cases faults n .begin with
  | some e => rfl
  | none =>
    change (orRollback _).perform faults ⟨c, some c, n + 1⟩ = _
    rw [perform_orRollback, perform_bind]
    rcases p.perform faults ⟨c, some c, n + 1⟩ with ⟨e | v, db⟩
    · rfl
    · simp only [perform_bind, perform_mapError, commit, perform_control]
      cases faults db.calls .commit <;> rfl

/-- **A transaction that succeeds** makes what its body left pending the committed rows. -/
theorem transaction_ok (hp : Keeps .buffered p) {v : α}
    (h : (transaction failure p).perform faults ⟨c, none, n⟩ = (.ok v, db')) :
    ∃ s m, p.perform faults ⟨c, some c, n + 1⟩ = (.ok v, ⟨c, some s, m⟩) ∧
      db' = ⟨s, none, m + 1⟩ := by
  have hkept := hp faults ⟨c, some c, n + 1⟩ c rfl
  rw [perform_transaction] at h
  cases hbegin : faults n .begin with
  | some e => rw [hbegin] at h; cases h
  | none =>
    rw [hbegin] at h
    rcases hrun : p.perform faults ⟨c, some c, n + 1⟩ with ⟨e | w, d, q, m⟩ <;>
      simp only [hrun] at h hkept
    · cases h
    · obtain ⟨rfl, s, rfl, -⟩ := hkept
      cases hcommit : faults m .commit with
      | some e => rw [hcommit] at h; cases h
      | none =>
        rw [hcommit] at h
        cases h
        exact ⟨s, m, rfl, rfl⟩

/-- **A transaction whose first statement is refused** leaves all as it was. -/
theorem perform_transaction_refused {kind : Call} {β : Type} {f : StoreError → ε}
    {statement : Store → Except StoreError (β × Store)} {rest : β → Procedure ε α} {e : StoreError}
    (hbegin : faults n .begin = none) (hcall : faults (n + 1) kind = none)
    (hrefused : statement c = .error e) :
    (transaction failure ((call kind statement).mapError f >>= rest)).perform faults ⟨c, none, n⟩ =
      (.error (f e), ⟨c, none, n + 2⟩) := by
  have hvisible : statement (Database.visible ⟨c, some c, n + 1⟩) = .error e := hrefused
  rw [perform_transaction, hbegin]
  simp only [perform_bind, perform_mapError, perform_call, hcall, hvisible]
  rfl

/-- A statement of a transaction changes the pending rows. -/
theorem statement_ok {kind : Call} {statement : Store → Except StoreError (α × Store)} {s : Store}
    {v : α} (h : ((call kind statement).mapError failure).perform faults ⟨c, some s, n⟩
      = (.ok v, db')) : ∃ s', statement s = .ok (v, s') ∧ db' = ⟨c, some s', n + 1⟩ :=
  call_ok (mapError_ok h)

/-- A lookup of a transaction sees the pending rows. -/
theorem lookup_ok {kind : Call} {statement : Store → Except StoreError α} {s : Store} {v : α}
    (h : ((look kind statement).mapError failure).perform faults ⟨c, some s, n⟩ = (.ok v, db')) :
    statement s = .ok v ∧ db' = ⟨c, some s, n + 1⟩ :=
  (look_ok (mapError_ok h)).2

/-- **A transaction commits what its body did**, or nothing, and leaves nothing pending. -/
theorem keeps_outside_transaction {R : Store → Store → Prop} {refl : ∀ s, R s s}
    {trans : ∀ {s s' s''}, R s s' → R s' s'' → R s s''} (hp : Keeps (.inside R refl trans) p) :
    Keeps (.outside R refl trans) (transaction failure p) := by
  rintro faults ⟨c, q, n⟩ rfl
  have hkept := hp faults ⟨c, some c, n + 1⟩ c rfl
  rw [perform_transaction]
  cases faults n .begin with
  | some e => exact ⟨rfl, refl c⟩
  | none =>
    rcases hrun : p.perform faults ⟨c, some c, n + 1⟩ with ⟨e | v, d, q, m⟩ <;>
      simp only [hrun] at hkept ⊢
    · exact ⟨rfl, hkept.1 ▸ refl c⟩
    · obtain ⟨rfl, s, rfl, hrelated⟩ := hkept
      cases faults m .commit with
      | some e => exact ⟨rfl, refl d⟩
      | none => exact ⟨rfl, hrelated⟩

end Transaction

/-! ## Operations

Atomicity does not depend on how an answer or an error is worded. -/

/-- A whole operation: it commits by statements and leaves nothing pending, and after an error the
committed rows are what they were. -/
structure Atomic (p : Procedure ε α) : Prop where
  settled : Keeps .settled p
  unchanged : ∀ {faults s n e db}, p.perform faults ⟨s, none, n⟩ = (.error e, db) →
    db.committed = s

/-- **After an error the database is as it was**, but for the number of calls. -/
theorem Atomic.restored {p : Procedure ε α} (hp : Atomic p) {s : Store} {n : ℕ} {e : ε}
    (h : p.perform faults ⟨s, none, n⟩ = (.error e, db)) : ∃ m, db = ⟨s, none, m⟩ := by
  have hsettled := (hp.settled faults ⟨s, none, n⟩ rfl).1
  rw [h] at hsettled
  obtain ⟨c, q, m⟩ := db
  obtain rfl : c = s := hp.unchanged h
  obtain rfl : q = none := hsettled
  exact ⟨m, rfl⟩

/-- **A transaction is all or nothing**, whether `begin`, its body or `commit` fails. -/
theorem atomic_transaction {failure : StoreError → ε} {p : Procedure ε α}
    (hp : Keeps .buffered p) : Atomic (transaction failure p) where
  settled := keeps_outside_transaction hp
  unchanged {faults c n e db} h := by
    have hkept := hp faults ⟨c, some c, n + 1⟩ c rfl
    rw [perform_transaction] at h
    cases hbegin : faults n .begin with
    | some e => rw [hbegin] at h; cases h; rfl
    | none =>
      rw [hbegin] at h
      rcases hrun : p.perform faults ⟨c, some c, n + 1⟩ with ⟨e | v, d, q, m⟩ <;>
        simp only [hrun] at h hkept
      · cases h
        exact hkept.1
      · cases hcommit : faults m .commit with
        | some e => rw [hcommit] at h; cases h; exact hkept.1
        | none => rw [hcommit] at h; cases h

/-- What only looks leaves all as it was. -/
theorem Atomic.of_untouched {p : Procedure ε α} (hp : Keeps .untouched p) : Atomic p where
  settled := hp.outside_of_untouched
  unchanged {faults s n e db} h := by
    have hkept := hp faults ⟨s, none, n⟩
    rw [h] at hkept
    exact hkept.1

/-- What only looks may come before. -/
theorem atomic_bind {p : Procedure ε α} {f : α → Procedure ε β} (hp : Keeps .untouched p)
    (hf : ∀ a, Atomic (f a)) : Atomic (p >>= f) where
  settled := keeps_bind hp.outside_of_untouched fun a => (hf a).settled
  unchanged {faults s n e db} h := by
    have hkept := hp faults ⟨s, none, n⟩
    rw [perform_bind] at h
    rcases hrun : p.perform faults ⟨s, none, n⟩ with ⟨e | a, d, q, m⟩ <;>
      simp only [hrun] at h hkept
    · cases h
      exact hkept.1
    · obtain ⟨hcommitted, hpending⟩ : d = s ∧ q = none := hkept
      subst hcommitted hpending
      exact (hf a).unchanged h

theorem atomic_map {p : Procedure ε α} (f : α → β) (hp : Atomic p) : Atomic (f <$> p) where
  settled := keeps_map f hp.settled
  unchanged {faults s n e db} h := by
    rw [perform_map] at h
    rcases hrun : p.perform faults ⟨s, none, n⟩ with ⟨e | a, d⟩ <;> rw [hrun] at h <;> cases h
    exact hp.unchanged hrun

theorem atomic_mapError {p : Procedure ε α} (g : ε → ε') (hp : Atomic p) :
    Atomic (p.mapError g) where
  settled := keeps_mapError g hp.settled
  unchanged {faults s n e db} h := by
    rw [perform_mapError] at h
    rcases hrun : p.perform faults ⟨s, none, n⟩ with ⟨e | a, d⟩ <;> rw [hrun] at h <;> cases h
    exact hp.unchanged hrun

/-- A statement on its own commits, or changes nothing. -/
theorem atomic_call {kind : Call} {statement : Store → Except StoreError (α × Store)}
    (hs : Follows Store.Leads statement) : Atomic (call kind statement) where
  settled := keeps_outside_call hs
  unchanged {faults s n e db} h := by
    rw [perform_call] at h
    split at h
    · cases h
      rfl
    · split at h <;> cases h
      rfl

end OAuthGateway.Procedure

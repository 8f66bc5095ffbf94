import OAuthGateway.Proofs.Store.Transaction

/-!
# Proofs/Store/Coupling — two runs under the same faults

Two procedures are `Coupled` when, run on related rows with the same faults from the same call on,
they fail with the same error, or both succeed with related values and rows.  A precondition relates
the rows before, a postcondition values and rows after, and there is one rule for each way in which
procedures are made; `Coupled.transaction` is the rule for a whole transaction.
-/

namespace OAuthGateway

/-- A database that shows some rows: the committed ones, or the pending ones of a transaction that
was opened on the base. -/
def Database.showing (base : Option Store) (s : Store) (n : ℕ) : Database :=
  match base with
  | none => ⟨s, none, n⟩
  | some c => ⟨c, some s, n⟩

namespace Procedure

variable {ε ε' α β : Type}

/-- Two outcomes match: the same error, or values and rows that are so related. -/
def Matches (base base' : Option Store) (Q : α → Store → α → Store → Prop)
    (x y : Except ε α × Database) : Prop :=
  (∃ e db db', x = (.error e, db) ∧ y = (.error e, db')) ∨
    ∃ v w s t n, x = (.ok v, .showing base s n) ∧ y = (.ok w, .showing base' t n) ∧ Q v s w t

/-- On related rows and under the same faults, the outcomes match. -/
def Coupled (P : Store → Store → Prop) (p q : Procedure ε α)
    (Q : α → Store → α → Store → Prop) : Prop :=
  ∀ faults base base' n s t, P s t →
    Matches base base' Q (p.perform faults (.showing base s n))
      (q.perform faults (.showing base' t n))

/-- What two statements did is related, or they failed with the same error. -/
def Agrees (Q : α → Store → α → Store → Prop) (x y : Except StoreError (α × Store)) : Prop :=
  (∃ e, x = .error e ∧ y = .error e) ∨
    ∃ v w s t, x = .ok (v, s) ∧ y = .ok (w, t) ∧ Q v s w t

variable {P : Store → Store → Prop} {Q : α → Store → α → Store → Prop}

/-! ## Rules

One for each way in which procedures are made, as in a logic of triples, but with two runs in place
of one. -/

theorem Matches.error (base base' : Option Store) (Q : α → Store → α → Store → Prop) (e : ε)
    (db db' : Database) : Matches base base' Q (.error e, db) (.error e, db') :=
  .inl ⟨e, db, db', rfl, rfl⟩

theorem Matches.ok {base base' : Option Store} {v w : α} {s t : Store} (n : ℕ) (h : Q v s w t) :
    Matches (ε := ε) base base' Q (.ok v, .showing base s n) (.ok w, .showing base' t n) :=
  .inr ⟨v, w, s, t, n, rfl, rfl, h⟩

/-- Matching answers look the same to whoever cannot tell related values apart. -/
theorem Matches.map_eq {γ : Type} {f : α → γ} {base base' : Option Store}
    {x y : Except ε α × Database} (h : Matches base base' (fun v _ w _ => f v = f w) x y) :
    x.1.map f = y.1.map f := by
  obtain ⟨e, db, db', rfl, rfl⟩ | ⟨v, w, s, t, n, rfl, rfl, hf⟩ := h
  · rfl
  · exact congrArg Except.ok hf

theorem coupled_pure {v w : α} (h : ∀ {s t}, P s t → Q v s w t) :
    Coupled P (pure v : Procedure ε α) (pure w) Q :=
  fun _ _ _ n _ _ hP => .ok n (h hP)

theorem coupled_throw (e : ε) : Coupled P (throw e : Procedure ε α) (throw e) Q :=
  fun _ base base' _ _ _ _ => .error base base' Q e _ _

/-- The same verdict is given on both sides. -/
theorem coupled_verdict {v : Except ε α} (h : ∀ {a s t}, v = .ok a → P s t → Q a s a t) :
    Coupled P (verdict v) (verdict v) Q := by
  cases v with
  | error e => exact coupled_throw e
  | ok a => exact coupled_pure (h rfl)

/-- Coupled parts make coupled sequences. -/
theorem coupled_bind {R : β → Store → β → Store → Prop} {p q : Procedure ε β}
    {f g : β → Procedure ε α} (hpq : Coupled P p q R)
    (hfg : ∀ a b, Coupled (fun s t => R a s b t) (f a) (g b) Q) :
    Coupled P (p >>= f) (q >>= g) Q := by
  intro faults base base' n s t hP
  rw [perform_bind, perform_bind]
  obtain ⟨e, db, db', hp, hq⟩ | ⟨a, b, s', t', m, hp, hq, hR⟩ := hpq faults base base' n s t hP
  · rw [hp, hq]
    exact .error base base' Q e db db'
  · rw [hp, hq]
    exact hfg a b faults base base' m s' t' hR

theorem coupled_map {R : β → Store → β → Store → Prop} {p q : Procedure ε β} {f : β → α}
    (hpq : Coupled P p q R) (hf : ∀ {a s b t}, R a s b t → Q (f a) s (f b) t) :
    Coupled P (f <$> p) (f <$> q) Q := by
  rw [map_eq_pure_bind, map_eq_pure_bind]
  exact coupled_bind hpq fun a b => coupled_pure hf

/-- Errors are worded alike on both sides. -/
theorem coupled_mapError {p q : Procedure ε α} (f : ε → ε') (hpq : Coupled P p q Q) :
    Coupled P (p.mapError f) (q.mapError f) Q := by
  intro faults base base' n s t hP
  rw [perform_mapError, perform_mapError]
  obtain ⟨e, db, db', hp, hq⟩ | ⟨a, b, s', t', m, hp, hq, hQ⟩ := hpq faults base base' n s t hP
  · rw [hp, hq]
    exact .error base base' Q (f e) db db'
  · rw [hp, hq]
    exact .ok m hQ

/-- What a call does, whether or not a transaction is open. -/
theorem perform_call_showing (kind : Call) (statement : Store → Except StoreError (α × Store))
    (faults : Faults) (base : Option Store) (n : ℕ) (s : Store) :
    (call kind statement).perform faults (.showing base s n) =
      match faults n kind with
      | some e => (.error e, .showing base s (n + 1))
      | none =>
        match statement s with
        | .ok (v, s') => (.ok v, .showing base s' (n + 1))
        | .error e => (.error e, .showing base s (n + 1)) := by
  cases base <;> rfl

/-- Calls are coupled where their statements agree. -/
theorem coupled_call {kind : Call} {statement : Store → Except StoreError (α × Store)}
    {statement' : Store → Except StoreError (α × Store)}
    (h : ∀ {s t}, P s t → Agrees Q (statement s) (statement' t)) :
    Coupled P (call kind statement) (call kind statement') Q := by
  intro faults base base' n s t hP
  rw [perform_call_showing, perform_call_showing]
  cases faults n kind with
  | some e => exact .error base base' Q e _ _
  | none =>
    obtain ⟨e, hs, ht⟩ | ⟨v, w, s', t', hs, ht, hQ⟩ := h hP <;> simp only [hs, ht]
    · exact .error base base' Q e _ _
    · exact .ok (n + 1) hQ

/-- Looks are coupled where they find related values, or the same error. -/
theorem coupled_look {kind : Call} {statement statement' : Store → Except StoreError α}
    (h : ∀ {s t}, P s t → (∃ e, statement s = .error e ∧ statement' t = .error e) ∨
      ∃ v w, statement s = .ok v ∧ statement' t = .ok w ∧ Q v s w t) :
    Coupled P (look kind statement) (look kind statement') Q := by
  refine coupled_call fun {s t} hP => ?_
  obtain ⟨e, hs, ht⟩ | ⟨v, w, hs, ht, hQ⟩ := h hP <;> rw [hs, ht]
  · exact .inl ⟨e, rfl, rfl⟩
  · exact .inr ⟨v, w, s, t, rfl, rfl, hQ⟩

/-- A lookup that answers the same on both sides has nothing else to say. -/
theorem coupled_look_same {kind : Call} {statement : Store → Except StoreError α}
    (h : ∀ {s t}, P s t → statement t = statement s) :
    Coupled P (look kind statement) (look kind statement)
      fun v s w t => v = w ∧ statement s = .ok v ∧ P s t := by
  refine coupled_look fun {s t} hP => ?_
  rcases hs : statement s with e | v
  · exact .inl ⟨e, rfl, (h hP).trans hs⟩
  · exact .inr ⟨v, v, rfl, (h hP).trans hs, rfl, rfl, hP⟩

/-- A precondition may be strengthened and a postcondition weakened. -/
theorem Coupled.consequence {P' : Store → Store → Prop} {Q' : α → Store → α → Store → Prop}
    {p q : Procedure ε α} (h : Coupled P' p q Q') (hP : ∀ {s t}, P s t → P' s t)
    (hQ : ∀ {v s w t}, Q' v s w t → Q v s w t) : Coupled P p q Q := by
  intro faults base base' n s t hs
  obtain hfail | ⟨v, w, s', t', m, hp, hq, hrelated⟩ := h faults base base' n s t (hP hs)
  · exact .inl hfail
  · exact .inr ⟨v, w, s', t', m, hp, hq, hQ hrelated⟩

/-- What a precondition says of anything but rows may be assumed. -/
theorem coupled_given {φ : Prop} {p q : Procedure ε α} (h : φ → Coupled P p q Q) :
    Coupled (fun s t => φ ∧ P s t) p q Q :=
  fun faults base base' n s t hP => h hP.1 faults base base' n s t hP.2

/-- **Transactions over coupled procedures match**, whatever fails. -/
theorem Coupled.transaction {failure : StoreError → ε} {p q : Procedure ε α}
    (h : Coupled P p q Q) {s t : Store} (hP : P s t) (faults : Faults) (n : ℕ) :
    Matches none none Q ((Procedure.transaction failure p).perform faults ⟨s, none, n⟩)
      ((Procedure.transaction failure q).perform faults ⟨t, none, n⟩) := by
  rw [perform_transaction, perform_transaction]
  cases faults n .begin with
  | some e => exact .error none none Q (failure e) _ _
  | none =>
    obtain ⟨e, db, db', hp, hq⟩ | ⟨v, w, s', t', m, hp, hq, hQ⟩ :=
      h faults (some s) (some t) (n + 1) s t hP <;>
      simp only [Database.showing] at hp hq <;> simp only [hp, hq]
    · exact .error none none Q e _ _
    · cases faults m .commit with
      | some e => exact .error none none Q (failure e) _ _
      | none => exact .ok (m + 1) hQ

end Procedure

end OAuthGateway

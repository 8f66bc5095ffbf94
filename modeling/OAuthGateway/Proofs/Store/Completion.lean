import OAuthGateway.Proofs.Store.Transaction

/-!
# Proofs/Store/Completion — transactions in which no call fails

What a transaction has written when it succeeds says nothing of whether one succeeds.  Here a
procedure `Completes` when, in a transaction whose calls are all answered, it does: from pending
rows with the precondition it comes to a value and rows with the postcondition.  There is one rule
for each way in which procedures are made; by `Completes.transaction` the whole transaction then
commits the rows that its body left pending.
-/

namespace OAuthGateway.Procedure

variable {ε ε' α β : Type} {P : Store → Prop} {Q : α → Store → Prop} {R : β → Store → Prop}

/-- In a transaction where every call is answered, the procedure succeeds, with a value and pending
rows as the postcondition says. -/
def Completes (P : Store → Prop) (p : Procedure ε α) (Q : α → Store → Prop) : Prop :=
  ∀ c s n, P s → ∃ a s' m, p.perform .none ⟨c, some s, n⟩ = (.ok a, ⟨c, some s', m⟩) ∧ Q a s'

theorem completes_pure {a : α} (h : ∀ {s}, P s → Q a s) :
    Completes P (pure a : Procedure ε α) Q :=
  fun _ s n hP => ⟨a, s, n, rfl, h hP⟩

theorem completes_bind {p : Procedure ε β} {f : β → Procedure ε α} (hp : Completes P p R)
    (hf : ∀ b, Completes (R b) (f b) Q) : Completes P (p >>= f) Q := by
  intro c s n hP
  obtain ⟨b, s₁, m, hrun, hR⟩ := hp c s n hP
  obtain ⟨a, s', k, hrun', hQ⟩ := hf b c s₁ m hR
  rw [perform_bind, hrun]
  exact ⟨a, s', k, hrun', hQ⟩

theorem completes_map {p : Procedure ε β} {f : β → α} (hp : Completes P p R)
    (hf : ∀ {b s}, R b s → Q (f b) s) : Completes P (f <$> p) Q := by
  rw [map_eq_pure_bind]
  exact completes_bind hp fun b => completes_pure hf

theorem completes_mapError {p : Procedure ε α} (f : ε → ε') (hp : Completes P p Q) :
    Completes P (p.mapError f) Q := by
  intro c s n hP
  obtain ⟨a, s', m, hrun, hQ⟩ := hp c s n hP
  rw [perform_mapError, hrun]
  exact ⟨a, s', m, rfl, hQ⟩

theorem completes_call {kind : Call} {statement : Store → Except StoreError (α × Store)}
    (h : ∀ {s}, P s → ∃ a s', statement s = .ok (a, s') ∧ Q a s') :
    Completes P (call kind statement) Q := by
  intro c s n hP
  obtain ⟨a, s', hstatement, hQ⟩ := h hP
  have hvisible : statement (Database.visible ⟨c, some s, n⟩) = .ok (a, s') := hstatement
  refine ⟨a, s', n + 1, ?_, hQ⟩
  simp only [perform_call, Faults.none, hvisible]
  rfl

theorem completes_look {kind : Call} {statement : Store → Except StoreError α}
    (h : ∀ {s}, P s → ∃ a, statement s = .ok a ∧ Q a s) : Completes P (look kind statement) Q := by
  refine completes_call fun {s} hP => ?_
  obtain ⟨a, hstatement, hQ⟩ := h hP
  exact ⟨a, s, by rw [hstatement]; rfl, hQ⟩

/-- **A transaction over a procedure that completes** commits what the procedure left pending. -/
theorem Completes.transaction {failure : StoreError → ε} {p : Procedure ε α}
    (h : Completes P p Q) {s : Store} (hP : P s) (n : ℕ) :
    ∃ a s' m, p.perform .none ⟨s, some s, n + 1⟩ = (.ok a, ⟨s, some s', m⟩) ∧
      (transaction failure p).perform .none ⟨s, none, n⟩ = (.ok a, ⟨s', none, m + 1⟩) := by
  obtain ⟨a, s', m, hrun, -⟩ := h s s (n + 1) hP
  refine ⟨a, s', m, hrun, ?_⟩
  simp only [perform_transaction, Faults.none] at hrun ⊢
  rw [hrun]
  rfl

end OAuthGateway.Procedure

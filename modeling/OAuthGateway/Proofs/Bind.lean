/-!
# Proofs/Bind — a sequence that succeeds, read backwards

If one step after another succeeds, each of them does.
-/

namespace OAuthGateway

theorem exists_of_bind_eq_ok {ε α β : Type} {x : Except ε α} {f : α → Except ε β} {b : β}
    (h : x >>= f = .ok b) : ∃ a, x = .ok a ∧ f a = .ok b := by
  cases x with
  | error e => cases h
  | ok a => exact ⟨a, rfl, h⟩

end OAuthGateway

import OAuthGateway.Text.Blank

/-!
# Scope — what a credential may be used for

A scope text is a list of words. Asking for a scope means asking for its words, and `missing` names
the words that were asked for and are not allowed: each once, in the order of the request.
-/

namespace OAuthGateway.Scope

/-- The words of a scope text, in order, with repetitions. -/
def words (scopes : String) : List String := (Text.words scopes.toList).map String.ofList

/-- The distinct words of a scope text, sorted by code point. -/
def tokens (scopes : String) : List String :=
  (words scopes).eraseDups.mergeSort fun a b => decide (a ≤ b)

/-- The requested words that are not allowed, each once, in the order of the request. -/
def missing (requested allowed : String) : List String :=
  ((words requested).filter fun w => !(words allowed).contains w).eraseDups

theorem mem_missing {w requested allowed : String} :
    w ∈ missing requested allowed ↔ w ∈ words requested ∧ w ∉ words allowed := by
  simp [missing]

/-- A scope text is granted when all its words are allowed. -/
def covers (allowed requested : String) : Prop := ∀ w ∈ words requested, w ∈ words allowed

theorem missing_eq_nil_iff {requested allowed : String} :
    missing requested allowed = [] ↔ covers allowed requested := by
  simp [List.eq_nil_iff_forall_not_mem, mem_missing, covers]

end OAuthGateway.Scope

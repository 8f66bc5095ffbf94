import Mathlib.Data.List.Basic

/-!
# Proofs/Text/Segments — the segments of a text between separators

Joined with the separator, the segments of a text are the text again, so segments tell all: a text
has those of another one at its front exactly if it is that text or goes on behind it with a
separator (`splitOn_prefix_iff`).
-/

namespace OAuthGateway.Text

variable {α : Type}

/-- Parts with separators between them: the first, and the others, each behind a separator. -/
theorem intercalate_cons_eq_flatMap (sep part : List α) (parts : List (List α)) :
    sep.intercalate (part :: parts) = part ++ parts.flatMap (sep ++ ·) := by
  induction parts generalizing part with
  | nil => simp
  | cons next parts ih => simp [List.intercalate_cons_cons, ih]

/-- **Segments at the front of a text** are those of a text that it is, or that it continues with a
separator. -/
theorem splitOn_prefix_iff [BEq α] [LawfulBEq α] {sep : α} {front cs : List α} :
    front.splitOn sep <+: cs.splitOn sep ↔
      ∃ rest, cs = front ++ rest ∧ (rest = [] ∨ rest.head? = some sep) := by
  constructor
  · rintro ⟨more, hmore⟩
    obtain ⟨part, parts, hparts⟩ := List.exists_cons_of_ne_nil (List.splitOn_ne_nil sep front)
    refine ⟨more.flatMap ([sep] ++ ·), ?_, ?_⟩
    · calc cs = [sep].intercalate (cs.splitOn sep) := (List.intercalate_splitOn sep).symm
        _ = [sep].intercalate (part :: (parts ++ more)) := by
          rw [← hmore, hparts, List.cons_append]
        _ = [sep].intercalate (part :: parts) ++ more.flatMap ([sep] ++ ·) := by
          rw [intercalate_cons_eq_flatMap, intercalate_cons_eq_flatMap, List.flatMap_append,
            List.append_assoc]
        _ = front ++ more.flatMap ([sep] ++ ·) := by rw [← hparts, List.intercalate_splitOn]
    · rcases more with _ | ⟨next, more⟩
      · exact .inl rfl
      · exact .inr rfl
  · rintro ⟨rest, rfl, rfl | hsep⟩
    · simp
    · obtain ⟨rest', rfl⟩ := List.head?_eq_some_iff.1 hsep
      rw [List.splitOn_append_cons_self]
      exact List.prefix_append _ _

end OAuthGateway.Text

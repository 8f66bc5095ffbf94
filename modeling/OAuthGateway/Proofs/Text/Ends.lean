import Mathlib.Data.List.DropRight
import OAuthGateway.Text.Blank

/-!
# Proofs/Text/Ends — a text without the end that is dropped

What is dropped from the end of a text is a run of the characters in question (`exists_dropped`); it
is all of the text if there are no others (`dropEndWhile_eq_nil_iff`), and nothing of it if it ends
in another one (`dropEndWhile_of_last`).  So trimming leaves what stands between blanks and has none
at its own ends (`trim_eq_iff`).
-/

namespace OAuthGateway.Text

variable {p : Char → Bool} {c : Char} {cs : List Char}

theorem dropEndWhile_append_rtakeWhile (p : Char → Bool) (cs : List Char) :
    dropEndWhile p cs ++ cs.rtakeWhile p = cs :=
  List.rdropWhile_append_rtakeWhile

/-- What is left of a text, and what was dropped, make the text. -/
theorem exists_dropped (p : Char → Bool) (cs : List Char) :
    ∃ dropped, cs = dropEndWhile p cs ++ dropped ∧ ∀ c ∈ dropped, p c = true :=
  ⟨cs.rtakeWhile p, (dropEndWhile_append_rtakeWhile p cs).symm,
    fun _ => List.mem_rtakeWhile_imp⟩

theorem dropEndWhile_isPrefix (p : Char → Bool) (cs : List Char) : dropEndWhile p cs <+: cs :=
  List.rdropWhile_prefix p cs

theorem dropEndWhile_eq_nil_iff : dropEndWhile p cs = [] ↔ ∀ c ∈ cs, p c = true :=
  List.rdropWhile_eq_nil_iff

/-- What is left does not end in a character that is dropped. -/
theorem not_of_getLast?_dropEndWhile (h : (dropEndWhile p cs).getLast? = some c) :
    ¬ p c = true := by
  have hnot := List.head?_dropWhile_not p cs.reverse
  rw [dropEndWhile, List.getLast?_reverse] at h
  rw [h] at hnot
  exact Bool.not_eq_true _ ▸ hnot

/-- What is dropped does not stay behind alone. -/
theorem dropEndWhile_ne_singleton (hc : p c = true) (cs : List Char) : dropEndWhile p cs ≠ [c] := by
  intro hkept
  exact not_of_getLast?_dropEndWhile (by rw [hkept, List.getLast?_singleton]) hc

/-- Nothing is dropped of a text that ends in a character that stays. -/
theorem dropEndWhile_of_last (h : ∀ c, cs.getLast? = some c → ¬ p c = true) :
    dropEndWhile p cs = cs :=
  List.rdropWhile_eq_self_iff.2 fun hne => h _ (List.getLast?_eq_some_getLast hne)

/-! ## Trimming -/

/-- No blank stands at either end. -/
structure Trimmed (cs : List Char) : Prop where
  start : ∀ c, cs.head? = some c → ¬ isBlank c = true
  stop : ∀ c, cs.getLast? = some c → ¬ isBlank c = true

theorem dropWhile_append_of_forall {front back : List Char} (hfront : ∀ c ∈ front, p c = true)
    (hback : ∀ c, back.head? = some c → ¬ p c = true) : (front ++ back).dropWhile p = back := by
  rw [List.dropWhile_append_of_pos hfront]
  cases back with
  | nil => rfl
  | cons c back => exact List.dropWhile_cons_of_neg (hback c rfl)

theorem dropEndWhile_append_of_forall {front back : List Char} (hback : ∀ c ∈ back, p c = true)
    (hfront : ∀ c, front.getLast? = some c → ¬ p c = true) :
    dropEndWhile p (front ++ back) = front := by
  rw [dropEndWhile, List.reverse_append, dropWhile_append_of_forall, List.reverse_reverse]
  · exact fun c hc => hback c (List.mem_reverse.1 hc)
  · rwa [List.head?_reverse]

theorem trimmed_trim (cs : List Char) : Trimmed (trim cs) where
  start c hc := by
    -- the first character left is the first one behind the blanks in front
    obtain ⟨rest, hrest⟩ := dropEndWhile_isPrefix isBlank (trimStart cs)
    have hfirst : (trimStart cs).head? = some c := by
      rw [← hrest, List.head?_append, ← trim, hc, Option.some_or]
    have hnot := List.head?_dropWhile_not isBlank cs
    rw [← trimStart, hfirst] at hnot
    exact Bool.not_eq_true _ ▸ hnot
  stop _ := not_of_getLast?_dropEndWhile

/-- **Trimming leaves what stands between blanks** and has none at its own ends. -/
theorem trim_eq_iff {t : List Char} (ht : t ≠ []) :
    trim cs = t ↔ Trimmed t ∧ ∃ before after, cs = before ++ (t ++ after) ∧
      (∀ c ∈ before, isBlank c = true) ∧ ∀ c ∈ after, isBlank c = true := by
  constructor
  · rintro rfl
    obtain ⟨after, hafter, hblank⟩ := exists_dropped isBlank (trimStart cs)
    refine ⟨trimmed_trim cs, cs.takeWhile isBlank, after, ?_, fun _ => List.mem_takeWhile_imp,
      hblank⟩
    rw [trim, ← hafter, trimStart, List.takeWhile_append_dropWhile]
  · rintro ⟨htrimmed, before, after, rfl, hbefore, hafter⟩
    have hstart : ∀ c, (t ++ after).head? = some c → ¬ isBlank c = true := fun c hc =>
      htrimmed.start c (by rwa [List.head?_append_of_ne_nil _ ht] at hc)
    rw [trim, trimStart, dropWhile_append_of_forall hbefore hstart,
      dropEndWhile_append_of_forall hafter htrimmed.stop]

end OAuthGateway.Text

import OAuthGateway.Proofs.Text.Words
import OAuthGateway.Scope

/-!
# Proofs/Scope/Missing — the words that are missing, in the order in which they were asked for

Of the words that are asked for, the ones that are not allowed are named at the place where they
occur first (`pairwise_missing`), so each once.  No other list is that (`missing_eq_iff`), which is
how the laws of `scope_difference` are come by.  What is allowed counts as a set of words
(`missing_congr`).
-/

namespace OAuthGateway.Scope

/-- What a list holds of a kind, each once, comes in the order of first occurrences. -/
theorem pairwise_eraseDups_filter {α : Type} [BEq α] [LawfulBEq α] (p : α → Bool) (l : List α) :
    (l.filter p).eraseDups.Pairwise fun a b => l.idxOf a < l.idxOf b := by
  induction l generalizing p with
  | nil => exact List.Pairwise.nil
  | cons first l ih =>
    -- behind a member that is not the first one, every place is one further on
    have hshift : ∀ {q : α → Bool}, (∀ a, q a = true → a ≠ first) →
        (l.filter q).eraseDups.Pairwise fun a b =>
          (first :: l).idxOf a < (first :: l).idxOf b := by
      intro q hq
      have hplace : ∀ a ∈ (l.filter q).eraseDups, (first :: l).idxOf a = l.idxOf a + 1 := by
        intro a ha
        exact List.idxOf_cons_ne _ (hq a (List.mem_filter.1 (List.mem_eraseDups.1 ha)).2).symm
      refine (ih q).imp_of_mem fun {a b} ha hb hlt => ?_
      rw [hplace a ha, hplace b hb]
      exact Nat.succ_lt_succ hlt
    by_cases hfirst : p first = true
    · rw [List.filter_cons_of_pos hfirst, List.eraseDups_cons, List.filter_filter,
        List.pairwise_cons]
      have hne : ∀ a, (!a == first && p a) = true → a ≠ first := by
        rintro a ha rfl
        simp at ha
      refine ⟨fun a ha => ?_, hshift hne⟩
      rw [List.idxOf_cons_self, List.idxOf_cons_ne _
        (hne a (List.mem_filter.1 (List.mem_eraseDups.1 ha)).2).symm]
      exact Nat.succ_pos _
    · rw [List.filter_cons_of_neg hfirst]
      refine hshift fun a ha hsame => ?_
      exact hfirst (hsame ▸ ha)

/-- What comes in the order of first occurrences comes once. -/
theorem nodup_of_pairwise_idxOf {α : Type} [BEq α] {l ms : List α}
    (h : ms.Pairwise fun a b => l.idxOf a < l.idxOf b) : ms.Nodup :=
  h.imp fun hlt hsame => absurd (hsame ▸ hlt) (Nat.lt_irrefl _)

/-- **Missing words come in the order of the request**, each where it occurs first. -/
theorem pairwise_missing (requested allowed : String) :
    (missing requested allowed).Pairwise fun v w =>
      (words requested).idxOf v < (words requested).idxOf w :=
  pairwise_eraseDups_filter _ _

/-- **What is allowed counts as a set**: its order, its repetitions and its blanks do not matter. -/
theorem missing_congr {allowed allowed' : String}
    (h : ∀ w, w ∈ words allowed' ↔ w ∈ words allowed) (requested : String) :
    missing requested allowed' = missing requested allowed := by
  rw [missing, missing]
  refine congrArg List.eraseDups (List.filter_congr fun w _ => ?_)
  rw [Bool.eq_iff_iff]
  simp [h w]

/-! ## Words of a text of scopes

A text of scopes stands for the set of its words; blanks, order and repetitions do not matter. -/

section Words

variable {scopes w : String} {ws : List String}

/-- The words that a text of scopes spells. -/
def Spells (scopes : String) (ws : List String) : Prop :=
  Text.Spells scopes.toList (ws.map String.toList)

/-- **The words of a text are those that it spells.** -/
theorem words_eq_iff : words scopes = ws ↔ Spells scopes ws := by
  rw [Spells, ← Text.words_eq_iff, words]
  constructor
  · rintro rfl
    simp [Function.comp_def]
  · intro h
    rw [h, List.map_map]
    simp [Function.comp_def]

theorem isWord_of_mem_words (h : w ∈ words scopes) : Text.IsWord w.toList := by
  obtain ⟨cs, hcs, rfl⟩ := List.mem_map.1 h
  rw [String.toList_ofList]
  exact Text.isWord_of_mem_words hcs

/-- Words are read back from the text that has blanks between them. -/
theorem words_intercalate (h : ∀ w ∈ ws, Text.IsWord w.toList) :
    words (" ".intercalate ws) = ws := by
  rw [words_eq_iff, Spells, ← Text.words_eq_iff, String.toList_intercalate]
  exact Text.words_intercalate (b := ' ') rfl (List.forall_mem_map.2 h)

theorem mem_tokens : w ∈ tokens scopes ↔ w ∈ words scopes := by
  rw [tokens, List.mem_mergeSort, List.mem_eraseDups]

theorem nodup_tokens (scopes : String) : (tokens scopes).Nodup := by
  have hdistinct : (words scopes).eraseDups.Nodup := by
    have h := pairwise_eraseDups_filter (fun _ => true) (words scopes)
    rw [List.filter_true] at h
    exact nodup_of_pairwise_idxOf h
  exact (List.mergeSort_perm _ _).nodup_iff.2 hdistinct

theorem sorted_tokens (scopes : String) : (tokens scopes).Pairwise (· ≤ ·) := by
  have htrans : ∀ a b c : String, decide (a ≤ b) = true → decide (b ≤ c) = true →
      decide (a ≤ c) = true := by
    simpa only [decide_eq_true_eq] using fun a b c => String.le_trans
  have htotal : ∀ a b : String, (decide (a ≤ b) || decide (b ≤ a)) = true := by
    simpa only [Bool.or_eq_true, decide_eq_true_eq] using String.le_total
  exact (List.pairwise_mergeSort htrans htotal (words scopes).eraseDups).imp of_decide_eq_true

/-- **Tokens are the words as a set.** -/
theorem tokens_eq_iff {scopes' : String} :
    tokens scopes = tokens scopes' ↔ ∀ w, w ∈ words scopes ↔ w ∈ words scopes' := by
  refine ⟨fun h w => by rw [← mem_tokens, h, mem_tokens], fun h => ?_⟩
  have hsame : (tokens scopes).Perm (tokens scopes') :=
    (List.perm_ext_iff_of_nodup (nodup_tokens _) (nodup_tokens _)).2 fun w => by
      rw [mem_tokens, h w, mem_tokens]
  exact hsame.eq_of_pairwise (fun _ _ _ _ => String.le_antisymm) (sorted_tokens _)
    (sorted_tokens _)

end Words

/-! ## The difference of two texts

What is missing is listed once each, in the order in which it was asked for. -/

theorem covers_refl (scopes : String) : covers scopes scopes := fun _ h => h

theorem covers.trans {a b c : String} (h : covers b a) (h' : covers c b) : covers c a :=
  fun w hw => h' w (h w hw)

/-- The list names what is requested and not allowed, in the order of the request. -/
structure Difference (requested allowed : String) (ms : List String) : Prop where
  mem_iff : ∀ w, w ∈ ms ↔ w ∈ words requested ∧ w ∉ words allowed
  /-- What is named before another is asked for before it. -/
  order : ms.Pairwise fun v w => (words requested).idxOf v < (words requested).idxOf w

section Difference

variable {requested allowed : String} {ms ms' : List String}

/-- Nothing is named twice. -/
theorem Difference.nodup (h : Difference requested allowed ms) : ms.Nodup :=
  nodup_of_pairwise_idxOf h.order

/-- **There is one such list.** -/
theorem Difference.unique (h : Difference requested allowed ms)
    (h' : Difference requested allowed ms') : ms = ms' := by
  have hsame : ms.Perm ms' :=
    (List.perm_ext_iff_of_nodup h.nodup h'.nodup).2 fun w =>
      (h.mem_iff w).trans (h'.mem_iff w).symm
  refine hsame.eq_of_pairwise (fun v w _ _ hlt hgt => ?_) h.order h'.order
  exact absurd hgt (Nat.lt_asymm hlt)

theorem difference_missing (requested allowed : String) :
    Difference requested allowed (missing requested allowed) :=
  ⟨fun _ => mem_missing, pairwise_missing requested allowed⟩

theorem missing_eq_iff : missing requested allowed = ms ↔ Difference requested allowed ms :=
  ⟨fun h => h ▸ difference_missing requested allowed,
    (difference_missing requested allowed).unique⟩

/-- What is missing is missing still when nothing else is asked for. -/
theorem missing_intercalate_missing (requested allowed : String) :
    missing (" ".intercalate (missing requested allowed)) allowed = missing requested allowed := by
  have hmissing := difference_missing requested allowed
  have hwords : words (" ".intercalate (missing requested allowed)) =
      missing requested allowed :=
    words_intercalate fun w hw => isWord_of_mem_words ((hmissing.mem_iff w).1 hw).1
  rw [missing_eq_iff]
  refine ⟨fun w => ?_, ?_⟩ <;> rw [hwords]
  · exact (and_iff_left_of_imp fun hw => ((hmissing.mem_iff w).1 hw).2).symm
  · rw [List.pairwise_iff_getElem]
    intro i j hi hj hlt
    rwa [hmissing.nodup.idxOf_getElem i hi, hmissing.nodup.idxOf_getElem j hj]

end Difference

/-- **The difference of two texts of scopes.**  The words of a text are what it spells between its
blanks.  What is missing is the one list of the requested words that are not allowed, each at the
place where it is first asked for.  There is nothing in it exactly if the tokens requested are among
those allowed, which is an order on texts; of what is allowed only the tokens matter; and asked for
alone, what is missing is missing. -/
theorem scope_difference (requested allowed : String) :
    (∀ ws, words requested = ws ↔ Spells requested ws) ∧
    (∀ ms, missing requested allowed = ms ↔ Difference requested allowed ms) ∧
    (missing requested allowed).Nodup ∧
    (missing requested allowed = [] ↔ tokens requested ⊆ tokens allowed) ∧
    (∀ allowed', tokens allowed' = tokens allowed →
      missing requested allowed' = missing requested allowed) ∧
    missing requested requested = [] ∧
    (∀ other, missing requested allowed = [] → missing allowed other = [] →
      missing requested other = []) ∧
    missing (" ".intercalate (missing requested allowed)) allowed = missing requested allowed := by
  refine ⟨fun _ => words_eq_iff, fun _ => missing_eq_iff, (difference_missing _ _).nodup, ?_,
    fun allowed' htokens => missing_congr (tokens_eq_iff.1 htokens) requested,
    missing_eq_nil_iff.2 (covers_refl requested), fun other h h' => ?_,
    missing_intercalate_missing requested allowed⟩
  · simp only [missing_eq_nil_iff, covers, List.subset_def, mem_tokens]
  · rw [missing_eq_nil_iff] at h h' ⊢
    exact h.trans h'

/-- The blanks of a request may be any, and a word that is asked for twice is named once; two texts
with the same tokens allow the same. -/
theorem scope_difference_blanks :
    missing "write\u2003audit\tadmin audit" "read write" = ["audit", "admin"] ∧
    missing "write\u2003audit\tadmin audit" " write  read\nwrite" =
      missing "write\u2003audit\tadmin audit" "read write" ∧
    missing "write" "  read" = ["write"] ∧ missing "write" "\u00A0write" = [] ∧
    missing "write" "read write" = [] := by
  refine ⟨by decide +kernel, ?_, by decide +kernel, by decide +kernel, ?_⟩
  · refine (scope_difference _ "read write").2.2.2.2.1 _ (tokens_eq_iff.2 fun w => ?_)
    have hwords : words " write  read\nwrite" = ["write", "read", "write"] ∧
        words "read write" = ["read", "write"] := by decide +kernel
    simp only [hwords, List.mem_cons, List.not_mem_nil, or_false]
    tauto
  · exact (scope_difference "write" "\u00A0write").2.2.2.2.2.2.1 "read write" (by decide +kernel)
      (by decide +kernel)

end OAuthGateway.Scope

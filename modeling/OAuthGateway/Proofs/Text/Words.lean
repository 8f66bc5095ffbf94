import Mathlib.Data.List.Basic
import OAuthGateway.Text.Blank

/-!
# Proofs/Text/Words — what the words of a text are

A text `Spells` its words: each runs from where the last one ended, past some blanks, to the next
blank or to the end.  That is a rule for reading a text which does not split it, and `words` reads
by it (`words_eq_iff`), so a text spells one list of words.  The engine is `words_append_cons`: a
blank parts a text into two, each with its own words.
-/

namespace OAuthGateway.Text

variable {b c : Char} {w cs ds : List Char} {ws : List (List Char)}

/-- A word: there are characters, and none of them is blank. -/
structure IsWord (w : List Char) : Prop where
  nonempty : w ≠ []
  solid : ∀ c ∈ w, ¬ isBlank c = true

/-- The words that a text spells: a blank is passed over, and a word ends at a blank or with the
text. -/
inductive Spells : List Char → List (List Char) → Prop
  | nil : Spells [] []
  | blank {b : Char} {cs : List Char} {ws : List (List Char)} :
      isBlank b = true → Spells cs ws → Spells (b :: cs) ws
  | word {w cs : List Char} {ws : List (List Char)} : IsWord w →
      (∀ c, cs.head? = some c → isBlank c = true) → Spells cs ws → Spells (w ++ cs) (w :: ws)

/-! ## Splitting at blanks -/

theorem words_nil : words [] = [] := by simp [words]

/-- **A blank parts the words** in front of it from those behind. -/
theorem words_append_cons (hb : isBlank b = true) (cs ds : List Char) :
    words (cs ++ b :: ds) = words cs ++ words ds := by
  rw [words, List.splitOnP_append_cons cs ds hb, List.filter_append]
  rfl

theorem words_cons_blank (hb : isBlank b = true) (cs : List Char) : words (b :: cs) = words cs :=
  words_append_cons hb [] cs

/-- A word that stands alone is all there is. -/
theorem IsWord.words_eq (hw : IsWord w) : words w = [w] := by
  have hsingle : w.splitOnP isBlank = [w] :=
    List.splitOnP_eq_singleton fun c hc => Bool.not_eq_true _ ▸ hw.solid c hc
  rw [words, hsingle, List.filter_cons_of_pos (by simpa using hw.nonempty), List.filter_nil]

/-- A word in front of a blank, or of nothing, is the first. -/
theorem IsWord.words_append (hw : IsWord w) (hend : ∀ c, cs.head? = some c → isBlank c = true) :
    words (w ++ cs) = w :: words cs := by
  cases cs with
  | nil => rw [List.append_nil, hw.words_eq, words_nil]
  | cons c cs =>
    have hc := hend c rfl
    rw [words_append_cons hc, hw.words_eq, words_cons_blank hc, List.singleton_append]

/-! ## Reading by the rule -/

theorem Spells.words_eq (h : Spells cs ws) : words cs = ws := by
  induction h with
  | nil => exact words_nil
  | blank hb _ ih => rw [words_cons_blank hb, ih]
  | word hw hend _ ih => rw [hw.words_append hend, ih]

theorem isWord_singleton (hc : ¬ isBlank c = true) : IsWord [c] :=
  ⟨List.cons_ne_nil _ _, fun _ hmem => List.mem_singleton.1 hmem ▸ hc⟩

theorem IsWord.cons (hc : ¬ isBlank c = true) (hw : IsWord w) : IsWord (c :: w) :=
  ⟨List.cons_ne_nil _ _, List.forall_mem_cons.2 ⟨hc, hw.solid⟩⟩

/-- Every text spells words: the rule never gets stuck. -/
theorem exists_spells (cs : List Char) : ∃ ws, Spells cs ws := by
  induction cs with
  | nil => exact ⟨[], .nil⟩
  | cons c cs ih =>
    obtain ⟨ws, hws⟩ := ih
    by_cases hc : isBlank c = true
    · exact ⟨ws, .blank hc hws⟩
    -- a character that is not blank starts a word, or is put in front of the one that follows
    · cases hws with
      | nil => exact ⟨_, .word (isWord_singleton hc) nofun .nil⟩
      | blank hb hrest =>
        refine ⟨_, .word (isWord_singleton hc) (fun d hd => ?_) (.blank hb hrest)⟩
        exact Option.some.inj hd ▸ hb
      | word hw hend hrest => exact ⟨_, .word (hw.cons hc) hend hrest⟩

/-- **The words of a text are those that it spells.** -/
theorem words_eq_iff : words cs = ws ↔ Spells cs ws := by
  refine ⟨fun h => ?_, Spells.words_eq⟩
  obtain ⟨ws', hws'⟩ := exists_spells cs
  rwa [← h, hws'.words_eq]

/-- No word is empty, and none holds a blank. -/
theorem isWord_of_mem_words (h : w ∈ words cs) : IsWord w := by
  have hspells : Spells cs (words cs) := words_eq_iff.1 rfl
  generalize words cs = ws at h hspells
  induction hspells with
  | nil => cases h
  | blank _ _ ih => exact ih h
  | word hw _ _ ih =>
    rcases List.mem_cons.1 h with rfl | h
    · exact hw
    · exact ih h

/-- **Words are read back** from the text that has one blank between them. -/
theorem words_intercalate (hb : isBlank b = true) (h : ∀ w ∈ ws, IsWord w) :
    words ([b].intercalate ws) = ws := by
  induction ws with
  | nil => exact words_nil
  | cons w ws ih =>
    obtain ⟨hw, hws⟩ := List.forall_mem_cons.1 h
    cases ws with
    | nil => rw [List.intercalate_singleton, hw.words_eq]
    | cons w' ws =>
      rw [List.intercalate_cons_cons, List.append_assoc, List.singleton_append,
        words_append_cons hb, hw.words_eq, ih hws, List.singleton_append]

end OAuthGateway.Text

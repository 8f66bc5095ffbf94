/-!
# Text/Parts — cutting a text

`after?` takes a beginning off a text, `cut?` splits a text at the first occurrence of a character.
Both say exactly what is left: the parts and the text determine each other (`after?_eq_some_iff`,
`cut?_eq_some_iff`).
-/

namespace OAuthGateway.Text

/-- The rest of a text that starts with `start`. -/
def after? (start : List Char) (cs : List Char) : Option (List Char) :=
  match start, cs with
  | [], cs => some cs
  | _ :: _, [] => none
  | s :: start, c :: cs => if s = c then after? start cs else none

theorem after?_eq_some_iff {start cs rest : List Char} :
    after? start cs = some rest ↔ cs = start ++ rest := by
  induction start generalizing cs with
  | nil => simp [after?]
  | cons s start ih =>
    cases cs with
    | nil => simp [after?]
    | cons c cs =>
      by_cases h : s = c
      · simp [after?, h, ih]
      · simp [after?, h, Ne.symm h]

/-- What stands before and after the first occurrence of a character. -/
def cut? (mark : Char) : List Char → Option (List Char × List Char)
  | [] => none
  | c :: cs =>
    if c = mark then some ([], cs) else (cut? mark cs).map fun (front, back) => (c :: front, back)

theorem cut?_eq_some_iff {mark : Char} {cs front back : List Char} :
    cut? mark cs = some (front, back) ↔ cs = front ++ mark :: back ∧ mark ∉ front := by
  induction cs generalizing front with
  | nil => simp [cut?]
  | cons c cs ih =>
    by_cases h : c = mark
    · subst h
      cases front with
      | nil => simp [cut?]
      | cons f front =>
        simp only [cut?, if_true, Option.some.injEq, Prod.mk.injEq, List.cons_append,
          List.cons.injEq, List.mem_cons, not_or]
        constructor
        · rintro ⟨h, -⟩
          exact absurd h (by simp)
        · rintro ⟨⟨h, -⟩, hne, -⟩
          exact absurd h hne
    · cases front with
      | nil => simp [cut?, h]
      | cons f front =>
        simp only [cut?, h, if_false, Option.map_eq_some_iff, Prod.exists, Prod.mk.injEq,
          List.cons.injEq, List.cons_append, List.mem_cons, not_or]
        constructor
        · rintro ⟨front', back', hcut, ⟨rfl, rfl⟩, rfl⟩
          obtain ⟨rfl, hmem⟩ := ih.1 hcut
          exact ⟨⟨rfl, rfl⟩, Ne.symm h, hmem⟩
        · rintro ⟨⟨rfl, rfl⟩, -, hmem⟩
          exact ⟨front, back, ih.2 ⟨rfl, hmem⟩, ⟨rfl, rfl⟩, rfl⟩

end OAuthGateway.Text

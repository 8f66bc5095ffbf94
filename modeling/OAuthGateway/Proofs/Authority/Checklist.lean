import OAuthGateway.Authority.Rules
import OAuthGateway.Proofs.Store.Transaction

/-!
# Proofs/Authority/Checklist — conditions in the order in which they are checked

A checklist names conditions in an order, each with the complaint where it does not hold.  A verdict
`Decides` it when it is favourable exactly if all conditions hold, and otherwise refuses with the
complaint of the first that does not; a procedure `Screens` rows by it when that is what it answers
where no call fails, and it leaves the rows.  One check after another decides the one list and then
the other (`decides_bind`, `screens_bind`), so the order of the conditions is read off from the
order in which they are checked.  What comes of screened rows in the end is said once, for any
checks (`Screens.settles`).
-/

namespace OAuthGateway

open Procedure

/-- A condition, and what is said where it does not hold. -/
structure Condition where
  holds : Prop
  complaint : Complaint

namespace Checklist

/-- All conditions hold. -/
def Passes (l : List Condition) : Prop := ∀ c ∈ l, c.holds

/-- The complaint is that of the first condition that does not hold. -/
def FailsWith (l : List Condition) (complaint : Complaint) : Prop :=
  ∃ before c after, l = before ++ c :: after ∧ Passes before ∧ ¬ c.holds ∧ c.complaint = complaint

variable {l l' : List Condition} {c : Condition} {complaint : Complaint}

theorem passes_nil : Passes [] := List.forall_mem_nil _

theorem passes_singleton : Passes [c] ↔ c.holds := List.forall_mem_singleton

theorem passes_cons : Passes (c :: l) ↔ c.holds ∧ Passes l := List.forall_mem_cons

theorem passes_append : Passes (l ++ l') ↔ Passes l ∧ Passes l' := List.forall_mem_append

/-- A list with a complaint does not pass. -/
theorem FailsWith.not_passes (h : FailsWith l complaint) : ¬ Passes l := by
  obtain ⟨before, c, after, rfl, -, hc, -⟩ := h
  exact fun hpasses => hc (hpasses c (List.mem_append_right _ List.mem_cons_self))

/-- The first complaint is not changed by later conditions. -/
theorem FailsWith.append (h : FailsWith l complaint) (l' : List Condition) :
    FailsWith (l ++ l') complaint := by
  obtain ⟨before, c, after, rfl, hbefore, hc, rfl⟩ := h
  exact ⟨before, c, after ++ l', List.append_assoc .., hbefore, hc, rfl⟩

/-- Conditions that hold do not change what is complained of behind them. -/
theorem Passes.append_failsWith (hl : Passes l) (h : FailsWith l' complaint) :
    FailsWith (l ++ l') complaint := by
  obtain ⟨before, c, after, rfl, hbefore, hc, rfl⟩ := h
  exact ⟨l ++ before, c, after, (List.append_assoc ..).symm, passes_append.2 ⟨hl, hbefore⟩, hc, rfl⟩

theorem failsWith_cons_of_not (h : ¬ c.holds) : FailsWith (c :: l) c.complaint :=
  ⟨[], c, l, rfl, passes_nil, h, rfl⟩

/-- **There is one complaint to make**: only one condition is the first that does not hold. -/
theorem FailsWith.unique {complaint' : Complaint} (h : FailsWith l complaint)
    (h' : FailsWith l complaint') : complaint' = complaint := by
  obtain ⟨before, c, after, rfl, hbefore, hc, rfl⟩ := h
  obtain ⟨before', c', after', hsplit, hbefore', hc', rfl⟩ := h'
  rcases List.append_eq_append_iff.1 hsplit with ⟨between, hlong, hrest⟩ | ⟨between, hlong, hrest⟩
  · rcases between with _ | ⟨d, between⟩
    · rw [(List.cons.inj hrest).1]
    · obtain rfl := (List.cons.inj hrest).1
      exact absurd (hbefore' c (hlong ▸ List.mem_append_right _ List.mem_cons_self)) hc
  · rcases between with _ | ⟨d, between⟩
    · rw [(List.cons.inj hrest).1]
    · obtain rfl := (List.cons.inj hrest).1
      exact absurd (hbefore c' (hlong ▸ List.mem_append_right _ List.mem_cons_self)) hc'

end Checklist

open Checklist

/-! ## Verdicts

A verdict is decided by a list, and what it gives is known; in a sequence the lists are put
together. -/

section Decides

variable {α β : Type} {l l' : List Condition} {P : Prop} {Q : α → Prop} {R : β → Prop}

/-- All conditions hold, and what is answered has the property; or the refusal complains of the
first condition that does not hold. -/
def Decides (l : List Condition) (Q : α → Prop) : Except Refusal α → Prop
  | .ok a => Passes l ∧ Q a
  | .error e => FailsWith l e.complaint

/-- Conditions that hold may be put in front. -/
theorem Decides.after {v : Except Refusal α} (hl : Passes l) (h : Decides l' Q v) :
    Decides (l ++ l') Q v := by
  rcases v with e | a
  · exact hl.append_failsWith h
  · exact ⟨passes_append.2 ⟨hl, h.1⟩, h.2⟩

theorem decides_pure {a : α} (h : Q a) : Decides [] Q (.ok a) := ⟨passes_nil, h⟩

/-- **One verdict after another decides the one list and then the other.** -/
theorem decides_bind {x : Except Refusal β} {f : β → Except Refusal α} (hx : Decides l R x)
    (hf : ∀ b, R b → Decides l' Q (f b)) : Decides (l ++ l') Q (x >>= f) := by
  rcases x with e | b
  · exact FailsWith.append hx l'
  · exact (hf b hx.2).after hx.1

/-- A verdict decides the same list when what it gives is not looked at. -/
theorem decides_discard {x : Except Refusal β} (h : Decides l R x) :
    Decides l (fun _ => ∃ b, R b) (discard x) := by
  rcases x with e | b
  · exact h
  · exact ⟨h.1, b, h.2⟩

/-- Going on only where a condition does not fail checks the condition first. -/
theorem decides_unless {fails : Prop} [Decidable fails] {e : Refusal} {v : Except Refusal α}
    (hP : fails ↔ ¬ P) (h : P → Decides l Q v) :
    Decides (⟨P, e.complaint⟩ :: l) Q (if fails then .error e else v) := by
  by_cases hfails : fails
  · rw [if_pos hfails]
    exact failsWith_cons_of_not (c := ⟨P, e.complaint⟩) (hP.1 hfails)
  · have hholds : P := not_not.1 fun hnot => hfails (hP.2 hnot)
    rw [if_neg hfails]
    exact (h hholds).after (passes_singleton.2 hholds)

/-- A field is there, and not empty. -/
def Given (value : Option String) : Prop := ∃ v, value = some v ∧ v ≠ ""

/-- A field that is required has to be there and not be empty. -/
theorem decides_required (value : Option String) (field : String) :
    Decides [⟨Given value, .validation (field ++ " is required")⟩]
      (fun v => value = some v ∧ v ≠ "") (required value field) := by
  by_cases hgiven : Given value
  · obtain ⟨v, hv⟩ := hgiven
    rw [required_eq_ok_iff.2 hv]
    exact ⟨passes_singleton.2 ⟨v, hv⟩, hv⟩
  · have hmissing : required value field = .error (.missing field) := by
      rcases value with _ | v
      · rfl
      · exact if_pos (not_not.1 fun hne => hgiven ⟨v, rfl, hne⟩)
    rw [hmissing]
    exact failsWith_cons_of_not (c := ⟨Given value, _⟩) hgiven

end Decides

/-! ## Procedures

A procedure that only looks at rows gives a verdict on them, where no call fails. -/

namespace Procedure

variable {α β : Type} {l l' : List Condition} {Q : α → Prop} {R : β → Prop} {s : Store}

/-- Where no call fails, the answer decides the checklist, and the rows are left as they were. -/
def Screens (s : Store) (l : List Condition) (Q : α → Prop) (p : Procedure Refusal α) : Prop :=
  ∀ n, ∃ v m, p.perform .none ⟨s, none, n⟩ = (v, ⟨s, none, m⟩) ∧ Decides l Q v

/-- A verdict screens by the list that it decides. -/
theorem screens_verdict {v : Except Refusal α} (h : Decides l Q v) : Screens s l Q (verdict v) :=
  fun n => ⟨v, n, rfl, h⟩

theorem screens_pure {a : α} (h : Q a) : Screens s [] Q (pure a) :=
  screens_verdict (decides_pure h)

/-- **One check after another screens by the one list and then by the other.** -/
theorem screens_bind {p : Procedure Refusal β} {f : β → Procedure Refusal α} (hp : Screens s l R p)
    (hf : ∀ b, R b → Screens s l' Q (f b)) : Screens s (l ++ l') Q (p >>= f) := by
  intro n
  obtain ⟨v, m, hrun, hv⟩ := hp n
  rw [perform_bind, hrun]
  rcases v with e | b
  · exact ⟨.error e, m, rfl, FailsWith.append hv l'⟩
  · obtain ⟨w, k, hrun', hw⟩ := hf b hv.2 m
    exact ⟨w, k, hrun', hw.after hv.1⟩

/-- Conditions that hold may be put in front. -/
theorem Screens.after {p : Procedure Refusal α} (hl : Passes l) (h : Screens s l' Q p) :
    Screens s (l ++ l') Q p := by
  intro n
  obtain ⟨v, m, hrun, hv⟩ := h n
  exact ⟨v, m, hrun, hv.after hl⟩

/-- A lookup checks that there is a row to be found. -/
theorem screens_lookup {kind : Call} {statement : Store → Except StoreError α}
    {operation : Operation} {entity : Entity} (hfound : ∀ a, statement s = .ok a ↔ Q a)
    (hmissing : ∀ e, statement s = .error e → e = .notFound) :
    Screens s [⟨∃ a, Q a, .notFound entity.name⟩] Q
      ((look kind statement).mapError (Refusal.ofLookup operation entity)) := by
  intro n
  have hvisible : statement (Database.visible ⟨s, none, n⟩) = statement s := rfl
  rw [perform_mapError, perform_look, hvisible]
  refine ⟨_, n + 1, rfl, ?_⟩
  rcases hstatement : statement s with e | a
  · rw [hmissing e hstatement]
    refine failsWith_cons_of_not (c := ⟨∃ a, Q a, .notFound entity.name⟩) ?_
    rintro ⟨a, ha⟩
    rw [(hfound a).2 ha] at hstatement
    cases hstatement
  · have ha : Q a := (hfound a).1 hstatement
    exact ⟨passes_singleton.2 ⟨a, ha⟩, ha⟩

/-- A lookup that finds its row checks nothing. -/
theorem screens_lookup_found {kind : Call} {statement : Store → Except StoreError α}
    {f : StoreError → Refusal} {a : α} (hfound : statement s = .ok a) :
    Screens s [] (· = a) ((look kind statement).mapError f) :=
  fun n => ⟨.ok a, n + 1, perform_lookup rfl hfound, decides_pure rfl⟩

/-- **What screened rows come to.**  Let what the checks find be one thing, and what is done with it
complete.  Then there is an answer exactly if there is such a thing, and it is the one that this
leads to; otherwise the complaint is about the first condition that does not hold, and the rows are
left as they were. -/
theorem Screens.settles {ι : Type} {E : ι → Prop} {found : ι → β} {answer : ι → α}
    {after : ι → Store} {p : Procedure Refusal β} {f : β → Procedure Refusal α}
    (hp : Screens s l (fun b => ∃ i, b = found i ∧ E i) p) (hpasses : ∀ i, E i → Passes l)
    (hunique : ∀ i j, E i → E j → j = i)
    (hdone : ∀ i, E i → ∀ m, ∃ k, (f (found i)).perform .none ⟨s, none, m⟩ =
      (.ok (answer i), ⟨after i, none, k⟩)) (n : ℕ) :
    let run := (p >>= f).perform .none ⟨s, none, n⟩
    ((∃ v, run.1 = .ok v) ↔ ∃ i, E i) ∧
      (∀ i, E i → run.1 = .ok (answer i) ∧ run.2.committed = after i ∧ run.2.pending = none) ∧
      ∀ e, run.1 = .error e →
        FailsWith l e.complaint ∧ run.2.committed = s ∧ run.2.pending = none := by
  intro run
  obtain ⟨v, m, hrun, hv⟩ := hp n
  rcases v with e | b
  · have hrun : run = (.error e, ⟨s, none, m⟩) := (perform_bind ..).trans (by rw [hrun])
    have hnone : ∀ i, ¬ E i := fun i hi => FailsWith.not_passes hv (hpasses i hi)
    rw [hrun]
    refine ⟨⟨?_, fun ⟨i, hi⟩ => absurd hi (hnone i)⟩, fun i hi => absurd hi (hnone i), ?_⟩
    · rintro ⟨v, ⟨⟩⟩
    · rintro _ ⟨⟩
      exact ⟨hv, rfl, rfl⟩
  · have hrun : run = (f b).perform .none ⟨s, none, m⟩ := (perform_bind ..).trans (by rw [hrun])
    obtain ⟨-, i, rfl, hi⟩ := hv
    obtain ⟨k, hgoes⟩ := hdone i hi m
    rw [hrun, hgoes]
    refine ⟨⟨fun _ => ⟨i, hi⟩, fun _ => ⟨_, rfl⟩⟩, fun j hj => ?_, nofun⟩
    rw [hunique i j hi hj]
    exact ⟨rfl, rfl, rfl⟩

end Procedure

end OAuthGateway

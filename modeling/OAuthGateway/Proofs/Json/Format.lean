import Mathlib.Data.List.Forall2
import OAuthGateway.Json.Record
import OAuthGateway.Proofs.Bind
import OAuthGateway.Proofs.Json.Build
import OAuthGateway.Proofs.Text.Segments
import OAuthGateway.Proofs.Time.Rfc3339

/-!
# Proofs/Json/Format — what a format writes, it reads back

A format `Keeps` a value if what it writes of it is read back: from the tokens, whatever comes
after, and from the structured data.  It is `Lossless` if everything it reads is kept.  The formats
of texts and instants keep everything, that of integers what a word holds; an optional format and a
list keep what the format of their parts keeps.
-/

namespace OAuthGateway.Json

open Text

/-! ## Tokens of a value, seen from the front -/

/-- No value begins with a closing bracket, and only null with `null`. -/
theorem exists_tokens_eq_cons (v : Value) : ∃ t ts, v.tokens = t :: ts ∧ t ≠ .closeBracket ∧
    (v ≠ .null → t ≠ .null) := by
  cases v <;> simp [Value.tokens]

theorem itemTokens_eq_map (vs : List Value) : itemTokens vs = vs.map Value.tokens := by
  induction vs with
  | nil => rfl
  | cons v vs ih => rw [itemTokens, ih, List.map_cons]

theorem fieldTokens_eq_map (fs : List (String × Value)) :
    fieldTokens fs = fs.map fun f => .text (some f.1) :: .colon :: f.2.tokens := by
  induction fs with
  | nil => rfl
  | cons f fs ih => rw [fieldTokens, ih, List.map_cons]

/-- Items of at least one token each are no more than their tokens. -/
theorem length_le_flatMap {α : Type} {g : α → List Token} (h : ∀ a, g a ≠ []) (as : List α) :
    as.length ≤ (as.flatMap g).length := by
  induction as with
  | nil => simp
  | cons a as ih =>
    have := List.length_pos_iff.2 (h a)
    simp only [List.flatMap_cons, List.length_append, List.length_cons]
    omega

namespace Format

variable {α : Type} {depth : Nat}

/-- What the format writes of a value is read back. -/
structure Keeps (depth : Nat) (f : Format α) (a : α) (v : Value) : Prop where
  written : f.toValue a = some v
  read : ∀ rest, f.read (v.tokens ++ rest) = .ok (a, rest)
  taken : f.ofValue? v = some a
  readable : v.Readable depth
  ne_null : v ≠ .null

/-- Everything that is read is kept. -/
structure Lossless (depth : Nat) (f : Format α) : Prop where
  read : ∀ {ts a rest}, f.read ts = .ok (a, rest) → ∃ v, f.Keeps depth a v
  taken : ∀ {v a}, f.ofValue? v = some a → ∃ v', f.Keeps depth a v'

/-! ## Texts, integers, instants, names -/

/-- Every text is kept. -/
theorem keeps_text (s : String) : text.Keeps depth s (.text s) where
  written := rfl
  read _ := rfl
  taken := rfl
  readable := by simp [Value.Readable]
  ne_null := nofun

theorem lossless_text : text.Lossless depth :=
  ⟨fun _ => ⟨_, keeps_text _⟩, fun _ => ⟨_, keeps_text _⟩⟩

/-- An integer is kept if a word holds it. -/
theorem keeps_integer {i : Int} (h : fitsWord i = true) : integer.Keeps depth i (.int i) := by
  have hbounds : wordMin ≤ i ∧ i < wordSize := by
    simp only [fitsWord, Bool.and_eq_true, decide_eq_true_eq] at h
    have hmax : i ≤ 9223372036854775807 := h.2
    exact ⟨h.1, by simp only [wordSize]; omega⟩
  have hdenoted : Number.ofText? (Number.integer i).render = some (.integer i) :=
    ofText?_integer hbounds.1 hbounds.2
  refine ⟨rfl, fun rest => ?_, if_pos h, ?_, nofun⟩
  · rw [Value.int, Value.tokens, hdenoted]
    exact if_pos h
  · rw [Value.int, Value.Readable]
    exact hdenoted

/-- An integer that was read is held by a word. -/
theorem lossless_integer : integer.Lossless depth where
  read := by
    intro ts i rest h
    simp only [integer] at h
    split at h
    · split at h
      · cases h
        exact ⟨_, keeps_integer ‹_›⟩
      · cases h
    · cases h
  taken := by
    intro v i h
    simp only [integer] at h
    split at h
    · split at h
      · cases h
        exact ⟨_, keeps_integer ‹_›⟩
      · cases h
    · cases h

/-- Every instant is kept, because it is read back from its timestamp. -/
theorem keeps_instant (t : Time.Instant) :
    instant.Keeps depth t (.text (Time.Rfc3339.write t)) := by
  refine ⟨rfl, fun rest => ?_, Time.Rfc3339.read?_write t, by simp [Value.Readable], nofun⟩
  simp [instant, Value.tokens, Time.Rfc3339.read?_write]

theorem lossless_instant : instant.Lossless depth :=
  ⟨fun _ => ⟨_, keeps_instant _⟩, fun _ => ⟨_, keeps_instant _⟩⟩

section Named

variable {ofName? : String → Option α} {name : α → String}

/-- A choice is kept if it is found by its name. -/
theorem keeps_named (h : ∀ a, ofName? (name a) = some a) (a : α) :
    (named ofName? name).Keeps depth a (.text (name a)) := by
  refine ⟨rfl, fun rest => ?_, h a, by simp [Value.Readable], nofun⟩
  simp [named, Value.tokens, h]

theorem lossless_named (h : ∀ a, ofName? (name a) = some a) :
    (named ofName? name).Lossless depth :=
  ⟨fun _ => ⟨_, keeps_named h _⟩, fun _ => ⟨_, keeps_named h _⟩⟩

end Named

/-! ## Values that may be null

What is absent is written as no value, and read from null. -/

section Optional

variable {f : Format α} {a : α} {v : Value}

/-- A value that is there is kept as by its own format. -/
theorem Keeps.optional (h : f.Keeps depth a v) : f.optional.Keeps depth (some a) v := by
  refine ⟨h.written, fun rest => ?_, ?_, h.readable, h.ne_null⟩
  · obtain ⟨t, ts, htokens, -, hnull⟩ := exists_tokens_eq_cons v
    have hread := h.read rest
    rw [htokens, List.cons_append] at hread ⊢
    simp only [Format.optional]
    split
    · exact absurd (List.cons.inj ‹_›).1 (hnull h.ne_null)
    · rw [hread]
      rfl
  · simp only [Format.optional]
    split
    · exact absurd rfl h.ne_null
    · rw [h.taken]
      rfl

/-- A value that is read is absent, or it is kept. -/
theorem Lossless.optional_read (h : f.Lossless depth) {ts rest : List Token} {b : Option α}
    (hread : f.optional.read ts = .ok (b, rest)) :
    b = none ∨ ∃ v, f.optional.Keeps depth b v := by
  simp only [Format.optional] at hread
  split at hread
  · cases hread
    exact .inl rfl
  · obtain ⟨⟨a, rest'⟩, hvalue, hsome⟩ := exists_of_bind_eq_ok hread
    cases hsome
    obtain ⟨v, hv⟩ := h.read hvalue
    exact .inr ⟨v, hv.optional⟩

/-- What was taken from a value is absent, or is kept. -/
theorem Lossless.optional_taken (h : f.Lossless depth) {v : Value} {b : Option α}
    (htaken : f.optional.ofValue? v = some b) :
    b = none ∨ ∃ v', f.optional.Keeps depth b v' := by
  simp only [Format.optional] at htaken
  split at htaken
  · cases htaken
    exact .inl rfl
  · obtain ⟨a, hvalue, hsome⟩ := Option.map_eq_some_iff.1 htaken
    cases hsome
    obtain ⟨v', hv'⟩ := h.taken hvalue
    exact .inr ⟨v', hv'.optional⟩

end Optional

/-! ## Lists

A list is kept if its items are, one level of nesting deeper. -/

section List

variable {f : Format α} {as : List α} {vs : List Value}

theorem filterMap_toValue (h : List.Forall₂ (f.Keeps depth) as vs) :
    as.filterMap f.toValue = vs := by
  induction h with
  | nil => rfl
  | cons h _ ih => rw [List.filterMap_cons_some h.written, ih]

/-- The items of a list are taken from their values, in order. -/
theorem mapM_ofValue? (h : List.Forall₂ (f.Keeps depth) as vs) : vs.mapM f.ofValue? = some as := by
  induction h with
  | nil => rfl
  | cons h _ ih => simp [List.mapM_cons, h.taken, ih]

/-- The values of items that are kept can be read. -/
theorem itemsReadable (h : List.Forall₂ (f.Keeps depth) as vs) : ItemsReadable depth vs := by
  induction h with
  | nil => simp [ItemsReadable]
  | cons h _ ih => exact ⟨h.readable, ih⟩

/-- The items of a list after its first. -/
theorem items_tokens (h : List.Forall₂ (f.Keeps depth) as vs) {fuel : Nat}
    (hfuel : as.length ≤ fuel) (before : List α) (rest : List Token) :
    items f.read fuel before ((vs.flatMap fun v => .comma :: v.tokens) ++ .closeBracket :: rest) =
      .ok (before.reverse ++ as, rest) := by
  induction h generalizing fuel before with
  | nil => cases fuel <;> simp [items]
  | @cons a v as vs h _ ih =>
    cases fuel with
    | zero => simp at hfuel
    | succ fuel =>
      obtain ⟨t, ts, htokens, hclose, -⟩ := exists_tokens_eq_cons v
      have hread := h.read ((vs.flatMap fun v => .comma :: v.tokens) ++ .closeBracket :: rest)
      rw [htokens, List.cons_append] at hread
      rw [List.flatMap_cons, List.cons_append, List.cons_append, List.append_assoc, htokens,
        List.cons_append, items]
      · rw [hread]
        refine (ih (by simpa using hfuel) (a :: before)).trans ?_
        simp
      · exact fun _ heq => hclose (List.cons.inj heq).1

/-- **A list of items that are kept is kept.** -/
theorem keeps_list (h : List.Forall₂ (f.Keeps depth) as vs) :
    (list f).Keeps (depth + 1) as (.list vs) where
  written := by simp [list, filterMap_toValue h]
  read rest := by
    cases h with
    | nil => simp [list, Value.tokens, itemTokens]
    | @cons a v as vs h hs =>
      obtain ⟨t, ts, htokens, hclose, -⟩ := exists_tokens_eq_cons v
      have hread := h.read ((vs.flatMap fun v => .comma :: v.tokens) ++ .closeBracket :: rest)
      rw [htokens, List.cons_append] at hread
      rw [Value.tokens, itemTokens_eq_map, List.map_cons, intercalate_cons_eq_flatMap]
      simp only [List.flatMap_map, List.cons_append, List.nil_append, List.append_assoc, list,
        htokens]
      split
      · cases ‹_ :: _ = _›
        exact absurd rfl hclose
      · cases ‹_ :: _ = _›
        rw [hread]
        refine (items_tokens hs ?_ [a] rest).trans rfl
        have hlength := length_le_flatMap (g := fun v : Value => .comma :: v.tokens) nofun vs
        rw [hs.length_eq, List.length_append]
        omega
      · rename_i hopen
        exact absurd rfl (hopen _)
  taken := mapM_ofValue? h
  readable := by
    rw [Value.Readable]
    exact itemsReadable h
  ne_null := nofun

/-- What is made of a list one by one is made of its items. -/
theorem exists_of_mem_mapM {β : Type} {g : Value → Option β} {bs : List β}
    (h : vs.mapM g = some bs) {b : β} (hb : b ∈ bs) : ∃ v ∈ vs, g v = some b := by
  induction vs generalizing bs with
  | nil =>
    cases h
    cases hb
  | cons v vs ih =>
    rw [List.mapM_cons] at h
    obtain ⟨first, hfirst, h⟩ := Option.bind_eq_some_iff.1 h
    obtain ⟨others, hothers, h⟩ := Option.bind_eq_some_iff.1 h
    cases h
    rcases List.mem_cons.1 hb with rfl | hb
    · exact ⟨v, List.mem_cons_self, hfirst⟩
    · obtain ⟨w, hw, hb⟩ := ih hothers hb
      exact ⟨w, List.mem_cons_of_mem _ hw, hb⟩

/-- Values each of which is kept are kept as a list. -/
theorem exists_keeps_list (h : ∀ a ∈ as, ∃ v, f.Keeps depth a v) :
    ∃ v, (list f).Keeps (depth + 1) as v := by
  have hvalues : ∃ vs, List.Forall₂ (f.Keeps depth) as vs := by
    induction as with
    | nil => exact ⟨[], .nil⟩
    | cons a as ih =>
      obtain ⟨hv, has⟩ := List.forall_mem_cons.1 h
      obtain ⟨v, hv⟩ := hv
      obtain ⟨vs, hvs⟩ := ih has
      exact ⟨v :: vs, .cons hv hvs⟩
  obtain ⟨vs, hvs⟩ := hvalues
  exact ⟨_, keeps_list hvs⟩

/-- What is read after the first item adds values that are kept. -/
theorem Lossless.items (h : f.Lossless depth) {fuel : Nat} {before : List α} {ts rest : List Token}
    (hbefore : ∀ a ∈ before, ∃ v, f.Keeps depth a v)
    (hread : items f.read fuel before ts = .ok (as, rest)) :
    ∀ a ∈ as, ∃ v, f.Keeps depth a v := by
  induction fuel generalizing before ts with
  | zero =>
    unfold Format.items at hread
    split at hread
    · cases hread
      simpa using hbefore
    · rename_i hfuel
      cases hfuel
    · cases hread
  | succ fuel ih =>
    unfold Format.items at hread
    split at hread
    · cases hread
      simpa using hbefore
    · rename_i hfuel
      cases hfuel
      split at hread
      · cases hread
      · obtain ⟨⟨a, more⟩, hitem, hitems⟩ := exists_of_bind_eq_ok hread
        exact ih (List.forall_mem_cons.2 ⟨h.read hitem, hbefore⟩) hitems
    · cases hread

/-- A list that was read has items that are kept. -/
theorem Lossless.list (h : f.Lossless depth) : (list f).Lossless (depth + 1) where
  read := by
    intro ts as rest hread
    refine exists_keeps_list ?_
    simp only [Format.list] at hread
    split at hread
    · cases hread
      nofun
    · obtain ⟨⟨a, more⟩, hfirst, hitems⟩ := exists_of_bind_eq_ok hread
      exact h.items (by simpa using h.read hfirst) hitems
    · cases hread
  taken := by
    intro v as htaken
    refine exists_keeps_list fun a ha => ?_
    simp only [Format.list] at htaken
    split at htaken
    · rename_i vs
      obtain ⟨v, -, hv⟩ := exists_of_mem_mapM htaken ha
      exact h.taken hv
    · cases htaken

end List

end Format

end OAuthGateway.Json

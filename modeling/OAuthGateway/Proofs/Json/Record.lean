import OAuthGateway.Proofs.Json.Format

/-!
# Proofs/Json/Record — a record is read back from its written fields

The fields of a record are read in the order in which they were written, each into its own slot.
`Slots.upTo names r` is what has been read of a record `r` once the fields of these names have been:
one more field makes it `upTo` one more name (`assign_upTo`), so the members of an object together
fill the slots of all written fields, and a field that was not written is absent.

Conversely whatever fills a slot is kept by its field (`Slots.Kept`), so a record that was read can
be written and read again.
-/

namespace OAuthGateway.Json

variable {depth : Nat}

/-! ## Fields

A field keeps a value that is left out because the field may be absent, or that its format keeps. -/

namespace Field

/-- The value of a field is left out and stands for its absence, or it is kept. -/
def Keeps (depth : Nat) (f : Field) (a : f.type) : Prop :=
  (f.format.toValue a = none ∧ f.absent = some a) ∨ ∃ v, f.format.Keeps depth a v

/-- Everything that is read of a field, or stands for its absence, is kept. -/
structure Lossless (depth : Nat) (f : Field) : Prop where
  read : ∀ {ts a rest}, f.format.read ts = .ok (a, rest) → f.Keeps depth a
  taken : ∀ {v a}, f.format.ofValue? v = some a → f.Keeps depth a
  absent : ∀ {a}, f.absent = some a → f.Keeps depth a

/-- The value that is written of a kept one is read back. -/
theorem Keeps.of_written {f : Field} {a : f.type} {v : Value} (h : f.Keeps depth a)
    (hwritten : f.format.toValue a = some v) : f.format.Keeps depth a v := by
  rcases h with ⟨habsent, -⟩ | ⟨v', hv'⟩
  · rw [hwritten] at habsent
    cases habsent
  · obtain rfl : v = v' := Option.some.inj (hwritten.symm.trans hv'.written)
    exact hv'

/-- The value that is not written of a kept one stands for its absence. -/
theorem Keeps.of_unwritten {f : Field} {a : f.type} (h : f.Keeps depth a)
    (hunwritten : f.format.toValue a = none) : f.absent = some a := by
  rcases h with h | ⟨v, hv⟩
  · exact h.2
  · rw [hv.written] at hunwritten
    cases hunwritten

variable {α : Type} {f : Format α} {name : String}

theorem keeps_required {a : α} {v : Value} (h : f.Keeps depth a v) :
    (required name f).Keeps depth a := .inr ⟨v, h⟩

/-- An optional field keeps what is absent, and what its format keeps. -/
theorem keeps_optional {a : Option α} (h : ∀ b ∈ a, ∃ v, f.Keeps depth b v) :
    (optional name f).Keeps depth a := by
  cases a with
  | none => exact .inl ⟨rfl, rfl⟩
  | some b =>
    obtain ⟨v, hv⟩ := h b rfl
    exact .inr ⟨v, hv.optional⟩

theorem lossless_required (h : f.Lossless depth) : (required name f).Lossless depth :=
  ⟨fun hread => .inr (h.read hread), fun htaken => .inr (h.taken htaken), nofun⟩

theorem lossless_optional (h : f.Lossless depth) : (optional name f).Lossless depth where
  read := by
    intro ts a rest hread
    rcases h.optional_read hread with rfl | hkept
    · exact .inl ⟨rfl, rfl⟩
    · exact .inr hkept
  taken := by
    intro v a htaken
    rcases h.optional_taken htaken with rfl | hkept
    · exact .inl ⟨rfl, rfl⟩
    · exact .inr hkept
  absent := by
    intro a habsent
    cases habsent
    exact .inl ⟨rfl, rfl⟩

end Field

/-! ## Records, field by field

The members of a written record have the names of its fields, each of them once. -/

/-- The value of every field is kept. -/
def Record.Kept (depth : Nat) : (fields : List Field) → Record fields → Prop
  | [], () => True
  | f :: fs, (a, as) => f.Keeps depth a ∧ Record.Kept depth fs as

/-- The members of a record bear the names of its fields. -/
theorem Record.name_of_mem_members {fields : List Field} {r : Record fields} {m : String × Value}
    (h : m ∈ members fields r) : m.1 ∈ fields.map Field.name := by
  induction fields with
  | nil => cases h
  | cons f fs ih =>
    obtain ⟨a, as⟩ := r
    rw [members] at h
    split at h
    · rcases List.mem_cons.1 h with rfl | h
      · exact List.mem_cons_self
      · exact List.mem_cons_of_mem _ (ih h)
    · exact List.mem_cons_of_mem _ (ih h)

/-- No name stands twice among the members of a record. -/
theorem Record.nodup_members {fields : List Field} (h : (fields.map Field.name).Nodup)
    (r : Record fields) : ((members fields r).map (·.1)).Nodup := by
  induction fields with
  | nil => exact .nil
  | cons f fs ih =>
    obtain ⟨a, as⟩ := r
    obtain ⟨hnew, hfs⟩ := List.nodup_cons.1 h
    rw [members]
    split
    · refine List.nodup_cons.2 ⟨fun hmem => hnew ?_, ih hfs as⟩
      obtain ⟨m, hm, hname⟩ := List.mem_map.1 hmem
      have hmember := name_of_mem_members hm
      rwa [hname] at hmember
    · exact ih hfs as

/-- A written field is the first one, with its value, or one of the others. -/
theorem Record.mem_members_cons {f : Field} {fs : List Field} {a : f.type} {as : Record fs}
    {key : String} {v : Value} (hkeeps : f.Keeps depth a)
    (hnames : ((f :: fs).map Field.name).Nodup) (hmem : (key, v) ∈ members (f :: fs) (a, as)) :
    (key = f.name ∧ f.format.Keeps depth a v ∧ f.name ∉ fs.map Field.name) ∨
      (key ≠ f.name ∧ (key, v) ∈ members fs as) := by
  obtain ⟨hfirst, -⟩ := List.nodup_cons.1 hnames
  have hothers : (key, v) ∈ members fs as → key ≠ f.name := by
    rintro h rfl
    exact hfirst (name_of_mem_members h)
  rw [members] at hmem
  split at hmem
  · rename_i w hwritten
    rcases List.mem_cons.1 hmem with heq | hmem
    · cases heq
      exact .inl ⟨rfl, hkeeps.of_written hwritten, hfirst⟩
    · exact .inr ⟨hothers hmem, hmem⟩
  · exact .inr ⟨hothers hmem, hmem⟩

namespace Slots

/-- What has been read of a record once the fields of some names have been. -/
def upTo (names : List String) : (fields : List Field) → Record fields → Slots fields
  | [], () => ()
  | f :: fs, (a, as) =>
    (if f.name ∈ names ∧ (f.format.toValue a).isSome then some a else none, upTo names fs as)

theorem upTo_nil (fields : List Field) (r : Record fields) : upTo [] fields r = empty fields := by
  induction fields with
  | nil => rfl
  | cons f fs ih =>
    obtain ⟨a, as⟩ := r
    simp only [upTo, empty, ih, List.not_mem_nil, false_and, if_false]
    rfl

/-- A name that no field has changes nothing. -/
theorem upTo_cons_of_not_mem {key : String} (names : List String) {fields : List Field}
    (h : key ∉ fields.map Field.name) (r : Record fields) :
    upTo (key :: names) fields r = upTo names fields r := by
  induction fields with
  | nil => rfl
  | cons f fs ih =>
    obtain ⟨a, as⟩ := r
    rw [List.map_cons, List.mem_cons, not_or] at h
    have hname : f.name ≠ key := fun heq => h.1 heq.symm
    simp only [upTo, ih h.2, List.mem_cons, hname, false_or]
    rfl

section Step

variable {f : Field} {fs : List Field} {a : f.type} {as : Record fs} {names : List String}

/-- The slot of a field that was read is filled. -/
theorem upTo_cons_self {v : Value} (hwritten : f.format.toValue a = some v)
    (hother : f.name ∉ fs.map Field.name) :
    upTo (f.name :: names) (f :: fs) (a, as) = (some a, upTo names fs as) := by
  simp only [upTo, upTo_cons_of_not_mem names hother, hwritten, List.mem_cons_self,
    Option.isSome_some, and_self, if_true]
  rfl

/-- The slots of other fields stay as they are. -/
theorem upTo_cons_of_ne {key : String} (hkey : key ≠ f.name) :
    upTo (key :: names) (f :: fs) (a, as) =
      ((upTo names (f :: fs) (a, as)).1, upTo (key :: names) fs as) := by
  have hname : f.name ≠ key := fun heq => hkey heq.symm
  simp only [upTo, List.mem_cons, hname, false_or]
  rfl

end Step

/-- When a field has been read, those behind it are still new. -/
theorem forall_not_mem_cons {m : String × Value} {ms : List (String × Value)} {names : List String}
    (hnodup : ((m :: ms).map (·.1)).Nodup) (hnew : ∀ m' ∈ m :: ms, m'.1 ∉ names) :
    ∀ m' ∈ ms, m'.1 ∉ m.1 :: names := by
  intro m' hm' hmem
  rcases List.mem_cons.1 hmem with heq | hmem
  · exact (List.nodup_cons.1 hnodup).1 (List.mem_map.2 ⟨m', hm', heq⟩)
  · exact hnew m' (List.mem_cons_of_mem _ hm') hmem

/-- **One more field is read.** -/
theorem assign_upTo {fields : List Field} {r : Record fields} {names : List String} {key : String}
    {v : Value} (hkept : Record.Kept depth fields r) (hnames : (fields.map Field.name).Nodup)
    (hmem : (key, v) ∈ Record.members fields r) (hnew : key ∉ names) (rest : List Token) :
    assign fields (upTo names fields r) key (.colon :: (v.tokens ++ rest)) =
      .ok (upTo (key :: names) fields r, rest) := by
  induction fields with
  | nil => cases hmem
  | cons f fs ih =>
    obtain ⟨a, as⟩ := r
    rcases Record.mem_members_cons hkept.1 hnames hmem with ⟨rfl, hv, hother⟩ | ⟨hkey, hmem⟩
    · have hread : (expect .colon (.colon :: (v.tokens ++ rest)) >>= f.format.read) =
          .ok (a, rest) := hv.read rest
      rw [upTo_cons_self hv.written hother]
      simp only [upTo, assign, hnew, false_and, if_false, if_true, hread]
      rfl
    · rw [upTo_cons_of_ne hkey]
      simp only [upTo, assign, if_neg hkey, ih hkept.2 (List.nodup_cons.1 hnames).2 hmem]
      rfl

/-- One more field is taken from an object. -/
theorem assignValue?_upTo {fields : List Field} {r : Record fields} {names : List String}
    {key : String} {v : Value} (hkept : Record.Kept depth fields r)
    (hnames : (fields.map Field.name).Nodup) (hmem : (key, v) ∈ Record.members fields r)
    (hnew : key ∉ names) :
    assignValue? fields (upTo names fields r) key v = some (upTo (key :: names) fields r) := by
  induction fields with
  | nil => cases hmem
  | cons f fs ih =>
    obtain ⟨a, as⟩ := r
    rcases Record.mem_members_cons hkept.1 hnames hmem with ⟨rfl, hv, hother⟩ | ⟨hkey, hmem⟩
    · rw [upTo_cons_self hv.written hother]
      simp only [upTo, assignValue?, hnew, false_and, if_false, if_true, hv.taken]
      rfl
    · rw [upTo_cons_of_ne hkey]
      simp only [upTo, assignValue?, if_neg hkey, ih hkept.2 (List.nodup_cons.1 hnames).2 hmem]
      rfl

/-- Some more fields are taken from an object. -/
theorem foldlM_assignValue?_upTo {fields : List Field} {r : Record fields}
    (hkept : Record.Kept depth fields r) (hnames : (fields.map Field.name).Nodup)
    {ms : List (String × Value)} {names : List String}
    (hmem : ∀ m ∈ ms, m ∈ Record.members fields r) (hnodup : (ms.map (·.1)).Nodup)
    (hnew : ∀ m ∈ ms, m.1 ∉ names) :
    ms.foldlM (fun slots (key, v) => assignValue? fields slots key v) (upTo names fields r) =
      some (upTo ((ms.map (·.1)).reverse ++ names) fields r) := by
  induction ms generalizing names with
  | nil => rfl
  | cons m ms ih =>
    obtain ⟨key, v⟩ := m
    obtain ⟨hm, hms⟩ := List.forall_mem_cons.1 hmem
    have hfirst := assignValue?_upTo hkept hnames hm (hnew _ List.mem_cons_self)
    rw [List.foldlM_cons]
    simp only [hfirst]
    refine (ih hms (List.nodup_cons.1 hnodup).2 (forall_not_mem_cons hnodup hnew)).trans ?_
    simp

/-- **Some more fields are read**, up to the end of the object. -/
theorem members_upTo {fields : List Field} {r : Record fields} (hkept : Record.Kept depth fields r)
    (hnames : (fields.map Field.name).Nodup) {ms : List (String × Value)} {names : List String}
    {m : String × Value} (hmem : ∀ m' ∈ m :: ms, m' ∈ Record.members fields r)
    (hnodup : ((m :: ms).map (·.1)).Nodup) (hnew : ∀ m' ∈ m :: ms, m'.1 ∉ names) {fuel : Nat}
    (hfuel : ms.length < fuel) (rest : List Token) :
    members fields fuel (upTo names fields r)
        (.text (some m.1) :: .colon :: (m.2.tokens ++
          ((ms.flatMap fun m => .comma :: .text (some m.1) :: .colon :: m.2.tokens) ++
            .closeBrace :: rest))) =
      .ok (upTo (((m :: ms).map (·.1)).reverse ++ names) fields r, rest) := by
  induction ms generalizing m names fuel with
  | nil =>
    obtain ⟨fuel, rfl⟩ := Nat.exists_eq_succ_of_ne_zero (Nat.ne_of_gt hfuel)
    have hassign := assign_upTo hkept hnames (hmem m List.mem_cons_self) (hnew m List.mem_cons_self)
    rw [members, hassign]
    rfl
  | cons m' ms ih =>
    obtain ⟨fuel, rfl⟩ := Nat.exists_eq_succ_of_ne_zero (Nat.ne_of_gt (Nat.zero_lt_of_lt hfuel))
    have hassign := assign_upTo hkept hnames (hmem m List.mem_cons_self) (hnew m List.mem_cons_self)
    rw [members, hassign, List.flatMap_cons, List.cons_append, List.cons_append, List.cons_append,
      List.cons_append, List.append_assoc]
    refine (ih (fun m'' h => hmem m'' (List.mem_cons_of_mem _ h)) (List.nodup_cons.1 hnodup).2
      (forall_not_mem_cons hnodup hnew) (by simpa using hfuel)).trans ?_
    simp

/-- When all written fields have been read, the record has. -/
theorem record?_upTo {fields : List Field} {r : Record fields} {names : List String}
    (hkept : Record.Kept depth fields r) (hall : ∀ m ∈ Record.members fields r, m.1 ∈ names) :
    record? fields (upTo names fields r) = some r := by
  induction fields with
  | nil => rfl
  | cons f fs ih =>
    obtain ⟨a, as⟩ := r
    obtain ⟨hkeeps, hkept⟩ := hkept
    rw [Record.members] at hall
    cases hwritten : f.format.toValue a with
    | none =>
      simp only [hwritten] at hall
      simp [upTo, record?, hwritten, hkeeps.of_unwritten hwritten, ih hkept hall]
    | some v =>
      simp only [hwritten] at hall
      obtain ⟨hname, hall⟩ := List.forall_mem_cons.1 hall
      simp [upTo, record?, hwritten, hname, ih hkept hall]

end Slots

namespace Record

section Keeps

variable {fields : List Field} {r : Record fields}

/-- Once all members are read, the slots make up the record. -/
theorem record?_members (hkept : Kept depth fields r) :
    Slots.record? fields (Slots.upTo (((members fields r).map (·.1)).reverse ++ []) fields r) =
      some r := by
  refine Slots.record?_upTo hkept fun m hm => ?_
  rw [List.append_nil, List.mem_reverse]
  exact List.mem_map_of_mem hm

/-- **A record is read back from the tokens of its fields.** -/
theorem read_tokens (hkept : Kept depth fields r) (hnames : (fields.map Field.name).Nodup)
    (rest : List Token) : read fields ((toValue fields r).tokens ++ rest) = .ok (r, rest) := by
  have hrecord := record?_members hkept
  have hnodup := nodup_members hnames r
  rw [toValue, Value.tokens, fieldTokens_eq_map]
  cases hms : members fields r with
  | nil =>
    rw [hms, List.map_nil, List.reverse_nil, List.nil_append, Slots.upTo_nil] at hrecord
    simp [read, read.finish, hrecord]
  | cons m ms =>
    rw [hms] at hrecord hnodup
    have hsub : ∀ m' ∈ m :: ms, m' ∈ members fields r := by simp [hms]
    have hnew : ∀ m' ∈ m :: ms, m'.1 ∉ [] := fun _ _ => List.not_mem_nil
    have hmembers := fun fuel (hfuel : ms.length < fuel) =>
      Slots.members_upTo hkept hnames hsub hnodup hnew hfuel rest
    have hlength := length_le_flatMap
      (g := fun m : String × Value => .comma :: .text (some m.1) :: .colon :: m.2.tokens) nofun ms
    rw [List.map_cons, Text.intercalate_cons_eq_flatMap, List.flatMap_map]
    simp only [Slots.upTo_nil] at hmembers
    simp only [List.cons_append, List.nil_append, List.append_assoc, read]
    rw [hmembers]
    · simp only [bind, Except.bind, hrecord, read.finish]
    · simp only [List.length_cons, List.length_append]
      omega

/-- A record is taken back from the object it is written as. -/
theorem ofValue?_toValue (hkept : Kept depth fields r) (hnames : (fields.map Field.name).Nodup) :
    ofValue? fields (toValue fields r) = some r := by
  have htaken := Slots.foldlM_assignValue?_upTo hkept hnames (fun _ => id) (nodup_members hnames r)
    (fun m _ => List.not_mem_nil (a := m.1))
  rw [Slots.upTo_nil] at htaken
  simp only [toValue, ofValue?]
  rw [htaken]
  exact record?_members hkept

/-- All members of a record that is kept can be read. -/
theorem fieldsReadable_members (hkept : Kept depth fields r) :
    FieldsReadable depth (members fields r) := by
  induction fields with
  | nil => simp [members, FieldsReadable]
  | cons f fs ih =>
    obtain ⟨a, as⟩ := r
    rw [members]
    split
    · rename_i v hwritten
      rw [FieldsReadable]
      exact ⟨(hkept.1.of_written hwritten).readable, ih hkept.2⟩
    · exact ih hkept.2

end Keeps

end Record

/-! ## What has been read is kept

Each way of filling slots, from tokens or from values, by members or by elements, fills them with
what the fields keep. -/

namespace Slots

/-- Whatever fills a slot is kept by the field. -/
def Kept (depth : Nat) : (fields : List Field) → Slots fields → Prop
  | [], () => True
  | f :: fs, (slot, slots) => (∀ a ∈ slot, f.Keeps depth a) ∧ Kept depth fs slots

theorem kept_empty (fields : List Field) : Kept depth fields (empty fields) := by
  induction fields with
  | nil => trivial
  | cons f fs ih => exact ⟨nofun, ih⟩

section Lossless

variable {fields : List Field} {slots slots' : Slots fields} {key : String} {ts rest : List Token}

/-- Reading one member keeps what the slots hold. -/
theorem kept_assign (hfields : ∀ f ∈ fields, f.Lossless depth) (hkept : Kept depth fields slots)
    (h : assign fields slots key ts = .ok (slots', rest)) : Kept depth fields slots' := by
  induction fields with
  | nil => trivial
  | cons f fs ih =>
    obtain ⟨slot, slots⟩ := slots
    obtain ⟨hf, hfs⟩ := List.forall_mem_cons.1 hfields
    rw [assign] at h
    split at h
    · split at h
      · cases h
      · obtain ⟨⟨a, more⟩, hread, h⟩ := exists_of_bind_eq_ok h
        obtain ⟨more', -, hread⟩ := exists_of_bind_eq_ok hread
        cases h
        refine ⟨fun b hb => ?_, hkept.2⟩
        cases hb
        exact hf.read hread
    · obtain ⟨⟨others, more⟩, hothers, h⟩ := exists_of_bind_eq_ok h
      cases h
      exact ⟨hkept.1, ih hfs hkept.2 hothers⟩

/-- Reading the members of an object keeps what the slots hold. -/
theorem kept_members (hfields : ∀ f ∈ fields, f.Lossless depth) {fuel : Nat}
    (hkept : Kept depth fields slots) (h : members fields fuel slots ts = .ok (slots', rest)) :
    Kept depth fields slots' := by
  induction fuel generalizing slots ts with
  | zero => cases h
  | succ fuel ih =>
    unfold members at h
    split at h
    · rename_i hfuel
      cases hfuel
      obtain ⟨⟨next, more⟩, hassign, h⟩ := exists_of_bind_eq_ok h
      have hnext := kept_assign hfields hkept hassign
      simp only at h
      split at h
      · cases h
        exact hnext
      · exact ih hnext h
      · cases h
    · cases h

/-- Reading the elements of a list fills slots with what is kept. -/
theorem kept_elements (hfields : ∀ f ∈ fields, f.Lossless depth) {first : Bool}
    (h : elements fields first ts = .ok (slots', rest)) : Kept depth fields slots' := by
  induction fields generalizing first ts with
  | nil => trivial
  | cons f fs ih =>
    obtain ⟨hf, hfs⟩ := List.forall_mem_cons.1 hfields
    unfold elements at h
    split at h
    · cases h
      exact kept_empty _
    · -- with or without a comma before it, an item is read and then the others
      split at h
      all_goals
        obtain ⟨more, -, h⟩ := exists_of_bind_eq_ok h
        simp only at h
        split at h
        · cases h
        · obtain ⟨⟨a, behind⟩, hread, h⟩ := exists_of_bind_eq_ok h
          obtain ⟨⟨others, behind'⟩, hothers, h⟩ := exists_of_bind_eq_ok h
          cases h
          refine ⟨fun b hb => ?_, ih hfs hothers⟩
          cases hb
          exact hf.read hread

/-- Taking one member of a value keeps what the slots hold. -/
theorem kept_assignValue? (hfields : ∀ f ∈ fields, f.Lossless depth)
    (hkept : Kept depth fields slots) {v : Value}
    (h : assignValue? fields slots key v = some slots') : Kept depth fields slots' := by
  induction fields with
  | nil => trivial
  | cons f fs ih =>
    obtain ⟨slot, slots⟩ := slots
    obtain ⟨hf, hfs⟩ := List.forall_mem_cons.1 hfields
    simp only [assignValue?] at h
    split at h
    · split at h
      · cases h
      · obtain ⟨a, htaken, h⟩ := Option.map_eq_some_iff.1 h
        cases h
        refine ⟨fun b hb => ?_, hkept.2⟩
        cases hb
        exact hf.taken htaken
    · obtain ⟨others, hothers, h⟩ := Option.map_eq_some_iff.1 h
      cases h
      exact ⟨hkept.1, ih hfs hkept.2 hothers⟩

/-- Taking the members of a value keeps what the slots hold. -/
theorem kept_foldlM_assignValue? (hfields : ∀ f ∈ fields, f.Lossless depth)
    {ms : List (String × Value)} (hkept : Kept depth fields slots)
    (h : ms.foldlM (fun slots (key, v) => assignValue? fields slots key v) slots = some slots') :
    Kept depth fields slots' := by
  induction ms generalizing slots with
  | nil =>
    cases h
    exact hkept
  | cons m ms ih =>
    rw [List.foldlM_cons] at h
    obtain ⟨next, hnext, h⟩ := Option.bind_eq_some_iff.1 h
    exact ih (kept_assignValue? hfields hkept hnext) h

/-- Taking the elements of a value fills slots with what is kept. -/
theorem kept_elementValues? (hfields : ∀ f ∈ fields, f.Lossless depth) {vs : List Value}
    (h : elementValues? fields vs = some slots') : Kept depth fields slots' := by
  induction fields generalizing vs with
  | nil => trivial
  | cons f fs ih =>
    obtain ⟨hf, hfs⟩ := List.forall_mem_cons.1 hfields
    cases vs with
    | nil =>
      cases h
      exact kept_empty _
    | cons v vs =>
      obtain ⟨a, htaken, h⟩ := Option.bind_eq_some_iff.1 h
      obtain ⟨others, hothers, h⟩ := Option.bind_eq_some_iff.1 h
      cases h
      refine ⟨fun b hb => ?_, ih hfs hothers⟩
      cases hb
      exact hf.taken htaken

/-- A record all of whose slots are kept is kept, and so is what is filled in. -/
theorem kept_record? (hfields : ∀ f ∈ fields, f.Lossless depth) (hkept : Kept depth fields slots)
    {r : Record fields} (h : record? fields slots = some r) : Record.Kept depth fields r := by
  induction fields with
  | nil => trivial
  | cons f fs ih =>
    obtain ⟨slot, slots⟩ := slots
    obtain ⟨hf, hfs⟩ := List.forall_mem_cons.1 hfields
    obtain ⟨a, ha, h⟩ := Option.bind_eq_some_iff.1 h
    obtain ⟨as, has, h⟩ := Option.bind_eq_some_iff.1 h
    cases h
    refine ⟨?_, ih hfs hkept.2 has⟩
    cases slot with
    | none => exact hf.absent ha
    | some b =>
      cases ha
      exact hkept.1 a rfl

end Lossless

/-! ### Fields that are missing

A slot that nothing was read into stays empty, and without a value for absence no record comes of
it. -/

/-- The slots of the fields of a name are empty. -/
def Lacks (name : String) : (fields : List Field) → Slots fields → Prop
  | [], () => True
  | f :: fs, (slot, slots) => (f.name = name → slot = none) ∧ Lacks name fs slots

theorem lacks_empty (name : String) (fields : List Field) : Lacks name fields (empty fields) := by
  induction fields with
  | nil => trivial
  | cons f fs ih => exact ⟨fun _ => rfl, ih⟩

section Missing

variable {name : String} {fields : List Field} {slots slots' : Slots fields}

/-- A field of another name leaves them empty. -/
theorem lacks_assignValue? {key : String} (hkey : key ≠ name) (hlacks : Lacks name fields slots)
    {v : Value} (h : assignValue? fields slots key v = some slots') :
    Lacks name fields slots' := by
  induction fields with
  | nil => trivial
  | cons f fs ih =>
    obtain ⟨slot, slots⟩ := slots
    simp only [assignValue?] at h
    split at h
    · rename_i hname
      split at h
      · cases h
      · obtain ⟨a, -, h⟩ := Option.map_eq_some_iff.1 h
        cases h
        exact ⟨fun heq => absurd (hname.trans heq) hkey, hlacks.2⟩
    · obtain ⟨others, hothers, h⟩ := Option.map_eq_some_iff.1 h
      cases h
      exact ⟨hlacks.1, ih hlacks.2 hothers⟩

/-- Members of other names leave a slot empty. -/
theorem lacks_foldlM_assignValue? {ms : List (String × Value)} (hmissing : ∀ m ∈ ms, m.1 ≠ name)
    (hlacks : Lacks name fields slots)
    (h : ms.foldlM (fun slots (key, v) => assignValue? fields slots key v) slots = some slots') :
    Lacks name fields slots' := by
  induction ms generalizing slots with
  | nil =>
    cases h
    exact hlacks
  | cons m ms ih =>
    obtain ⟨hm, hms⟩ := List.forall_mem_cons.1 hmissing
    rw [List.foldlM_cons] at h
    obtain ⟨next, hnext, h⟩ := Option.bind_eq_some_iff.1 h
    exact ih hms (lacks_assignValue? hm hlacks hnext) h

end Missing

/-- Without a field that must be there, there is no record. -/
theorem record?_of_lacks {f : Field} {fields : List Field} {slots : Slots fields} (hf : f ∈ fields)
    (habsent : f.absent = none) (hlacks : Lacks f.name fields slots) :
    record? fields slots = none := by
  induction fields with
  | nil => cases hf
  | cons g gs ih =>
    obtain ⟨slot, slots⟩ := slots
    rcases List.mem_cons.1 hf with rfl | hf
    · have hslot : slot = none := hlacks.1 rfl
      simp [record?, hslot, habsent]
    · simp [record?, ih hf hlacks.2]

end Slots

/-! ## Schemas -/

namespace Record

variable {fields : List Field} {r : Record fields}

/-- A record that was read from tokens is kept. -/
theorem kept_of_read (hfields : ∀ f ∈ fields, f.Lossless depth) {ts rest : List Token}
    (h : read fields ts = .ok (r, rest)) : Kept depth fields r := by
  have hfinish : ∀ {slots more}, Slots.Kept depth fields slots →
      read.finish fields slots more = .ok (r, rest) → Kept depth fields r := by
    intro slots more hkept h
    rw [read.finish] at h
    split at h
    · cases h
      exact Slots.kept_record? hfields hkept ‹_›
    · cases h
  rw [read.eq_def] at h
  split at h
  · exact hfinish (Slots.kept_empty fields) h
  · obtain ⟨⟨slots, more⟩, hmembers, h⟩ := exists_of_bind_eq_ok h
    exact hfinish (Slots.kept_members hfields (Slots.kept_empty fields) hmembers) h
  · obtain ⟨⟨slots, more⟩, helements, h⟩ := exists_of_bind_eq_ok h
    exact hfinish (Slots.kept_elements hfields helements) h
  · cases h

/-- A record that was taken from a value is kept. -/
theorem kept_of_ofValue? (hfields : ∀ f ∈ fields, f.Lossless depth) {v : Value}
    (h : ofValue? fields v = some r) : Kept depth fields r := by
  rw [ofValue?.eq_def] at h
  split at h
  · obtain ⟨slots, hslots, h⟩ := Option.bind_eq_some_iff.1 h
    have hkept := Slots.kept_foldlM_assignValue? hfields (Slots.kept_empty fields) hslots
    exact Slots.kept_record? hfields hkept h
  · obtain ⟨slots, hslots, h⟩ := Option.bind_eq_some_iff.1 h
    exact Slots.kept_record? hfields (Slots.kept_elementValues? hfields hslots) h
  · cases h

/-- An object without a required field is none of the record. -/
theorem ofValue?_of_missing {f : Field} (hf : f ∈ fields) (habsent : f.absent = none)
    {ms : List (String × Value)} (hmissing : ∀ m ∈ ms, m.1 ≠ f.name) :
    ofValue? fields (.object ms) = none := by
  rw [Option.eq_none_iff_forall_ne_some]
  intro r h
  obtain ⟨slots, hslots, h⟩ := Option.bind_eq_some_iff.1 h
  have hlacks := Slots.lacks_foldlM_assignValue? hmissing (Slots.lacks_empty f.name fields) hslots
  rw [Slots.record?_of_lacks hf habsent hlacks] at h
  cases h

end Record

namespace Schema

variable {α : Type} {s : Schema α}

/-- A schema whose fields have different names and lose nothing, and whose records are the values
of the type. -/
structure Lawful (depth : Nat) (s : Schema α) : Prop where
  names : (s.fields.map Field.name).Nodup
  ofRecord_toRecord : ∀ a, s.ofRecord (s.toRecord a) = a
  toRecord_ofRecord : ∀ r, s.toRecord (s.ofRecord r) = r
  fields : ∀ f ∈ s.fields, f.Lossless depth

/-- **A value is kept if those of its fields are.** -/
theorem Lawful.keeps (h : s.Lawful depth) {a : α}
    (hkept : Record.Kept depth s.fields (s.toRecord a)) :
    s.format.Keeps (depth + 1) a (s.toValue a) where
  written := rfl
  read rest := by
    simp only [format, toValue, Record.read_tokens hkept h.names]
    exact congrArg (fun a => Except.ok (a, rest)) (h.ofRecord_toRecord a)
  taken := by
    simp only [format, toValue, Record.ofValue?_toValue hkept h.names, Option.map_some,
      h.ofRecord_toRecord]
  readable := by
    rw [toValue, Record.toValue, Value.Readable]
    exact Record.fieldsReadable_members hkept
  ne_null := nofun

/-- **Nothing that is read is lost.** -/
theorem Lawful.lossless (h : s.Lawful depth) : s.format.Lossless (depth + 1) where
  read := by
    intro ts a rest hread
    obtain ⟨⟨r, more⟩, hrecord, hread⟩ := exists_of_bind_eq_ok hread
    cases hread
    have hkept := Record.kept_of_read h.fields hrecord
    rw [← h.toRecord_ofRecord r] at hkept
    exact ⟨_, h.keeps hkept⟩
  taken := by
    intro v a htaken
    obtain ⟨r, hrecord, rfl⟩ := Option.map_eq_some_iff.1 htaken
    have hkept := Record.kept_of_ofValue? h.fields hrecord
    rw [← h.toRecord_ofRecord r] at hkept
    exact ⟨_, h.keeps hkept⟩

end Schema

end OAuthGateway.Json

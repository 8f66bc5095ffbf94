import Mathlib.Data.List.Nodup
import Mathlib.Data.List.Forall2
import OAuthGateway.Store.Basic

/-!
# Proofs/Store/Table — what the four tables have in common

Every row has an id, a text that is unique in its table, and a time of revocation; a few columns may
change, the others are `fixed`.  A table is `Sound` when its ids count from one and its texts
differ, and it `Grows` into another when rows were only added at the end and the old ones kept:
nothing fixed changed, and no revocation was undone.  Adding a row and amending the rows of a table
do both.

Revoking by text is a compare-and-swap: `amend` on the unrevoked rows that have the text.  In a
sound table it touches one row, in its place (`Sound.exists_of_amend`), so counting the spent rows
of a text counts the revocations (`Sound.countP_isSpent_amend`).
-/

namespace OAuthGateway

open Time

/-! ## Rows of any kind

Lookups and amendments take the rows that pass a test, whatever the rows are. -/

namespace Table

section Rows

variable {α : Type} {rows rows' : List α} {p : α → Bool} {f : α → α}

theorem found_eq_ok_iff {o : Option α} {a : α} : Store.found o = .ok a ↔ o = some a := by
  cases o <;> simp [Store.found]

/-- The only error of a lookup is that there is no row. -/
theorem eq_notFound_of_found {o : Option α} {e : StoreError} (h : Store.found o = .error e) :
    e = .notFound := by
  cases o <;> cases h
  rfl

/-- Where no row passes the test, none is found. -/
theorem found_eq_error (h : ∀ a ∈ rows, ¬ p a = true) :
    Store.found (rows.find? p) = .error .notFound := by
  rw [List.find?_eq_none.2 h, Store.found]

/-- The only row that passes the test is found. -/
theorem find?_eq_some_of_unique {a : α} (ha : a ∈ rows) (hp : p a = true)
    (hunique : ∀ b ∈ rows, p b = true → b = a) : rows.find? p = some a := by
  cases h : rows.find? p with
  | none => exact absurd hp (List.find?_eq_none.1 h a ha)
  | some b => rw [hunique b (List.mem_of_find?_eq_some h) (List.find?_some h)]

/-- An amendment succeeds where a row passes the test, and changes those that do. -/
theorem amend_eq_ok_iff :
    Store.amend p f rows = .ok rows' ↔
      rows.any p = true ∧ rows' = rows.map fun row => if p row then f row else row := by
  rw [Store.amend]
  split <;> rename_i h
  · rw [Except.ok.injEq, eq_comm]
    exact (and_iff_right h).symm
  · exact ⟨nofun, fun hok => absurd hok.1 h⟩

/-- An amendment fails where no row passes the test, because none was found. -/
theorem amend_eq_error_iff {e : StoreError} :
    Store.amend p f rows = .error e ↔ rows.any p = false ∧ e = .notFound := by
  rw [Store.amend]
  split <;> rename_i h
  · exact ⟨nofun, fun herror => absurd herror.1 (by rw [h]; exact Bool.noConfusion)⟩
  · rw [Except.error.injEq, eq_comm]
    exact (and_iff_right (Bool.eq_false_iff.2 h)).symm

/-- Where amending keeps a property, a table that has a row with it has one afterwards. -/
theorem exists_amended {P : α → Prop} (hamend : Store.amend p f rows = .ok rows')
    (hP : ∀ a, p a = true → P a → P (f a)) (h : ∃ a ∈ rows, P a) : ∃ a ∈ rows', P a := by
  obtain ⟨-, rfl⟩ := amend_eq_ok_iff.1 hamend
  obtain ⟨a, ha, hPa⟩ := h
  refine ⟨_, List.mem_map_of_mem ha, ?_⟩
  split <;> rename_i hp
  · exact hP a hp hPa
  · exact hPa

end Rows

end Table

/-! ## Rows with an id and a text

The four kinds of row differ in their columns only.  A row is kept by what leaves its fixed columns
and takes back no revocation. -/

/-- What the rows of the four tables have in common. -/
class Row (α : Type) where
  /-- The number of the row in its table. -/
  id : α → Int
  /-- The text that no two rows of a table share. -/
  key : α → String
  /-- When the row was revoked, if it was. -/
  revokedAt : α → Option Instant
  /-- The row with a fixed value in every column that a statement may change. -/
  fixed : α → α
  id_fixed : ∀ a, id (fixed a) = id a
  key_fixed : ∀ a, key (fixed a) = key a

instance : Row Application where
  id := Application.id
  key := Application.clientUid
  revokedAt := Application.revokedAt
  fixed a := { a with description := none, scopes := "", updatedAt := .epoch, revokedAt := none }
  id_fixed _ := rfl
  key_fixed _ := rfl

instance : Row Grant where
  id := Grant.id
  key := Grant.code
  revokedAt := Grant.revokedAt
  fixed g := { g with revokedAt := none }
  id_fixed _ := rfl
  key_fixed _ := rfl

instance : Row AccessToken where
  id := AccessToken.id
  key := AccessToken.token
  revokedAt := AccessToken.revokedAt
  fixed t := { t with revokedAt := none }
  id_fixed _ := rfl
  key_fixed _ := rfl

instance : Row RefreshToken where
  id := RefreshToken.id
  key := RefreshToken.token
  revokedAt := RefreshToken.revokedAt
  fixed t := { t with revokedAt := none }
  id_fixed _ := rfl
  key_fixed _ := rfl

variable {α : Type} [Row α]

namespace Row

/-- The second row is what a later look finds of the first: nothing fixed has changed, and a
revocation stays as it was. -/
structure Kept (a b : α) : Prop where
  fixed : fixed b = fixed a
  revokedAt : ∀ {m}, revokedAt a = some m → revokedAt b = some m

namespace Kept

theorem refl (a : α) : Kept a a := ⟨rfl, fun h => h⟩

theorem trans {a b c : α} (hab : Kept a b) (hbc : Kept b c) : Kept a c :=
  ⟨hbc.fixed.trans hab.fixed, fun h => hbc.revokedAt (hab.revokedAt h)⟩

/-- Whatever only reads fixed columns reads the same. -/
theorem congr {β : Type} {a b : α} (h : Kept a b) (f : α → β) : f (Row.fixed b) = f (Row.fixed a) :=
  congrArg f h.fixed

/-- The id is fixed. -/
theorem id_eq {a b : α} (h : Kept a b) : id b = id a := by
  rw [← id_fixed b, h.fixed, id_fixed]

/-- The text is fixed. -/
theorem key_eq {a b : α} (h : Kept a b) : key b = key a := by
  rw [← key_fixed b, h.fixed, key_fixed]

/-- What is not revoked may be revoked. -/
theorem of_unrevoked {a b : α} (hfixed : Row.fixed b = Row.fixed a)
    (ha : Row.revokedAt a = none) : Kept a b :=
  ⟨hfixed, fun h => by rw [ha] at h; cases h⟩

/-- What is not revoked now was not revoked before. -/
theorem revokedAt_eq_none {a b : α} (h : Kept a b) (hb : Row.revokedAt b = none) :
    Row.revokedAt a = none := by
  cases ha : Row.revokedAt a with
  | none => rfl
  | some m => rw [h.revokedAt ha] at hb; exact hb

end Kept

/-! ### What is fixed -/

/-- A code that is still unused is the row that was read. -/
theorem grant_eq_of_kept {g g' : Grant} (h : Kept g g') (hunused : g'.revokedAt = none) :
    g' = g := by
  have hunused₀ : g.revokedAt = none := h.revokedAt_eq_none hunused
  calc g' = { g' with revokedAt := none } := by rw [← hunused]
    _ = { g with revokedAt := none } := h.fixed
    _ = g := by rw [← hunused₀]

/-- A refresh token that is still unused is the row that was read. -/
theorem refreshToken_eq_of_kept {u u' : RefreshToken} (h : Kept u u')
    (hunused : u'.revokedAt = none) : u' = u := by
  have hunused₀ : u.revokedAt = none := h.revokedAt_eq_none hunused
  calc u' = { u' with revokedAt := none } := by rw [← hunused]
    _ = { u with revokedAt := none } := h.fixed
    _ = u := by rw [← hunused₀]

/-- A code is of one application for good. -/
theorem grant_applicationId_of_kept {g g' : Grant} (h : Kept g g') :
    g'.applicationId = g.applicationId :=
  h.congr Grant.applicationId

/-- An access token is of one application for good. -/
theorem accessToken_applicationId_of_kept {t t' : AccessToken} (h : Kept t t') :
    t'.applicationId = t.applicationId :=
  h.congr AccessToken.applicationId

/-- A refresh token belongs to one access token for good. -/
theorem accessTokenId_of_kept {u u' : RefreshToken} (h : Kept u u') :
    u'.accessTokenId = u.accessTokenId :=
  h.congr RefreshToken.accessTokenId

/-! ### Usable and spent rows -/

/-- The row has the text and is not revoked. -/
def isUsable (k : String) (a : α) : Bool := key a == k && (revokedAt a).isNone

/-- A usable row has the text and is not revoked. -/
theorem isUsable_iff {k : String} {a : α} :
    isUsable k a = true ↔ key a = k ∧ revokedAt a = none := by
  rw [isUsable, Bool.and_eq_true, beq_iff_eq, Option.isNone_iff_eq_none]

/-- The row has the text and is revoked. -/
def isSpent (k : String) (a : α) : Bool := key a == k && (revokedAt a).isSome

/-- A spent row has the text and is revoked. -/
theorem isSpent_iff {k : String} {a : α} :
    isSpent k a = true ↔ key a = k ∧ (revokedAt a).isSome = true := by
  rw [isSpent, Bool.and_eq_true, beq_iff_eq]

theorem isSpent_eq_false {a : α} (h : revokedAt a = none) (k : String) : isSpent k a = false := by
  rw [isSpent, h, Option.isSome_none, Bool.and_false]

end Row

namespace Table

variable {rows rows' rows'' : List α} {a b : α}

/-! ## Growing

A table grows when its rows are kept, in their order, and others are added behind them. -/

/-- Rows were added at the end, and the others kept. -/
inductive Grows : List α → List α → Prop
  | added (news : List α) : Grows [] news
  | kept {a b : α} {rows rows' : List α} : Row.Kept a b → Grows rows rows' →
      Grows (a :: rows) (b :: rows')

namespace Grows

/-- A table grows by rows that are added behind it. -/
theorem append : ∀ rows news : List α, Grows rows (rows ++ news)
  | [], news => .added news
  | a :: rows, news => .kept (.refl a) (append rows news)

theorem refl (rows : List α) : Grows rows rows := by
  have h := append rows []
  rwa [List.append_nil] at h

/-- A table grows when each of its rows is kept. -/
theorem map {f : α → α} (hf : ∀ a, Row.Kept a (f a)) : ∀ rows : List α, Grows rows (rows.map f)
  | [] => .added []
  | a :: rows => .kept (hf a) (map hf rows)

theorem trans (h : Grows rows rows') (h' : Grows rows' rows'') : Grows rows rows'' := by
  induction h generalizing rows'' with
  | added news => exact .added rows''
  | kept hab _ ih =>
    cases h' with
    | kept hbc hrest => exact .kept (hab.trans hbc) (ih hrest)

/-- **A row is never lost**: what it was later found as, it is kept in. -/
theorem exists_kept (h : Grows rows rows') (ha : a ∈ rows) : ∃ b ∈ rows', Row.Kept a b := by
  induction h with
  | added news => cases ha
  | kept hab _ ih =>
    rcases List.mem_cons.1 ha with rfl | ha
    · exact ⟨_, List.mem_cons_self, hab⟩
    · obtain ⟨b, hb, hkept⟩ := ih ha
      exact ⟨b, List.mem_cons_of_mem _ hb, hkept⟩

/-- The ids of a table stay. -/
theorem map_id_subset (h : Grows rows rows') : rows.map Row.id ⊆ rows'.map Row.id := by
  intro id hid
  obtain ⟨a, ha, rfl⟩ := List.mem_map.1 hid
  obtain ⟨b, hb, hkept⟩ := h.exists_kept ha
  exact List.mem_map.2 ⟨b, hb, hkept.id_eq⟩

end Grows

/-! ## Soundness

In a sound table the ids count up from one and no two rows have the same text, so either of the two
names a row. -/

/-- The ids count from one, and no two rows have the same text. -/
structure Sound (rows : List α) : Prop where
  numbered : rows.map Row.id = (List.range rows.length).map fun i : ℕ => (i : Int) + 1
  distinct : (rows.map Row.key).Nodup

theorem sound_nil : Sound ([] : List α) := ⟨rfl, List.nodup_nil⟩

/-- Columns that are fixed are the same after rows were kept. -/
theorem map_map_of_kept {β : Type} {g : α → β} (hg : ∀ {a b : α}, Row.Kept a b → g b = g a)
    {f : α → α} (hf : ∀ a, Row.Kept a (f a)) (rows : List α) : (rows.map f).map g = rows.map g := by
  rw [List.map_map]
  exact List.map_congr_left fun a _ => hg (hf a)

namespace Sound

/-- No two rows have the same id. -/
theorem nodup_ids (h : Sound rows) : (rows.map Row.id).Nodup := by
  rw [h.numbered]
  refine List.Nodup.map (fun i j hij => ?_) List.nodup_range
  have : (i : Int) + 1 = (j : Int) + 1 := hij
  omega

/-- A row with the next id and a text of its own leaves the table sound. -/
theorem append (h : Sound rows) (hid : Row.id a = Store.nextId rows)
    (hkey : ∀ b ∈ rows, Row.key b ≠ Row.key a) : Sound (rows ++ [a]) where
  numbered := by
    rw [List.map_append, h.numbered, List.length_append, List.length_singleton,
      List.range_succ, List.map_append, List.map_singleton, List.map_singleton, hid]
    rfl
  distinct := by
    rw [List.map_append, List.nodup_append]
    refine ⟨h.distinct, List.nodup_singleton _, fun k hk k' hk' => ?_⟩
    obtain ⟨b, hb, rfl⟩ := List.mem_map.1 hk
    rw [List.map_singleton, List.mem_singleton] at hk'
    exact hk' ▸ hkey b hb

theorem map {f : α → α} (hf : ∀ a, Row.Kept a (f a)) (h : Sound rows) : Sound (rows.map f) where
  numbered := by
    rw [map_map_of_kept Row.Kept.id_eq hf, List.length_map]
    exact h.numbered
  distinct := by
    rw [map_map_of_kept Row.Kept.key_eq hf]
    exact h.distinct

/-- A text names one row. -/
theorem eq_of_key_eq (h : Sound rows) (ha : a ∈ rows) (hb : b ∈ rows)
    (hk : Row.key a = Row.key b) : a = b :=
  List.inj_on_of_nodup_map h.distinct ha hb hk

/-- An id names one row. -/
theorem eq_of_id_eq (h : Sound rows) (ha : a ∈ rows) (hb : b ∈ rows)
    (hid : Row.id a = Row.id b) : a = b :=
  List.inj_on_of_nodup_map h.nodup_ids ha hb hid

end Sound

/-! ## Looking up -/

/-- **In a sound table a text names one row.** -/
theorem Sound.find?_key_iff (h : Sound rows) {k : String} :
    rows.find? (fun b => Row.key b == k) = some a ↔ a ∈ rows ∧ Row.key a = k := by
  constructor
  · intro hfind
    exact ⟨List.mem_of_find?_eq_some hfind, by simpa using List.find?_some hfind⟩
  · rintro ⟨ha, rfl⟩
    exact find?_eq_some_of_unique ha (by simp) fun b hb hk =>
      h.eq_of_key_eq hb ha (by simpa using hk)

/-- In a sound table an id names one row. -/
theorem Sound.find?_id_iff (h : Sound rows) {i : Int} :
    rows.find? (fun b => Row.id b == i) = some a ↔ a ∈ rows ∧ Row.id a = i := by
  constructor
  · intro hfind
    exact ⟨List.mem_of_find?_eq_some hfind, by simpa using List.find?_some hfind⟩
  · rintro ⟨ha, rfl⟩
    exact find?_eq_some_of_unique ha (by simp) fun b hb hid =>
      h.eq_of_id_eq hb ha (by simpa using hid)

/-! ## Amending

An amendment that keeps the rows it touches makes a sound table grow into a sound one. -/

theorem kept_ite {p : α → Bool} {f : α → α} (hf : ∀ a, p a = true → Row.Kept a (f a)) (a : α) :
    Row.Kept a (if p a then f a else a) := by
  split <;> rename_i h
  · exact hf a h
  · exact .refl a

/-- **Amending keeps the rows and their order.** -/
theorem Grows.amend {p : α → Bool} {f : α → α} (hf : ∀ a, p a = true → Row.Kept a (f a))
    (hamend : Store.amend p f rows = .ok rows') : Grows rows rows' := by
  obtain ⟨-, rfl⟩ := amend_eq_ok_iff.1 hamend
  exact .map (kept_ite hf) rows

/-- **Amending leaves a sound table sound.** -/
theorem Sound.amend {p : α → Bool} {f : α → α} (hf : ∀ a, p a = true → Row.Kept a (f a))
    (h : Sound rows) (hamend : Store.amend p f rows = .ok rows') : Sound rows' := by
  obtain ⟨-, rfl⟩ := amend_eq_ok_iff.1 hamend
  exact h.map (kept_ite hf)

/-- **Revoking by text touches one row**: the one unrevoked row that has the text, in its place. -/
theorem Sound.exists_of_amend (h : Sound rows) {k : String} {f : α → α}
    (hamend : Store.amend (Row.isUsable k) f rows = .ok rows') :
    ∃ l a l', rows = l ++ a :: l' ∧ Row.isUsable k a = true ∧ rows' = l ++ f a :: l' := by
  obtain ⟨hany, rfl⟩ := amend_eq_ok_iff.1 hamend
  obtain ⟨a, ha, husable⟩ := List.any_eq_true.1 hany
  obtain ⟨l, l', rfl⟩ := List.append_of_mem ha
  have hkey : Row.key a = k := (Row.isUsable_iff.1 husable).1
  have hdistinct := h.distinct
  rw [List.map_append, List.map_cons, List.nodup_append, List.nodup_cons] at hdistinct
  obtain ⟨-, ⟨hright, -⟩, hleft⟩ := hdistinct
  -- every other row has another text, so the amendment passes it by
  have hsame : ∀ b, Row.key b ≠ k → (if Row.isUsable k b then f b else b) = b := by
    intro b hb
    rw [Row.isUsable, beq_false_of_ne hb, Bool.false_and]
    rfl
  refine ⟨l, a, l', rfl, husable, ?_⟩
  rw [List.map_append, List.map_cons, if_pos husable]
  congr 1
  · refine (List.map_congr_left fun b hb => hsame b ?_).trans (List.map_id _)
    exact hkey ▸ hleft _ (List.mem_map_of_mem hb) _ List.mem_cons_self
  · congr 1
    refine (List.map_congr_left fun b hb => hsame b ?_).trans (List.map_id _)
    intro hb'
    exact hright (List.mem_map.2 ⟨b, hb, hb'.trans hkey.symm⟩)

/-- Revoking by the text of an unrevoked row amends that row, and no other. -/
theorem Sound.amend_usable [DecidableEq α] (h : Sound rows) (ha : a ∈ rows)
    (hlive : Row.revokedAt a = none) (f : α → α) :
    Store.amend (Row.isUsable (Row.key a)) f rows =
      .ok (rows.map fun b => if b = a then f b else b) := by
  refine amend_eq_ok_iff.2 ⟨List.any_eq_true.2 ⟨a, ha, Row.isUsable_iff.2 ⟨rfl, hlive⟩⟩, ?_⟩
  refine List.map_congr_left fun b hb => if_congr ?_ rfl rfl
  rw [Row.isUsable_iff]
  constructor
  · rintro rfl
    exact ⟨rfl, hlive⟩
  · exact fun husable => h.eq_of_key_eq hb ha husable.1

/-- Amending leaves alone what is fixed. -/
theorem map_amend {β : Type} {g : α → β} (hg : ∀ {a b : α}, Row.Kept a b → g b = g a)
    {p : α → Bool} {f : α → α} (hf : ∀ a, p a = true → Row.Kept a (f a))
    (hamend : Store.amend p f rows = .ok rows') : rows'.map g = rows.map g := by
  obtain ⟨-, rfl⟩ := amend_eq_ok_iff.1 hamend
  exact map_map_of_kept hg (kept_ite hf) rows

/-- **A text is revoked once.** -/
theorem Sound.amend_revoked (h : Sound rows) (ha : a ∈ rows)
    (hrevoked : (Row.revokedAt a).isSome = true) (f : α → α) :
    Store.amend (Row.isUsable (Row.key a)) f rows = .error .notFound := by
  refine amend_eq_error_iff.2 ⟨?_, rfl⟩
  rw [List.any_eq_false]
  intro b hb husable
  obtain ⟨hkey, hlive⟩ := Row.isUsable_iff.1 husable
  rw [← h.eq_of_key_eq hb ha hkey, hlive] at hrevoked
  cases hrevoked

/-! ## Spent rows

A row is spent once it is revoked.  Counting the spent rows of a text tells whether the text was
revoked, since only one row has it. -/

section Spent

variable {k : String}

/-- A text is spent once, if ever. -/
theorem Sound.countP_isSpent_le_one (h : Sound rows) : rows.countP (Row.isSpent k) ≤ 1 :=
  calc rows.countP (Row.isSpent k) ≤ rows.countP (fun a => Row.key a == k) :=
        List.countP_mono_left fun a _ ha => beq_iff_eq.2 (Row.isSpent_iff.1 ha).1
    _ = (rows.map Row.key).count k := by rw [List.count, List.countP_map]; rfl
    _ ≤ 1 := List.nodup_iff_count_le_one.1 h.distinct k

/-- The text of a row is spent if the row is revoked. -/
theorem Sound.any_isSpent (h : Sound rows) (ha : a ∈ rows) :
    rows.any (Row.isSpent (Row.key a)) = (Row.revokedAt a).isSome := by
  rw [Bool.eq_iff_iff, List.any_eq_true]
  constructor
  · rintro ⟨b, hb, hspent⟩
    obtain ⟨hkey, hrevoked⟩ := Row.isSpent_iff.1 hspent
    exact h.eq_of_key_eq hb ha hkey ▸ hrevoked
  · intro hrevoked
    exact ⟨a, ha, Row.isSpent_iff.2 ⟨rfl, hrevoked⟩⟩

/-- A row is revoked when its text is spent. -/
theorem Sound.isSome_revokedAt_iff (h : Sound rows) (ha : a ∈ rows) :
    (Row.revokedAt a).isSome = true ↔ rows.countP (Row.isSpent (Row.key a)) = 1 := by
  have hle := h.countP_isSpent_le_one (k := Row.key a)
  rw [← h.any_isSpent ha, List.any_eq_true, ← List.countP_pos_iff]
  omega

/-- **Revoking by text spends that text** and no other. -/
theorem Sound.countP_isSpent_amend (h : Sound rows) {f : α → α}
    (hamend : Store.amend (Row.isUsable k) f rows = .ok rows')
    (hkey : ∀ a, Row.key (f a) = Row.key a) (hrevoked : ∀ a, (Row.revokedAt (f a)).isSome = true)
    (k' : String) :
    rows'.countP (Row.isSpent k') = rows.countP (Row.isSpent k') + if k = k' then 1 else 0 := by
  obtain ⟨l, a, l', rfl, husable, rfl⟩ := h.exists_of_amend hamend
  obtain ⟨ha, hlive⟩ := Row.isUsable_iff.1 husable
  have hspent : Row.isSpent k' (f a) = decide (k = k') := by
    rw [Row.isSpent, hkey, ha, hrevoked, Bool.and_true]
    rfl
  rw [List.countP_append, List.countP_append, List.countP_cons, List.countP_cons, hspent,
    Row.isSpent_eq_false hlive]
  simp only [decide_eq_true_eq, Bool.false_eq_true, if_false]
  omega

end Spent

/-! ## Usable rows

The usable texts of a table are those that a redemption can still mark. -/

/-- The texts of the rows that are not revoked. -/
def usable (rows : List α) : List String :=
  (rows.filter fun a => (Row.revokedAt a).isNone).map Row.key

/-- A text is usable if a row that is not revoked has it. -/
theorem mem_usable_iff {k : String} :
    k ∈ usable rows ↔ ∃ a ∈ rows, Row.revokedAt a = none ∧ Row.key a = k := by
  simp only [usable, List.mem_map, List.mem_filter, Option.isNone_iff_eq_none, and_assoc]

theorem usable_append (rows news : List α) :
    usable (rows ++ news) = usable rows ++ usable news := by
  rw [usable, List.filter_append, List.map_append]
  rfl

theorem usable_of_unrevoked (h : ∀ a ∈ rows, Row.revokedAt a = none) :
    usable rows = rows.map Row.key := by
  rw [usable, List.filter_eq_self.2 fun a ha => by rw [h a ha]; rfl]

/-- A revoked row contributes no usable text. -/
theorem usable_cons_of_revoked (h : (Row.revokedAt a).isSome = true) (rows : List α) :
    usable (a :: rows) = usable rows := by
  rw [usable, List.filter_cons, Option.isNone_eq_false_iff.2 h]
  rfl

/-- **Revoking by text takes that text** from the usable ones. -/
theorem Sound.perm_usable_amend (h : Sound rows) {k : String} {f : α → α}
    (hamend : Store.amend (Row.isUsable k) f rows = .ok rows')
    (hrevoked : ∀ a, (Row.revokedAt (f a)).isSome = true) :
    (usable rows).Perm (k :: usable rows') := by
  obtain ⟨l, a, l', rfl, husable, rfl⟩ := h.exists_of_amend hamend
  obtain ⟨hkey, hlive⟩ := Row.isUsable_iff.1 husable
  have htaken : usable (a :: l') = k :: usable l' := by
    rw [usable, List.filter_cons, hlive, Option.isNone_none, if_pos rfl, List.map_cons, hkey]
    rfl
  rw [usable_append, usable_append, htaken, usable_cons_of_revoked (hrevoked a)]
  exact List.perm_middle

end Table

end OAuthGateway

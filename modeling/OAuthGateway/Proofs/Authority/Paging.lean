import OAuthGateway.Proofs.Authority.Move
import OAuthGateway.Proofs.Store.Session

/-!
# Proofs/Authority/Paging — reading all applications page by page

A client pages through the applications: it asks for the windows at `0`, `L`, `2 * L`, … one after
the other, and asks again for a page that was not answered.  A page is two queries, the number of
all applications and the rows of the window; before a page, and between its two queries, any moves
of other requests may happen (`Turn`), so every page is of another moment.

The engine is `Sound.mem_window_iff`: in a sound table ids are places, so a window is a range of
ids.  Pages are then ranges that follow each other, whatever was added or changed in between
(`Paging.Covers`), and a page that is not full ends behind the last row there is.
-/

namespace OAuthGateway

open Time Procedure

/-! ## Windows of a table

In a sound table the ids are the places, so a window of places is one of ids. -/

namespace Table

variable {α : Type} [Row α] {rows : List α} {a : α} {w : Window}

/-- In a sound table the id of a row is its place, counted from one. -/
theorem Sound.id_eq_of_getElem? (h : Sound rows) {i : ℕ} (ha : rows[i]? = some a) :
    Row.id a = i + 1 := by
  have hmap : (rows.map Row.id)[i]? = some (Row.id a) := by rw [List.getElem?_map, ha]; rfl
  have hlt : i < rows.length := (List.getElem?_eq_some_iff.1 ha).1
  rw [h.numbered, List.getElem?_map, List.getElem?_range hlt] at hmap
  exact (Option.some.inj hmap).symm

/-- Ids count from one up to the number of rows. -/
theorem Sound.id_bounds (h : Sound rows) (ha : a ∈ rows) :
    1 ≤ Row.id a ∧ Row.id a ≤ rows.length := by
  obtain ⟨i, hi, rfl⟩ := List.getElem_of_mem ha
  rw [h.id_eq_of_getElem? (List.getElem?_eq_getElem hi)]
  omega

/-- **A window of a sound table is a range of ids.** -/
theorem Sound.mem_window_iff (h : Sound rows) (hoffset : 0 ≤ w.offset) (hlimit : 0 ≤ w.limit) :
    a ∈ Store.window w rows ↔
      a ∈ rows ∧ w.offset < Row.id a ∧ Row.id a ≤ w.offset + w.limit := by
  have hwindow : Store.window w rows = (rows.drop w.offset.toNat).take w.limit.toNat := by
    simp only [Store.window, if_neg (Int.not_lt.2 hlimit)]
  simp only [hwindow, List.mem_iff_getElem? (l := List.take _ _), List.getElem?_take,
    List.getElem?_drop, Option.ite_none_right_eq_some]
  constructor
  · rintro ⟨i, hlt, hi⟩
    have hid := h.id_eq_of_getElem? hi
    exact ⟨List.mem_of_getElem? hi, by omega, by omega⟩
  · rintro ⟨ha, hlo, hhi⟩
    obtain ⟨i, hi⟩ := List.mem_iff_getElem?.1 ha
    have hid := h.id_eq_of_getElem? hi
    refine ⟨i - w.offset.toNat, by omega, ?_⟩
    rwa [show w.offset.toNat + (i - w.offset.toNat) = i by omega]

omit [Row α] in
/-- A window is full, or goes up to the last row. -/
theorem length_window (hoffset : 0 ≤ w.offset) (hlimit : 0 ≤ w.limit) :
    ((Store.window w rows).length : Int) = min w.limit (max 0 (rows.length - w.offset)) := by
  simp only [Store.window, if_neg (Int.not_lt.2 hlimit), List.length_take, List.length_drop]
  omega

/-- The ids in a window increase. -/
theorem Sound.increasing_window (h : Sound rows) (w : Window) :
    ((Store.window w rows).map Row.id).Pairwise (· < ·) := by
  refine h.ordered.ids.sublist (List.Sublist.map _ ?_)
  simp only [Store.window]
  split
  · exact List.drop_sublist _ _
  · exact (List.take_sublist _ _).trans (List.drop_sublist _ _)

theorem Grows.length_le {rows' : List α} (h : Grows rows rows') : rows.length ≤ rows'.length := by
  induction h with
  | added news => exact Nat.zero_le _
  | kept _ _ ih => exact Nat.succ_le_succ ih

end Table

/-! ## A page, query by query

The rows may change between the two queries of a page, so each tells of its own moment. -/

namespace Registry

/-- The first query of a page: the number of all applications. -/
def counted : Procedure Refusal ℕ :=
  Database.applicationCount.mapError fun _ => .internal .listApplications

/-- The second query of a page: the applications of the window. -/
def shown (w : Window) (total : ℕ) : Procedure Refusal ApplicationList := do
  let items ← (Database.applications w).mapError fun _ => .internal .listApplications
  return ⟨items, ⟨w.offset, w.limit, total⟩⟩

variable {faults : Faults} {s : Store} {n : ℕ} {db : Database}

end Registry

/-! ## Paging

A client keeps the pages that were answered, and asks for the window behind them. -/

/-- One attempt to read the next page, with the moves of others before it and between its two
queries, and the faults of the two. -/
structure Turn where
  before : List Move
  counting : Faults
  between : List Move
  showing : Faults

/-- A page that was read, and the rows at that moment. -/
structure Page where
  list : ApplicationList
  seen : Store

/-- The traffic, and the pages read so far, in their order. -/
structure Paging where
  traffic : Traffic
  pages : List Page

namespace Traffic

/-- The answer of a query to the committed rows, and the traffic after it. -/
def query {α : Type} (w : Traffic) (faults : Faults) (p : Procedure Refusal α) :
    Except Refusal α × Traffic :=
  let (answer, db) := p.perform faults (.ofStore w.store)
  (answer, { w with store := db.committed })

variable {α : Type} {w w' : Traffic} {faults : Faults}

end Traffic

namespace Paging

/-- All applications on the pages, in their order. -/
def items (p : Paging) : List Application := p.pages.flatMap fun page => page.list.items

/-- The window of the page after those that were read. -/
def nextWindow (limit : Int) (p : Paging) : Window :=
  .clamped (some (limit * p.pages.length)) (some limit)

variable (auth : Authority) (limit : Int)

/-- The paging with one more page, read from the rows that are there. -/
def add (p : Paging) (list : ApplicationList) : Paging :=
  ⟨p.traffic, p.pages ++ [⟨list, p.traffic.store⟩]⟩

theorem items_add (p : Paging) (list : ApplicationList) :
    (p.add list).items = p.items ++ list.items := by
  simp [items, add]

/-- The paging after one more turn. -/
def step (p : Paging) (t : Turn) : Paging :=
  match (t.before.foldl (Traffic.step auth) p.traffic).query t.counting Registry.counted with
  | (.error _, w) => { p with traffic := w }
  | (.ok total, w) =>
    match (t.between.foldl (Traffic.step auth) w).query t.showing
      (Registry.shown (p.nextWindow limit) total) with
    | (.error _, w) => { p with traffic := w }
    | (.ok list, w) => { p with traffic := w }.add list

/-- The paging after some turns, begun when some moves have happened. -/
def after (moves : List Move) (turns : List Turn) : Paging :=
  turns.foldl (step auth limit) ⟨.after auth moves, []⟩

variable {auth limit}

section NextWindow

variable (p : Paging) (hlimit : 1 ≤ limit ∧ limit ≤ Window.maxLimit)

include hlimit

/-- The next window begins behind the pages that were read. -/
theorem nextWindow_eq : p.nextWindow limit = ⟨limit * p.pages.length, limit⟩ := by
  have hoffset : 0 ≤ limit * p.pages.length := Int.mul_nonneg (by omega) (by omega)
  simp only [nextWindow, Window.clamped, Option.getD_some, Window.mk.injEq, Window.maxLimit]
    at hlimit ⊢
  omega

theorem nextWindow_nonneg : 0 ≤ (p.nextWindow limit).offset ∧ 0 ≤ (p.nextWindow limit).limit := by
  rw [nextWindow_eq p hlimit]
  exact ⟨Int.mul_nonneg (by omega) (by omega), by dsimp only; omega⟩

/-- The next page goes on where the pages end, and ends where the one after it goes on. -/
theorem mem_nextWindow_iff {s : Store} (hs : s.Sound) {a : Application} :
    a ∈ Store.window (p.nextWindow limit) s.applications ↔ a ∈ s.applications ∧
      limit * p.pages.length < a.id ∧ a.id ≤ limit * p.pages.length + limit := by
  obtain ⟨hoffset, hcount⟩ := nextWindow_nonneg p hlimit
  have hiff := hs.applications.mem_window_iff (a := a) hoffset hcount
  rwa [nextWindow_eq p hlimit] at hiff ⊢

/-- A next page that is not full ends behind the last row. -/
theorem length_lt_of_short {rows : List Application}
    (hshort : ((Store.window (p.nextWindow limit) rows).length : Int) < limit) :
    (rows.length : Int) < limit * p.pages.length + limit := by
  obtain ⟨hoffset, hcount⟩ := nextWindow_nonneg p hlimit
  rw [Table.length_window hoffset hcount, nextWindow_eq p hlimit] at hshort
  dsimp only at hshort
  omega

end NextWindow

/-! ### What the pages cover -/

/-- The pages follow each other without a gap: they hold no id twice, none beyond their windows, and
all that the first page could have seen within them; and one that is not full was the last needed.
-/
structure Covers (limit : Int) (p : Paging) : Prop where
  increasing : (p.items.map (·.id)).Pairwise (· < ·)
  below : ∀ a ∈ p.items, a.id ≤ limit * p.pages.length
  sound : ∀ page ∈ p.pages, page.seen.Sound
  leads : ∀ page ∈ p.pages, page.seen.Leads p.traffic.store
  kept : ∀ first, p.pages.head? = some first → ∀ a ∈ first.seen.applications,
    a.id ≤ limit * p.pages.length → ∃ b ∈ p.items, Row.Kept a b
  ends : ∀ first, p.pages.head? = some first → ∀ page ∈ p.pages,
    page.list.items.length < limit →
      (first.seen.applications.length : Int) < limit * p.pages.length

namespace Covers

variable {p : Paging} {moves : List Move}

theorem start (limit : Int) (w : Traffic) : Covers limit ⟨w, []⟩ where
  increasing := .nil
  below _ ha := by simp [items] at ha
  sound _ hpage := by simp at hpage
  leads _ hpage := by simp at hpage
  kept _ hfirst := by simp at hfirst
  ends _ hfirst := by simp at hfirst

/-- The rows that the first page saw lead to those that are there. -/
theorem leads_first (h : Covers limit p) {list : ApplicationList} {first : Page}
    (hfirst : (p.add list).pages.head? = some first) :
    first.seen.Leads p.traffic.store := by
  have hmem := List.mem_of_mem_head? hfirst
  simp only [add, List.mem_append, List.mem_singleton] at hmem
  rcases hmem with hmem | rfl
  · exact h.leads first hmem
  · exact .refl _

section Page

variable {list : ApplicationList} (h : Covers limit p)
  (hlimit : 1 ≤ limit ∧ limit ≤ Window.maxLimit) (hp : p.traffic.store.Sound)
  (hlist : list.items = Store.window (p.nextWindow limit) p.traffic.store.applications)

include h hlimit hp hlist

/-- One more page continues the increasing ids. -/
theorem increasing_page : ((p.add list).items.map (·.id)).Pairwise (· < ·) := by
  rw [items_add, List.map_append, List.pairwise_append]
  refine ⟨h.increasing, hlist ▸ hp.applications.increasing_window _, ?_⟩
  simp only [List.mem_map, hlist]
  rintro _ ⟨a, ha, rfl⟩ _ ⟨b, hb, rfl⟩
  have hbelow := h.below a ha
  have habove := ((p.mem_nextWindow_iff hlimit hp).1 hb).2.1
  omega

/-- What the first page could have seen is on the old pages, or on the new one. -/
theorem kept_page {first : Page} (hfirst : (p.add list).pages.head? = some first)
    {a : Application} (ha : a ∈ first.seen.applications)
    (hid : a.id ≤ limit * p.pages.length + limit) : ∃ b ∈ (p.add list).items, Row.Kept a b := by
  rw [items_add]
  simp only [add, List.head?_append] at hfirst
  rcases hpages : p.pages.head? with _ | first' <;> rw [hpages] at hfirst <;> cases hfirst
  · -- the new page is the first one
    have hnone : p.pages.length = 0 := by rw [List.head?_eq_none_iff.1 hpages]; rfl
    have hbounds : 1 ≤ a.id ∧ _ := hp.applications.id_bounds ha
    refine ⟨a, List.mem_append_right _ ?_, .refl a⟩
    rw [hlist, p.mem_nextWindow_iff hlimit hp, hnone]
    rw [hnone] at hid
    exact ⟨ha, by omega, hid⟩
  · by_cases hread : a.id ≤ limit * p.pages.length
    · obtain ⟨b, hb, hkept⟩ := h.kept first hpages a ha hread
      exact ⟨b, List.mem_append_left _ hb, hkept⟩
    · have hleads := h.leads first (List.mem_of_mem_head? hpages)
      obtain ⟨b, hb, hkept⟩ := hleads.grows.applications.exists_kept ha
      have hbid : b.id = a.id := hkept.id_eq
      refine ⟨b, List.mem_append_right _ ?_, hkept⟩
      rw [hlist, p.mem_nextWindow_iff hlimit hp]
      exact ⟨hb, by omega, by omega⟩

omit hp in
/-- A page that is not full ends behind all that the first page could have seen. -/
theorem ends_page {first page : Page} (hfirst : (p.add list).pages.head? = some first)
    (hpage : page ∈ (p.add list).pages) (hshort : page.list.items.length < limit) :
    (first.seen.applications.length : Int) < limit * p.pages.length + limit := by
  simp only [add, List.mem_append, List.mem_singleton] at hpage
  rcases hpage with hpage | rfl
  · have hsame : (p.add list).pages.head? = p.pages.head? :=
      List.head?_append_of_ne_nil _ (List.ne_nil_of_mem hpage)
    have := h.ends first (hsame ▸ hfirst) page hpage hshort
    omega
  · have hlast := p.length_lt_of_short hlimit (hlist ▸ hshort)
    have hgrows := (h.leads_first hfirst).grows.applications.length_le
    omega

/-- **The next window goes on where the pages end.** -/
theorem page : Covers limit (p.add list) := by
  have hbound : limit * ((p.add list).pages.length : Int) = limit * p.pages.length + limit := by
    simp [add, Int.mul_add]
  have hpages : ∀ page ∈ (p.add list).pages, page ∈ p.pages ∨ page = ⟨list, p.traffic.store⟩ := by
    simp [add]
  refine ⟨h.increasing_page hlimit hp hlist, fun a ha => ?_, fun page hpage => ?_,
    fun page hpage => ?_,
    fun first hfirst a ha hid => h.kept_page hlimit hp hlist hfirst ha (hbound ▸ hid),
    fun first hfirst page hpage hshort => hbound ▸ h.ends_page hlimit hlist hfirst hpage hshort⟩
  · rw [hbound]
    rcases List.mem_append.1 (items_add p list ▸ ha) with ha | ha
    · have := h.below a ha
      omega
    · exact ((p.mem_nextWindow_iff hlimit hp).1 (hlist ▸ ha)).2.2
  · rcases hpages page hpage with hpage | rfl
    · exact h.sound page hpage
    · exact hp
  · rcases hpages page hpage with hpage | rfl
    · exact h.leads page hpage
    · exact .refl _

end Page

end Covers

end Paging

/-! ### A desk

Two applications are registered; one page is read; a third application is registered and the first
revoked; the next page is read, at the second attempt. -/

namespace Desk

/-- Fresh credentials, told apart by a number. -/
def fresh (n : ℕ) : Credential.Fresh := { Race.fresh n with clientUid := s!"uid{n}" }

/-- An application is registered. -/
def register (n : ℕ) : Move := .administer (.create Race.form) .epoch (fresh n) .none

/-- The number of applications cannot be had. -/
def uncounted : Faults := fun _ call => if call = .applicationCount then some .database else none

def turns : List Turn :=
  [⟨[], .none, [], .none⟩, ⟨[register 3], uncounted, [], .none⟩,
    ⟨[], .none, [.administer (.revoke 1) .epoch (fresh 4) .none], .none⟩]

end Desk

namespace Paging

end Paging

end OAuthGateway

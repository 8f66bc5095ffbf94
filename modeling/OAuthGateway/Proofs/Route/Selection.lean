import Mathlib.Data.List.Basic
import OAuthGateway.Route.Table

/-!
# Proofs/Route/Selection — the route of a request is the last of the longest

`find` keeps a running choice over the routes that apply.  `find_eq_some_iff` says what it comes to
without the running: a route is `Chosen` when it applies, none that applies has a longer path, and
none after it has an equally long one.  Some route is chosen as soon as one applies
(`exists_chosen`), so a request to which more routes apply gets a route at least as long
(`exists_find_of_accepts`), and the same one exactly if that applies to both (`find_eq_find_iff`).
-/

namespace OAuthGateway

open Text

/-- **What a route matches**: its own path and what a slash continues it with; `/` matches all. -/
theorem Route.matchesPath_iff {r : Route} {path : String} :
    r.matchesPath path = true ↔ r.path = "/" ∨
      ∃ rest, path.toList = r.path.toList ++ rest ∧ (rest = [] ∨ rest.head? = some '/') := by
  rw [matchesPath, Bool.or_eq_true, decide_eq_true_eq]
  refine or_congr_right ?_
  constructor
  · intro h
    split at h
    · rename_i hafter
      exact ⟨[], after?_eq_some_iff.1 hafter, .inl rfl⟩
    · rename_i rest hafter
      exact ⟨'/' :: rest, after?_eq_some_iff.1 hafter, .inr rfl⟩
    · cases h
  · rintro ⟨rest, hpath, hrest⟩
    rw [after?_eq_some_iff.2 hpath]
    rcases hrest with rfl | hslash
    · rfl
    · obtain ⟨rest', rfl⟩ := List.head?_eq_some_iff.1 hslash
      rfl

namespace RouteTable

/-- The last of the longest routes that apply. -/
def Chosen (applies : Route → Bool) (routes : List Route) (r : Route) : Prop :=
  applies r = true ∧ ∃ before after, routes = before ++ r :: after ∧
    (∀ r' ∈ before, applies r' = true → r'.path.utf8ByteSize ≤ r.path.utf8ByteSize) ∧
    ∀ r' ∈ after, applies r' = true → r'.path.utf8ByteSize < r.path.utf8ByteSize

/-- Among those that apply, the chosen route is one of the longest. -/
theorem Chosen.longest {applies : Route → Bool} {routes : List Route} {r r' : Route}
    (h : Chosen applies routes r) (hr' : r' ∈ routes) (happlies : applies r' = true) :
    r'.path.utf8ByteSize ≤ r.path.utf8ByteSize := by
  obtain ⟨-, before, after, rfl, hbefore, hafter⟩ := h
  rcases List.mem_append.1 hr' with hmem | hmem
  · exact hbefore r' hmem happlies
  · rcases List.mem_cons.1 hmem with rfl | hmem
    · exact Nat.le_refl _
    · exact Nat.le_of_lt (hafter r' hmem happlies)

/-! ## The running choice -/

theorem better_of_longest {earlier : Option Route} {r : Route}
    (h : ∀ r', earlier = some r' → r'.path.utf8ByteSize ≤ r.path.utf8ByteSize) :
    better earlier r = some r := by
  cases earlier with
  | none => rfl
  | some r' => exact if_pos (h r' rfl)

theorem foldl_better_of_shorter {r : Route} {later : List Route}
    (h : ∀ r' ∈ later, r'.path.utf8ByteSize < r.path.utf8ByteSize) :
    later.foldl better (some r) = some r := by
  induction later with
  | nil => rfl
  | cons r' later ih =>
    have hshorter := h r' List.mem_cons_self
    have hkept : better (some r) r' = some r := if_neg (by omega)
    rw [List.foldl_cons, hkept]
    exact ih fun r'' hr'' => h r'' (List.mem_cons_of_mem _ hr'')

theorem mem_of_foldl_better {routes : List Route} {start : Option Route} {r : Route}
    (h : routes.foldl better start = some r) : r ∈ routes ∨ start = some r := by
  induction routes generalizing start with
  | nil => exact .inr h
  | cons r' routes ih =>
    rw [List.foldl_cons] at h
    have hbetter : better start r' = some r' ∨ better start r' = start := by
      cases start with
      | none => exact .inl rfl
      | some r₀ => exact ite_eq_or_eq _ _ _
    rcases ih h with hmem | hchosen
    · exact .inl (List.mem_cons_of_mem _ hmem)
    · rcases hbetter with hnew | hold
      · obtain rfl : r' = r := Option.some.inj (hnew.symm.trans hchosen)
        exact .inl List.mem_cons_self
      · exact .inr (hold.symm.trans hchosen)

/-! ## What the choice comes to -/

/-- **As soon as some route applies, one is chosen.** -/
theorem exists_chosen (applies : Route → Bool) {routes : List Route} {r : Route}
    (hr : r ∈ routes) (happlies : applies r = true) : ∃ r', Chosen applies routes r' := by
  induction routes generalizing r with
  | nil => exact absurd hr List.not_mem_nil
  | cons first routes ih =>
    by_cases hrest : ∃ r' ∈ routes, applies r' = true
    · obtain ⟨r', hr', happlies'⟩ := hrest
      obtain ⟨last, hchosen⟩ := ih hr' happlies'
      by_cases hlonger : applies first = true ∧ last.path.utf8ByteSize < first.path.utf8ByteSize
      · -- the first route is longer than the longest of the others
        refine ⟨first, hlonger.1, [], routes, rfl, by simp, fun r'' hr'' happlies'' => ?_⟩
        have hle := hchosen.longest hr'' happlies''
        omega
      · obtain ⟨hlast, before, after, rfl, hbefore, hafter⟩ := hchosen
        refine ⟨last, hlast, first :: before, after, rfl, fun r'' hr'' happlies'' => ?_, hafter⟩
        rcases List.mem_cons.1 hr'' with rfl | hmem
        · have := not_and.1 hlonger happlies''
          omega
        · exact hbefore r'' hmem happlies''
    · rcases List.mem_cons.1 hr with rfl | hmem
      · refine ⟨r, happlies, [], routes, rfl, by simp, fun r' hr' happlies' => ?_⟩
        exact absurd ⟨r', hr', happlies'⟩ hrest
      · exact absurd ⟨r, hmem, happlies⟩ hrest

theorem foldl_better_of_chosen {applies : Route → Bool} {routes : List Route} {r : Route}
    (h : Chosen applies routes r) : (routes.filter applies).foldl better none = some r := by
  obtain ⟨happlies, before, after, rfl, hbefore, hafter⟩ := h
  have hlongest : better ((before.filter applies).foldl better none) r = some r := by
    refine better_of_longest fun r' hr' => ?_
    rcases mem_of_foldl_better hr' with hmem | hnone
    · exact hbefore r' (List.mem_of_mem_filter hmem) (List.of_mem_filter hmem)
    · cases hnone
  rw [List.filter_append, List.filter_cons_of_pos happlies, List.foldl_append, List.foldl_cons,
    hlongest]
  refine foldl_better_of_shorter fun r' hr' => ?_
  exact hafter r' (List.mem_of_mem_filter hr') (List.of_mem_filter hr')

variable {t : RouteTable} {method path path' : String} {r : Route}

theorem find_mem (h : t.find method path = some r) :
    r ∈ t.routes ∧ r.accepts method path = true := by
  rcases mem_of_foldl_better h with hmem | hnone
  · exact List.mem_filter.1 hmem
  · cases hnone

/-- **The route of a request is the last of the longest that apply.** -/
theorem find_eq_some_iff :
    t.find method path = some r ↔ Chosen (fun r => r.accepts method path) t.routes r := by
  constructor
  · intro h
    obtain ⟨hmem, haccepts⟩ := find_mem h
    obtain ⟨r', hchosen⟩ := exists_chosen (fun r => r.accepts method path) hmem haccepts
    have hsame : some r' = some r := (foldl_better_of_chosen hchosen).symm.trans h
    exact Option.some.inj hsame ▸ hchosen
  · exact foldl_better_of_chosen

theorem find_eq_none_iff :
    t.find method path = none ↔ ∀ r ∈ t.routes, r.accepts method path = false := by
  constructor
  · intro h r hr
    by_contra haccepts
    obtain ⟨r', hchosen⟩ := exists_chosen (fun r => r.accepts method path) hr
      (by simpa using haccepts)
    rw [find_eq_some_iff.2 hchosen] at h
    cases h
  · intro h
    rw [find, List.filter_eq_nil_iff.2 fun r hr => by simp [h r hr]]
    rfl

/-! ## Two requests -/

section Widened

variable (hwider : ∀ r ∈ t.routes, r.accepts method path = true → r.accepts method path' = true)

include hwider

/-- Where more routes apply, the route is no shorter. -/
theorem exists_find_of_accepts (h : t.find method path = some r) :
    ∃ r', t.find method path' = some r' ∧ r.path.utf8ByteSize ≤ r'.path.utf8ByteSize := by
  obtain ⟨hmem, haccepts⟩ := find_mem h
  have haccepts' := hwider r hmem haccepts
  obtain ⟨r', hchosen⟩ := exists_chosen (fun r => r.accepts method path') hmem haccepts'
  exact ⟨r', find_eq_some_iff.2 hchosen, hchosen.longest hmem haccepts'⟩

theorem find_eq_some_of_accepts (h : t.find method path' = some r)
    (haccepts : r.accepts method path = true) : t.find method path = some r := by
  obtain ⟨-, before, after, hsplit, hbefore, hafter⟩ := find_eq_some_iff.1 h
  have hmem : ∀ r' ∈ before ++ after, r' ∈ t.routes := by
    intro r' hr'
    rw [hsplit]
    rcases List.mem_append.1 hr' with hr' | hr'
    · exact List.mem_append_left _ hr'
    · exact List.mem_append_right _ (List.mem_cons_of_mem _ hr')
  refine find_eq_some_iff.2 ⟨haccepts, before, after, hsplit, ?_, ?_⟩
  · intro r' hr' haccepts'
    exact hbefore r' hr' (hwider r' (hmem r' (List.mem_append_left _ hr')) haccepts')
  · intro r' hr' haccepts'
    exact hafter r' hr' (hwider r' (hmem r' (List.mem_append_right _ hr')) haccepts')

/-- **Where more routes apply, the route is the same exactly if it is one of the fewer.** -/
theorem find_eq_find_iff :
    t.find method path = t.find method path' ↔
      ∀ r, t.find method path' = some r → r.accepts method path = true := by
  constructor
  · intro hsame r hr
    exact (find_mem (hsame.trans hr)).2
  · intro haccepts
    cases hfind : t.find method path' with
    | some r => exact find_eq_some_of_accepts hwider hfind (haccepts r hfind)
    | none =>
      refine find_eq_none_iff.2 fun r hr => ?_
      by_contra happlies
      have happlies' := hwider r hr (by simpa using happlies)
      rw [find_eq_none_iff.1 hfind r hr] at happlies'
      cases happlies'

end Widened

end RouteTable

/-! ## A table

The site is open to anyone, except for one part of it. -/

namespace Site

def front : Route := ⟨"front", "/", "http://web.internal", .anyone, none, none, false⟩

def admin : Route := ⟨"admin", "/admin", "http://web.internal", .token, some "admin", none, false⟩

def table : RouteTable := ⟨[front, admin]⟩

end Site

end OAuthGateway

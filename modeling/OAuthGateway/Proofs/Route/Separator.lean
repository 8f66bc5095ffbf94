import Mathlib.Data.List.Basic
import OAuthGateway.Proofs.Route.Selection

/-!
# Proofs/Route/Separator — what a backslash does to the choice of a route

Behind the gateway a backslash in a path separates segments as a slash does, and the screen for dot
segments knows that; matching does not.  `slashed` writes slashes for backslashes.  Over routes
without backslashes, every route that matches a path matches it slashed, and the other way round
exactly if no backslash stands in the route's part of the path or right behind it
(`matchesPath_iff_slashed`).  So a backslash never leads to a longer route, and it leads to another
one exactly if it stands there for the route of the slashed path (`find_eq_find_slashed_iff`); that
does happen (`backslash_evades`).
-/

namespace OAuthGateway

namespace Path

/-- A separator as a slash. -/
def slash (c : Char) : Char := if c = '\\' then '/' else c

/-- The path with slashes for its backslashes. -/
def slashed (path : String) : String := String.ofList (path.toList.map slash)

theorem slash_of_ne {c : Char} (h : c ≠ '\\') : slash c = c := if_neg h

theorem slash_eq_slash_iff {c : Char} : slash c = '/' ↔ c = '/' ∨ c = '\\' := by
  by_cases h : c = '\\'
  · simp [slash, h]
  · rw [slash_of_ne h]
    exact (or_iff_left h).symm

/-- A text without backslashes stays as it is. -/
theorem map_slash_eq {cs : List Char} (h : '\\' ∉ cs) : cs.map slash = cs := by
  refine (List.map_congr_left fun c hc => slash_of_ne ?_).trans (List.map_id _)
  rintro rfl
  exact h hc

theorem toList_slashed (path : String) : (slashed path).toList = path.toList.map slash :=
  String.toList_ofList

end Path

open OAuthGateway.Path

namespace Route

variable {r : Route} {path : String}

/-- No backslash stands in the part of the path that is the route's, or right behind it. -/
def ClearOf (r : Route) (path : String) : Prop :=
  '\\' ∉ path.toList.take (r.path.toList.length + 1)

instance : Decidable (r.ClearOf path) := inferInstanceAs (Decidable (¬ _))

/-- **A route matches a path if it matches it slashed and no backslash stands in its part of the
path.** -/
theorem matchesPath_iff_slashed (hplain : '\\' ∉ r.path.toList) :
    r.matchesPath path = true ↔
      r.matchesPath (slashed path) = true ∧ (r.path = "/" ∨ r.ClearOf path) := by
  rw [matchesPath_iff, matchesPath_iff, toList_slashed, ← or_and_left]
  refine or_congr_right ?_
  constructor
  · rintro ⟨rest, hpath, hrest⟩
    refine ⟨⟨rest.map slash, ?_, ?_⟩, ?_⟩
    · rw [hpath, List.map_append, map_slash_eq hplain]
    · rcases hrest with rfl | hslash
      · exact .inl rfl
      · refine .inr ?_
        rw [List.head?_map, hslash]
        rfl
    · intro hmem
      rw [hpath, List.take_length_add_append, List.mem_append] at hmem
      rcases hmem with hown | hnext
      · exact hplain hown
      · rcases hrest with rfl | hslash
        · cases hnext
        · obtain ⟨rest', rfl⟩ := List.head?_eq_some_iff.1 hslash
          simp at hnext
  · rintro ⟨⟨rest, hpath, hrest⟩, hclear⟩
    obtain ⟨own, rest', hsplit, hown, hrest'⟩ := List.map_eq_append_iff.1 hpath
    have hlength : own.length = r.path.toList.length := by rw [← hown, List.length_map]
    rw [ClearOf, hsplit, ← hlength, List.take_length_add_append, List.mem_append, not_or] at hclear
    rw [map_slash_eq hclear.1] at hown
    refine ⟨rest', by rw [hsplit, hown], ?_⟩
    rcases rest' with _ | ⟨c, rest'⟩
    · exact .inl rfl
    · refine .inr ?_
      rw [← hrest', List.map_cons] at hrest
      have hc : slash c = '/' := by simpa using hrest
      rcases slash_eq_slash_iff.1 hc with rfl | rfl
      · rfl
      · exact absurd List.mem_cons_self hclear.2

theorem accepts_iff_slashed {method : String} (hplain : '\\' ∉ r.path.toList) :
    r.accepts method path = true ↔
      r.accepts method (slashed path) = true ∧ (r.path = "/" ∨ r.ClearOf path) := by
  rw [accepts, accepts, Bool.and_eq_true, Bool.and_eq_true, matchesPath_iff_slashed hplain]
  exact and_right_comm

end Route

namespace RouteTable

/-- **Where a backslash changes the route.**  Over routes without backslashes, a path gets the route
of the slashed path exactly if no backslash stands in that route's part of the path or right behind
it; and whatever route it gets, that of the slashed path is no shorter. -/
theorem find_eq_find_slashed_iff {t : RouteTable} (hplain : ∀ r ∈ t.routes, '\\' ∉ r.path.toList)
    (method path : String) :
    (t.find method path = t.find method (slashed path) ↔
      ∀ r, t.find method (slashed path) = some r → r.path = "/" ∨ r.ClearOf path) ∧
    ∀ r, t.find method path = some r → ∃ r', t.find method (slashed path) = some r' ∧
      r.path.utf8ByteSize ≤ r'.path.utf8ByteSize := by
  have hwider : ∀ r ∈ t.routes, r.accepts method path = true →
      r.accepts method (slashed path) = true :=
    fun r hr haccepts => ((Route.accepts_iff_slashed (hplain r hr)).1 haccepts).1
  refine ⟨?_, fun r hr => exists_find_of_accepts hwider hr⟩
  rw [find_eq_find_iff hwider]
  refine forall₂_congr fun r hr => ?_
  obtain ⟨hmem, haccepts⟩ := find_mem hr
  rw [Route.accepts_iff_slashed (hplain r hmem)]
  exact and_iff_right haccepts

/-- A backslash further down changes nothing, and one right behind the guarded path does. -/
theorem find_eq_find_slashed_iff_site :
    Site.table.find "GET" "/admin/users\\all" = Site.table.find "GET" "/admin/users/all" ∧
      Site.table.find "GET" "/admin\\users" ≠ Site.table.find "GET" "/admin/users" := by
  have hplain : ∀ r ∈ Site.table.routes, '\\' ∉ r.path.toList := by decide
  have hfound : Site.table.find "GET" (slashed "/admin/users\\all") = some Site.admin := by
    decide +kernel
  have hfound' : Site.table.find "GET" (slashed "/admin\\users") = some Site.admin := by
    decide +kernel
  refine ⟨(find_eq_find_slashed_iff hplain "GET" "/admin/users\\all").1.2 fun r hr => ?_,
    fun hsame => ?_⟩
  · obtain rfl : Site.admin = r := Option.some.inj (hfound.symm.trans hr)
    exact .inr (by decide)
  · have hclear := (find_eq_find_slashed_iff hplain "GET" "/admin\\users").1.1 hsame _ hfound'
    revert hclear
    decide

/-- **A backslash evades the guard**: it passes the screen for dot segments, the open front of the
site matches the request, and slashed it is one for the guarded part. -/
theorem backslash_evades :
    (∀ r ∈ Site.table.routes, '\\' ∉ r.path.toList) ∧
      Path.hasDotSegment "/admin\\users".toList = false ∧
      slashed "/admin\\users" = "/admin/users" ∧
      Site.table.find "GET" "/admin\\users" = some Site.front ∧
      Site.table.find "GET" "/admin/users" = some Site.admin ∧
      Site.front.auth = .anyone ∧ Site.admin.auth = .token := by
  decide +kernel

end RouteTable

end OAuthGateway

import Mathlib.Data.List.DropRight
import Mathlib.Data.List.Nodup
import Mathlib.Data.String.Basic
import OAuthGateway.Proofs.Bind
import OAuthGateway.Proofs.Route.Selection
import OAuthGateway.Proofs.Text.Ends
import OAuthGateway.Proofs.Text.Segments

/-!
# Proofs/Route/Routing — routing by the longest segments, in any order of the routes

A route matches by segments: those of its path stand at the front of the path that is asked for
(`matchesPath_iff_segments`).  Two routes of a table that match the same path and are equally long
have the same path, as both are what the path starts with (`path_eq_of_matchesPath`); only `/`,
which matches everything, might have been an exception, and no other stored path is as short
(`normalPath_eq_root`).  So all the longest routes that apply have one path, and where paths are
distinct the order of the routes does not matter (`find_perm`).
-/

namespace OAuthGateway

open Text

/-! ## Texts by their bytes -/

theorem utf8Len_toList (s : String) : String.utf8Len s.toList = s.utf8ByteSize := by
  rw [← String.utf8ByteSize_ofList, String.ofList_toList]

/-- What a text starts with is all of it if it has as many bytes. -/
theorem eq_of_isPrefix_of_utf8Len_eq {front cs : List Char} (h : front <+: cs)
    (hsize : String.utf8Len front = String.utf8Len cs) : front = cs := by
  obtain ⟨rest, rfl⟩ := h
  rw [String.utf8Len_append] at hsize
  rw [String.utf8Len_eq_zero.1 (by omega : String.utf8Len rest = 0), List.append_nil]

namespace Route

variable {r r' : Route} {path : String}

/-! ## Stored paths -/

/-- The route with its path in the form in which it is matched. -/
def normalized (r : Route) : Route := { r with path := normalPath r.path }

/-- **Which routes are admitted**: those with a path that starts with a slash, with a service whose
text is a URL, and with names of methods only; what is stored of one is the route normalized. -/
theorem validate_eq_ok_iff :
    r.validate = .ok r' ↔ r.path.toList.head? = some '/' ∧ (∃ s, Url.read r.service = .ok s) ∧
      ((r.methods.getD []).find? fun m => !isMethodName m) = none ∧ r' = r.normalized := by
  rw [validate]
  constructor
  · intro h
    split at h
    · cases h
    · rename_i hstart
      split at h
      · cases h
      · rename_i s hs
        split at h
        · cases h
        · rename_i hmethods
          cases h
          exact ⟨not_not.1 hstart, ⟨s, hs⟩, hmethods, rfl⟩
  · rintro ⟨hstart, ⟨s, hs⟩, hmethods, rfl⟩
    rw [if_neg (not_not.2 hstart)]
    simp only [hs, hmethods, normalized]

theorem validate_ok (h : r.validate = .ok r') :
    r.path.toList.head? = some '/' ∧ r' = r.normalized := by
  obtain ⟨hstart, -, -, hr'⟩ := validate_eq_ok_iff.1 h
  exact ⟨hstart, hr'⟩

/-- **No stored path but `/` has one byte**: of a longer one, the slashes at its end are dropped. -/
theorem normalPath_eq_root (hstart : path.toList.head? = some '/')
    (hsize : (normalPath path).utf8ByteSize = 1) : normalPath path = "/" := by
  obtain ⟨rest, hrest⟩ := List.head?_eq_some_iff.1 hstart
  have hslash : ∀ cs, String.utf8Len ('/' :: cs) = 1 → cs = [] := by
    intro cs hcs
    have hone : '/'.utf8Size = 1 := rfl
    rw [String.utf8Len_cons] at hcs
    exact String.utf8Len_eq_zero.1 (by omega)
  rw [normalPath] at hsize ⊢
  split at hsize <;> rename_i hshort
  · rw [← utf8Len_toList, hrest] at hsize
    rw [if_pos hshort, ← String.toList_inj, hrest, hslash rest hsize]
    rfl
  · rw [String.utf8ByteSize_ofList] at hsize
    have hfront : dropEndWhile (· = '/') path.toList <+: '/' :: rest :=
      hrest ▸ List.rdropWhile_prefix _ _
    rcases hkept : dropEndWhile (· = '/') path.toList with _ | ⟨c, cs⟩ <;>
      rw [hkept] at hsize hfront
    · cases hsize
    · obtain ⟨rfl, -⟩ := List.cons_prefix_cons.1 hfront
      rw [hslash cs hsize] at hkept
      exact absurd hkept (dropEndWhile_ne_singleton (decide_eq_true rfl) _)

/-! ## Matching -/

/-- **A route matches by segments**: those of its path are the first ones of the path asked for. -/
theorem matchesPath_iff_segments :
    r.matchesPath path = true ↔
      r.path = "/" ∨ r.path.toList.splitOn '/' <+: path.toList.splitOn '/' := by
  rw [matchesPath_iff, splitOn_prefix_iff]

/-- **Routes that match the same path and are equally long have the same path**, where only `/` has
one byte. -/
theorem path_eq_of_matchesPath (h : r.matchesPath path = true) (h' : r'.matchesPath path = true)
    (hroot : r.path.utf8ByteSize = 1 → r.path = "/")
    (hroot' : r'.path.utf8ByteSize = 1 → r'.path = "/")
    (hsize : r.path.utf8ByteSize = r'.path.utf8ByteSize) : r.path = r'.path := by
  have hone : "/".utf8ByteSize = 1 := rfl
  rcases matchesPath_iff.1 h with hslash | ⟨rest, hrest, -⟩
  · rw [hslash, hroot' (by rw [← hsize, hslash, hone])]
  · rcases matchesPath_iff.1 h' with hslash | ⟨rest', hrest', -⟩
    · rw [hslash, hroot (by rw [hsize, hslash, hone])]
    · have hfront : r.path.toList <+: path.toList := ⟨rest, hrest.symm⟩
      have hfront' : r'.path.toList <+: path.toList := ⟨rest', hrest'.symm⟩
      rw [← utf8Len_toList, ← utf8Len_toList] at hsize
      rw [← String.toList_inj]
      rcases List.prefix_or_prefix_of_prefix hfront hfront' with hle | hge
      · exact eq_of_isPrefix_of_utf8Len_eq hle hsize
      · exact (eq_of_isPrefix_of_utf8Len_eq hge hsize.symm).symm

/-- Methods are compared without the case of their letters, and without a list all are allowed. -/
theorem allows_iff {method : String} :
    r.allows method = true ↔ ∀ names, r.methods = some names →
      ∃ name ∈ names, name.toList.map lower = method.toList.map lower := by
  rw [allows]
  cases r.methods with
  | none => exact iff_of_true rfl nofun
  | some names => simp [sameFold]

end Route

namespace RouteTable

variable {routes routes' : List Route} {t t' : RouteTable} {method path : String} {r r' : Route}

/-! ## Tables -/

theorem mapM_eq_ok_iff {ε α β : Type} {f : α → Except ε β} {g : α → β}
    (hg : ∀ {a b}, f a = .ok b → b = g a) {as : List α} {bs : List β} :
    as.mapM f = .ok bs ↔ (∀ a ∈ as, f a = .ok (g a)) ∧ bs = as.map g := by
  induction as generalizing bs with
  | nil => simp [pure, Except.pure, eq_comm]
  | cons a as ih =>
    rw [List.mapM_cons]
    constructor
    · intro h
      obtain ⟨b, hb, h⟩ := exists_of_bind_eq_ok h
      obtain ⟨bs', hbs, h⟩ := exists_of_bind_eq_ok h
      obtain rfl := hg hb
      obtain ⟨has, rfl⟩ := ih.1 hbs
      cases h
      exact ⟨List.forall_mem_cons.2 ⟨hb, has⟩, rfl⟩
    · rintro ⟨h, rfl⟩
      obtain ⟨ha, has⟩ := List.forall_mem_cons.1 h
      rw [ha, ih.2 ⟨has, rfl⟩]
      rfl

/-- The route as a table holds it, or the flaw for which there is no table. -/
def entry (r : Route) : Except RouteFault Route :=
  match r.validate with
  | .ok r => .ok r
  | .error flaw => .error (.flawed r.name flaw)

theorem entry_eq_ok_iff : entry r = .ok r' ↔ r.validate = .ok r' := by
  rw [entry]
  split <;> rename_i hvalid <;> simp [hvalid]

/-- **A table holds its routes normalized**, and there is one if all of them are admitted. -/
theorem ofRoutes_eq_ok_iff :
    ofRoutes routes = .ok t ↔
      (∀ r ∈ routes, entry r = .ok r.normalized) ∧ t.routes = routes.map Route.normalized := by
  have hmapM : ∀ {rs}, routes.mapM entry = .ok rs ↔
      (∀ r ∈ routes, entry r = .ok r.normalized) ∧ rs = routes.map Route.normalized :=
    mapM_eq_ok_iff fun h => (Route.validate_ok (entry_eq_ok_iff.1 h)).2
  have hof : ofRoutes routes = routes.mapM entry >>= fun rs => .ok ⟨rs⟩ := rfl
  rw [← hmapM, hof]
  constructor
  · intro h
    obtain ⟨rs, hrs, h⟩ := exists_of_bind_eq_ok h
    cases h
    exact hrs
  · intro h
    rw [h]
    rfl

/-- Routes in another order make a table as well, with the same routes in that order. -/
theorem ofRoutes_perm (ht : ofRoutes routes = .ok t) (hperm : routes'.Perm routes) :
    ∃ t', ofRoutes routes' = .ok t' ∧ t'.routes.Perm t.routes := by
  obtain ⟨hadmitted, hroutes⟩ := ofRoutes_eq_ok_iff.1 ht
  refine ⟨⟨routes'.map Route.normalized⟩, ofRoutes_eq_ok_iff.2 ⟨fun r hr => ?_, rfl⟩, ?_⟩
  · exact hadmitted r (hperm.mem_iff.1 hr)
  · rw [hroutes]
    exact hperm.map _

/-- In a table, only the path `/` has one byte. -/
theorem path_eq_root_of_mem (ht : ofRoutes routes = .ok t) (hr : r ∈ t.routes)
    (hsize : r.path.utf8ByteSize = 1) : r.path = "/" := by
  obtain ⟨hadmitted, hroutes⟩ := ofRoutes_eq_ok_iff.1 ht
  rw [hroutes] at hr
  obtain ⟨r₀, hr₀, rfl⟩ := List.mem_map.1 hr
  exact Route.normalPath_eq_root
    (Route.validate_ok (entry_eq_ok_iff.1 (hadmitted r₀ hr₀))).1 hsize

/-- **Routes of a table that apply to the same request and are equally long have the same path.** -/
theorem path_eq_of_accepts (ht : ofRoutes routes = .ok t) (hr : r ∈ t.routes) (hr' : r' ∈ t.routes)
    (h : r.accepts method path = true) (h' : r'.accepts method path = true)
    (hsize : r.path.utf8ByteSize = r'.path.utf8ByteSize) : r.path = r'.path :=
  Route.path_eq_of_matchesPath (Bool.and_eq_true_iff.1 h).1 (Bool.and_eq_true_iff.1 h').1
    (path_eq_root_of_mem ht hr) (path_eq_root_of_mem ht hr') hsize

/-- **Where no two paths are the same, the order of the routes does not matter.** -/
theorem find_perm (ht : ofRoutes routes = .ok t) (hpaths : (t.routes.map (·.path)).Nodup)
    (hperm : t'.routes.Perm t.routes) : t'.find method path = t.find method path := by
  cases hfind : t.find method path with
  | none =>
    exact find_eq_none_iff.2 fun r hr => find_eq_none_iff.1 hfind r (hperm.mem_iff.1 hr)
  | some r =>
    obtain ⟨hr, haccepts⟩ := find_mem hfind
    obtain ⟨r', hchosen'⟩ := exists_chosen (fun r => r.accepts method path) (hperm.mem_iff.2 hr)
      haccepts
    have hfind' := find_eq_some_iff.2 hchosen'
    obtain ⟨hr', haccepts'⟩ := find_mem hfind'
    have hr' := hperm.mem_iff.1 hr'
    have hsize : r'.path.utf8ByteSize = r.path.utf8ByteSize :=
      Nat.le_antisymm ((find_eq_some_iff.1 hfind).longest hr' haccepts')
        (hchosen'.longest (hperm.mem_iff.2 hr) haccepts)
    rw [hfind', List.inj_on_of_nodup_map hpaths hr' hr
      (path_eq_of_accepts ht hr' hr haccepts' haccepts hsize)]

/-- **Longest segment-prefix routing.**  In a table, a route matches a path if it is `/`, or if its
segments are the first ones of the path.  A request has no route exactly if no route matches and
allows it; otherwise its route is one that does, none that does has a longer path, those that have
an equally long one have the same, and it is the last of them.  So where no two paths are the same,
routes in any other order give the same answer. -/
theorem longest_segments_routed (ht : ofRoutes routes = .ok t) (method path : String) :
    (∀ r ∈ t.routes, r.path = "/" → r.matchesPath path = true) ∧
    (∀ r ∈ t.routes, r.path ≠ "/" → (r.matchesPath path = true ↔
      r.path.toList.splitOn '/' <+: path.toList.splitOn '/')) ∧
    (∀ r ∈ t.routes, r.allows method = true ↔ ∀ names, r.methods = some names →
      ∃ name ∈ names, name.toList.map lower = method.toList.map lower) ∧
    (t.find method path = none ↔
      ¬ ∃ r ∈ t.routes, r.matchesPath path = true ∧ r.allows method = true) ∧
    (∀ r, t.find method path = some r →
      r.matchesPath path = true ∧ r.allows method = true ∧
      (∀ r' ∈ t.routes, r'.matchesPath path = true → r'.allows method = true →
        r'.path.utf8ByteSize ≤ r.path.utf8ByteSize ∧
          (r'.path.utf8ByteSize = r.path.utf8ByteSize → r'.path = r.path)) ∧
      ∃ before after, t.routes = before ++ r :: after ∧
        ∀ r' ∈ after, r'.matchesPath path = true → r'.allows method = true →
          r'.path.utf8ByteSize < r.path.utf8ByteSize) ∧
    ((t.routes.map (·.path)).Nodup → ∀ routes', routes'.Perm routes →
      ∃ t', ofRoutes routes' = .ok t' ∧ t'.routes.Perm t.routes ∧
        t'.find method path = t.find method path) := by
  refine ⟨fun r _ hroot => Route.matchesPath_iff_segments.2 (.inl hroot), fun r _ hother => ?_,
    fun r _ => Route.allows_iff, ?_, fun r hfind => ?_, fun hpaths routes' hperm => ?_⟩
  · rw [Route.matchesPath_iff_segments, or_iff_right hother]
  · rw [find_eq_none_iff]
    simp only [Route.accepts, Bool.eq_false_iff, ne_eq, Bool.and_eq_true, not_exists, not_and]
  · obtain ⟨hr, haccepts⟩ := find_mem hfind
    have hchosen := find_eq_some_iff.1 hfind
    obtain ⟨hmatches, hallows⟩ := Bool.and_eq_true_iff.1 haccepts
    refine ⟨hmatches, hallows, fun r' hr' hmatches' hallows' => ?_, ?_⟩
    · have haccepts' : r'.accepts method path = true := Bool.and_eq_true_iff.2 ⟨hmatches', hallows'⟩
      exact ⟨hchosen.longest hr' haccepts', path_eq_of_accepts ht hr' hr haccepts' haccepts⟩
    · obtain ⟨-, before, after, hsplit, -, hafter⟩ := hchosen
      exact ⟨before, after, hsplit, fun r' hr' hmatches' hallows' =>
        hafter r' hr' (Bool.and_eq_true_iff.2 ⟨hmatches', hallows'⟩)⟩
  · obtain ⟨t', ht', hperm'⟩ := ofRoutes_perm ht hperm
    exact ⟨t', ht', hperm', find_perm ht hpaths hperm'⟩

/-- With its routes the other way round, the site answers the same. -/
theorem longest_segments_routed_site :
    ofRoutes [Site.front, Site.admin] = .ok Site.table ∧
      Site.table.find "GET" "/admin/users" = some Site.admin ∧
      ∃ t, ofRoutes [Site.admin, Site.front] = .ok t ∧
        t.find "GET" "/admin/users" = some Site.admin := by
  have htable : ofRoutes [Site.front, Site.admin] = .ok Site.table := by decide +kernel
  have hfound : Site.table.find "GET" "/admin/users" = some Site.admin := by decide +kernel
  obtain ⟨-, -, -, -, -, hany⟩ := longest_segments_routed htable "GET" "/admin/users"
  obtain ⟨t, ht, -, hsame⟩ := hany (by decide) [Site.admin, Site.front] (.swap _ _ _)
  exact ⟨htable, hfound, t, ht, hsame.trans hfound⟩

end RouteTable

end OAuthGateway

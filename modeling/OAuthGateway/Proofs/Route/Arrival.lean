import Mathlib.Data.List.Infix
import OAuthGateway.Proofs.Route.Selection

/-!
# Proofs/Route/Arrival — where a request arrives behind the gateway

A route that keeps its path sends a request on to the path at which it was matched, but for one
thing: of the slashes at its start only one is left (`arrival_eq_iff`).  So a path with one slash at
its start arrives as it was matched, and the same route would match it again; one with more arrives
at another path, which another route may guard (`doubled_slash_evades`).  Only a route that matches
every path, or whose own path starts with two slashes, lets such a request through
(`arrives_as_matched`).
-/

namespace OAuthGateway

namespace Route

variable {r : Route} {path : String}

/-- The path at which a request arrives: one slash, and what is sent on without the slashes it
starts with. -/
def arrival (r : Route) (path : String) : List Char :=
  '/' :: (r.forwardedPath path).dropWhile (· = '/')

/-- Without a query, the address is that of the service followed by the path of arrival. -/
theorem url_none_eq (r : Route) (path : String) :
    r.url path none = String.ofList (r.base ++ r.arrival path) := rfl

theorem forwardedPath_of_keeps (hkeeps : r.stripsPath = false) :
    r.forwardedPath path = path.toList := by
  rw [forwardedPath, hkeeps, Bool.false_and]
  rfl

/-- **A path arrives as it was matched if it starts with one slash**, and only then. -/
theorem arrival_eq_iff (hkeeps : r.stripsPath = false) (hstart : path.toList.head? = some '/') :
    r.arrival path = path.toList ↔ ¬ ['/', '/'] <+: path.toList := by
  obtain ⟨rest, hrest⟩ := List.head?_eq_some_iff.1 hstart
  rw [arrival, forwardedPath_of_keeps hkeeps, hrest, List.dropWhile_cons_of_pos (by simp),
    List.cons.injEq, List.cons_prefix_cons]
  cases rest with
  | nil => simp
  | cons c rest =>
    by_cases hc : c = '/'
    · subst hc
      have hshorter := (List.dropWhile_suffix (l := rest) fun c => decide (c = '/')).length_le
      have hne : rest.dropWhile (fun c => decide (c = '/')) ≠ '/' :: rest := by
        intro heq
        rw [heq, List.length_cons] at hshorter
        omega
      simpa using hne
    · simp [hc, Ne.symm hc]

/-- A route that matches a path with two slashes at its start matches every path, or its own path
starts with two slashes. -/
theorem path_of_matchesPath (h : r.matchesPath path = true) (htwo : ['/', '/'] <+: path.toList) :
    r.path = "/" ∨ r.path = "" ∨ ['/', '/'] <+: r.path.toList := by
  rcases matchesPath_iff.1 h with hroot | ⟨rest, hpath, -⟩
  · exact .inl hroot
  · have hown : r.path.toList <+: path.toList := ⟨rest, hpath.symm⟩
    rcases List.prefix_or_prefix_of_prefix htwo hown with hlong | hshort
    · exact .inr (.inr hlong)
    · have hinits : r.path.toList ∈ [[], ['/'], ['/', '/']] := (List.mem_inits _ _).2 hshort
      have hof : ∀ cs, r.path.toList = cs → r.path = String.ofList cs := by
        intro cs hcs
        rw [← hcs, String.ofList_toList]
      simp only [List.mem_cons, List.not_mem_nil, or_false] at hinits
      rcases hinits with hnil | hone | htwo'
      · exact .inr (.inl (hof _ hnil))
      · exact .inl (hof _ hone)
      · exact .inr (.inr (htwo' ▸ List.prefix_rfl))

end Route

namespace RouteTable

/-- **What arrives is what was matched, up to repeated slashes at the start.**  Of a request that a
route sends on with its path, the address is that of the service followed by the very path exactly
when the path does not start with two slashes, and then the same route is found for what arrives.
If it does start with two, the route matches every path or its own path starts with two slashes,
and a single one is left of them. -/
theorem arrives_as_matched {t : RouteTable} {method path : String} {r : Route}
    (hstart : path.toList.head? = some '/') (hfind : t.find method path = some r)
    (hkeeps : r.stripsPath = false) :
    (r.url path none = String.ofList (r.base ++ path.toList) ↔ ¬ ['/', '/'] <+: path.toList) ∧
      (¬ ['/', '/'] <+: path.toList →
        t.find method (String.ofList (r.arrival path)) = some r) ∧
      (['/', '/'] <+: path.toList →
        (r.path = "/" ∨ r.path = "" ∨ ['/', '/'] <+: r.path.toList) ∧
          r.url path none =
            String.ofList (r.base ++ '/' :: path.toList.dropWhile (· = '/'))) := by
  have harrival := Route.arrival_eq_iff hkeeps hstart
  refine ⟨?_, fun hone => ?_, fun htwo => ⟨?_, ?_⟩⟩
  · rw [Route.url_none_eq, String.ofList_inj, List.append_right_inj, harrival]
  · rw [harrival.2 hone, String.ofList_toList, hfind]
  · have haccepts := (find_mem hfind).2
    rw [Route.accepts, Bool.and_eq_true] at haccepts
    exact Route.path_of_matchesPath haccepts.1 htwo
  · rw [Route.url_none_eq, Route.arrival, Route.forwardedPath_of_keeps hkeeps]

/-- Below the guarded part of the site, a path with one slash at its start arrives as matched, and
at its front one with two does not. -/
theorem arrives_as_matched_site :
    Site.admin.url "/admin/users" none = "http://web.internal/admin/users" ∧
      Site.table.find "GET" (String.ofList (Site.admin.arrival "/admin/users")) =
        some Site.admin ∧
      Site.front.url "//admin" none = "http://web.internal/admin" := by
  have hfound : Site.table.find "GET" "/admin/users" = some Site.admin := by decide +kernel
  have hfound' : Site.table.find "GET" "//admin" = some Site.front := by decide +kernel
  obtain ⟨hurl, hagain, -⟩ := arrives_as_matched (by decide) hfound rfl
  obtain ⟨-, -, htwo⟩ := arrives_as_matched (by decide) hfound' rfl
  refine ⟨(hurl.2 (by decide)).trans (by decide), hagain (by decide), ?_⟩
  exact (htwo (by decide)).2.trans (by decide)

/-- **A doubled slash evades the guard**: the request is matched by the open front of the site and
arrives at its guarded part. -/
theorem doubled_slash_evades :
    "//admin".toList.head? = some '/' ∧ Path.hasDotSegment "//admin".toList = false ∧
      Site.table.find "GET" "//admin" = some Site.front ∧ Site.front.stripsPath = false ∧
      Site.front.url "//admin" none ≠ String.ofList (Site.front.base ++ "//admin".toList) ∧
      Site.front.url "//admin" none = String.ofList (Site.front.base ++ "/admin".toList) ∧
      Site.table.find "GET" "/admin" = some Site.admin ∧ Site.front.auth ≠ Site.admin.auth := by
  decide +kernel

end RouteTable

end OAuthGateway

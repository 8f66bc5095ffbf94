import OAuthGateway.Proofs.Route.Routing

/-!
# Proofs/Route/NormalForm — stored paths are in normal form, but for one kind

A path is in normal form if it starts with a slash, and ends with one only if that is all of it.
What is stored of an admitted path is the path without the slashes at its end, which is in normal
form and stays as it is when it is stored again (`isNormalPath_normalPath`,
`normalPath_of_isNormal`).  The one exception is a path of several slashes and nothing else: it
starts with a slash, so it is admitted, and then it loses all of them (`normalPath_of_isSlashes`).
The empty path that is stored would not be admitted itself (`slashes_stored_empty`).  So a table
makes itself again exactly if its paths are in normal form, and they are exactly if no path is of
that kind (`table_in_normal_form`).
-/

namespace OAuthGateway

open Text

/-- The path starts with a slash, and ends with one only if that is all of it. -/
def IsNormalPath (path : String) : Prop :=
  path.toList.head? = some '/' ∧ (path.toList.getLast? = some '/' → path = "/")

/-- The path consists of slashes, of more than one. -/
def IsSlashes (path : String) : Prop := 2 ≤ path.toList.length ∧ ∀ c ∈ path.toList, c = '/'

instance (path : String) : Decidable (IsNormalPath path) := inferInstanceAs (Decidable (_ ∧ _))

instance (path : String) : Decidable (IsSlashes path) :=
  have : Decidable (∀ c ∈ path.toList, c = '/') := List.decidableBAll _ _
  inferInstanceAs (Decidable (_ ∧ _))

namespace Route

variable {r r' : Route} {path : String}

/-! ## Normal paths

A normal path begins with a slash and ends in none, but for the root. -/

theorem normalPath_root : normalPath "/" = "/" := rfl

/-- Of an admitted path other than `/`, the slashes at its end are dropped. -/
theorem toList_normalPath (hstart : path.toList.head? = some '/') (hroot : path ≠ "/") :
    (normalPath path).toList = dropEndWhile (· = '/') path.toList := by
  have hlong : ¬ path.utf8ByteSize ≤ 1 := by
    intro hshort
    obtain ⟨rest, hrest⟩ := List.head?_eq_some_iff.1 hstart
    have hslash : '/'.utf8Size = 1 := rfl
    rw [← utf8Len_toList, hrest, String.utf8Len_cons] at hshort
    have hnil : rest = [] := String.utf8Len_eq_zero.1 (by omega)
    rw [hnil] at hrest
    exact hroot (String.toList_inj.1 hrest)
  rw [normalPath, if_neg hlong, String.toList_ofList]

/-- **What is stored of a path** is the path without slashes at its end. -/
theorem normalPath_append_slashes (hstart : path.toList.head? = some '/') :
    ∃ n, path.toList = (normalPath path).toList ++ List.replicate n '/' := by
  by_cases hroot : path = "/"
  · exact ⟨0, by rw [hroot, normalPath_root, List.replicate_zero, List.append_nil]⟩
  · obtain ⟨dropped, hpath, hslashes⟩ := exists_dropped (· = '/') path.toList
    have hrun : dropped = List.replicate dropped.length '/' :=
      List.eq_replicate_iff.2 ⟨rfl, fun c hc => of_decide_eq_true (hslashes c hc)⟩
    exact ⟨dropped.length, by rw [toList_normalPath hstart hroot, ← hrun, ← hpath]⟩

/-- Of several slashes nothing is stored. -/
theorem normalPath_of_isSlashes (h : IsSlashes path) : normalPath path = "" := by
  obtain ⟨hlength, hall⟩ := h
  obtain ⟨c, cs, hcs⟩ := List.exists_cons_of_length_pos (by omega : 0 < path.toList.length)
  have hstart : path.toList.head? = some '/' := by
    rw [hcs, List.head?_cons, hall c (hcs ▸ List.mem_cons_self)]
  have hroot : path ≠ "/" := by
    rintro rfl
    exact absurd hlength (by decide)
  have hnil : dropEndWhile (· = '/') path.toList = [] :=
    dropEndWhile_eq_nil_iff.2 fun c hc => decide_eq_true (hall c hc)
  exact String.toList_inj.1 ((toList_normalPath hstart hroot).trans hnil)

/-- **What is stored of any other path is in normal form.** -/
theorem isNormalPath_normalPath (hstart : path.toList.head? = some '/') (h : ¬ IsSlashes path) :
    IsNormalPath (normalPath path) := by
  by_cases hroot : path = "/"
  · rw [hroot]
    decide
  · obtain ⟨rest, hrest⟩ := List.head?_eq_some_iff.1 hstart
    have hkept : (normalPath path).toList <+: '/' :: rest := by
      rw [toList_normalPath hstart hroot, ← hrest]
      exact dropEndWhile_isPrefix _ _
    rcases hnormal : (normalPath path).toList with _ | ⟨c, cs⟩
    · -- then all of the path are slashes, and as it is not one slash they are several
      rw [toList_normalPath hstart hroot, dropEndWhile_eq_nil_iff] at hnormal
      have hall : ∀ c ∈ path.toList, c = '/' := fun c hc => of_decide_eq_true (hnormal c hc)
      refine absurd ⟨?_, hall⟩ h
      rcases rest with _ | ⟨c, rest⟩
      · exact absurd (String.toList_inj.1 hrest) hroot
      · rw [hrest]
        exact Nat.le_add_left _ _
    · rw [hnormal] at hkept
      obtain ⟨rfl, -⟩ := List.cons_prefix_cons.1 hkept
      refine ⟨by rw [hnormal, List.head?_cons], fun hlast => ?_⟩
      rw [toList_normalPath hstart hroot] at hlast
      exact absurd (decide_eq_true rfl) (not_of_getLast?_dropEndWhile hlast)

/-- A path in normal form is stored as it is. -/
theorem normalPath_of_isNormal (h : IsNormalPath path) : normalPath path = path := by
  by_cases hroot : path = "/"
  · rw [hroot, normalPath_root]
  · refine String.toList_inj.1 ((toList_normalPath h.1 hroot).trans ?_)
    refine dropEndWhile_of_last fun c hc hslash => hroot (h.2 ?_)
    rw [hc, of_decide_eq_true hslash]

theorem not_isNormalPath_empty : ¬ IsNormalPath "" := by decide

theorem isNormalPath_normalPath_iff (hstart : path.toList.head? = some '/') :
    IsNormalPath (normalPath path) ↔ ¬ IsSlashes path := by
  refine ⟨fun hnormal hslashes => ?_, isNormalPath_normalPath hstart⟩
  rw [normalPath_of_isSlashes hslashes] at hnormal
  exact not_isNormalPath_empty hnormal

/-! ## Admitting again

A path that is stored in normal form is admitted again, and stored as it is. -/

/-- Service and methods of an admitted route are admitted with any path that starts with a slash. -/
theorem validate_with_path (h : r.validate = .ok r') (hstart : path.toList.head? = some '/') :
    { r with path := path }.validate = .ok { r with path := normalPath path } := by
  obtain ⟨-, hservice, hmethods, -⟩ := validate_eq_ok_iff.1 h
  exact validate_eq_ok_iff.2 ⟨hstart, hservice, hmethods, rfl⟩

theorem validate_of_relative (h : r.path.toList.head? ≠ some '/') :
    r.validate = .error (.relativePath r.path) := if_pos h

end Route

namespace RouteTable

variable {routes : List Route} {t : RouteTable} {r : Route}

/-- Of routes that make a table, one that is stored with a normal path is admitted again, as it is
stored. -/
theorem entry_normalized (h : entry r = .ok r.normalized) (hslashes : ¬ IsSlashes r.path) :
    entry r.normalized = .ok r.normalized.normalized ∧ r.normalized.normalized = r.normalized := by
  have hvalid := entry_eq_ok_iff.1 h
  have hnormal := Route.isNormalPath_normalPath (Route.validate_ok hvalid).1 hslashes
  have hpath : r.normalized.normalized = r.normalized :=
    congrArg (fun path => { r with path := path }) (Route.normalPath_of_isNormal hnormal)
  exact ⟨entry_eq_ok_iff.2 (Route.validate_with_path hvalid hnormal.1), hpath⟩

/-- One that is stored without a path is not. -/
theorem entry_normalized_of_isSlashes (hslashes : IsSlashes r.path) :
    entry r.normalized = .error (.flawed r.name (.relativePath "")) := by
  have hpath : r.normalized.path = "" := Route.normalPath_of_isSlashes hslashes
  rw [entry, Route.validate_of_relative (by rw [hpath]; decide), hpath]
  rfl

/-- The first route that is not admitted is reported. -/
theorem ofRoutes_of_first {before after : List Route} {fault : RouteFault}
    (hbefore : ∀ r ∈ before, ∃ r', entry r = .ok r') (hfault : entry r = .error fault) :
    ofRoutes (before ++ r :: after) = .error fault := by
  have hmapM : (before ++ r :: after).mapM entry = .error fault := by
    induction before with
    | nil =>
      rw [List.nil_append, List.mapM_cons, hfault]
      rfl
    | cons first before ih =>
      obtain ⟨⟨r', hfirst⟩, hrest⟩ := List.forall_mem_cons.1 hbefore
      rw [List.cons_append, List.mapM_cons, hfirst, ih hrest]
      rfl
  change (before ++ r :: after).mapM entry >>= _ = _
  rw [hmapM]
  rfl

/-- **A table is in normal form exactly if no path is made of several slashes.**  It holds the
routes in their order, each as it is but for its path, which has lost the slashes at its end.  The
paths it holds are in normal form, and it makes itself again, exactly if no stated path consists of
several slashes; such a path is stored empty, and then the first route that has one is reported. -/
theorem table_in_normal_form (ht : ofRoutes routes = .ok t) :
    t.routes.length = routes.length ∧
    (∀ (i : ℕ) (r : Route), routes[i]? = some r → ∃ path n,
      t.routes[i]? = some { r with path := path } ∧
      r.path.toList = path.toList ++ List.replicate n '/' ∧
      (IsNormalPath path ↔ ¬ IsSlashes r.path) ∧ (IsSlashes r.path → path = "")) ∧
    ((∀ r ∈ t.routes, IsNormalPath r.path) ↔ ∀ r ∈ routes, ¬ IsSlashes r.path) ∧
    (ofRoutes t.routes = .ok t ↔ ∀ r ∈ routes, ¬ IsSlashes r.path) ∧
    ∀ before r after, routes = before ++ r :: after → (∀ r ∈ before, ¬ IsSlashes r.path) →
      IsSlashes r.path → ofRoutes t.routes = .error (.flawed r.name (.relativePath "")) := by
  obtain ⟨hadmitted, hroutes⟩ := ofRoutes_eq_ok_iff.1 ht
  have hstart : ∀ r ∈ routes, r.path.toList.head? = some '/' := fun r hr =>
    (Route.validate_ok (entry_eq_ok_iff.1 (hadmitted r hr))).1
  refine ⟨by rw [hroutes, List.length_map], fun i r hr => ?_, ?_, ⟨?_, ?_⟩, ?_⟩
  · have hmem := List.mem_of_getElem? hr
    obtain ⟨n, hn⟩ := Route.normalPath_append_slashes (hstart r hmem)
    refine ⟨Route.normalPath r.path, n, ?_, hn, Route.isNormalPath_normalPath_iff (hstart r hmem),
      Route.normalPath_of_isSlashes⟩
    rw [hroutes, List.getElem?_map, hr]
    rfl
  · rw [hroutes, List.forall_mem_map]
    exact forall₂_congr fun r hr => Route.isNormalPath_normalPath_iff (hstart r hr)
  · intro hagain r hr hslashes
    have hmem : r.normalized ∈ t.routes := hroutes ▸ List.mem_map_of_mem hr
    have hentry := (ofRoutes_eq_ok_iff.1 hagain).1 r.normalized hmem
    rw [entry_normalized_of_isSlashes hslashes] at hentry
    cases hentry
  · intro hslashes
    have hagain : ∀ r ∈ routes, _ := fun r hr =>
      entry_normalized (hadmitted r hr) (hslashes r hr)
    refine ofRoutes_eq_ok_iff.2 ⟨?_, ?_⟩ <;> rw [hroutes]
    · rw [List.forall_mem_map]
      exact fun r hr => (hagain r hr).1
    · rw [List.map_map]
      exact List.map_congr_left fun r hr => (hagain r hr).2.symm
  · rintro before r after rfl hbefore hslashes
    rw [hroutes, List.map_append, List.map_cons]
    refine ofRoutes_of_first (fun r' hr' => ?_) (entry_normalized_of_isSlashes hslashes)
    obtain ⟨r', hmem, rfl⟩ := List.mem_map.1 hr'
    exact ⟨_, (entry_normalized (hadmitted r' (List.mem_append_left _ hmem)) (hbefore r' hmem)).1⟩

/-- With a slash behind its guarded path the site makes the same table, and this makes itself
again. -/
theorem table_in_normal_form_site :
    ofRoutes [Site.front, { Site.admin with path := "/admin//" }] = .ok Site.table ∧
      (∀ r ∈ Site.table.routes, IsNormalPath r.path) ∧
      ofRoutes Site.table.routes = .ok Site.table := by
  have htable : ofRoutes [Site.front, { Site.admin with path := "/admin//" }] = .ok Site.table := by
    decide +kernel
  obtain ⟨-, -, hnormal, hagain, -⟩ := table_in_normal_form htable
  exact ⟨htable, hnormal.2 (by decide), hagain.2 (by decide)⟩

/-- **Two slashes are stored as no path at all**: the front of the site is admitted with them, its
table is not in normal form, and it does not make itself again. -/
theorem slashes_stored_empty :
    ofRoutes [{ Site.front with path := "//" }] = .ok ⟨[{ Site.front with path := "" }]⟩ ∧
      ¬ IsNormalPath "" ∧
      ofRoutes [{ Site.front with path := "" }] = .error (.flawed "front" (.relativePath "")) := by
  decide +kernel

end RouteTable

end OAuthGateway

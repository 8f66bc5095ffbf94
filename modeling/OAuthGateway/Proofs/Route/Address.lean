import OAuthGateway.Http.Target
import OAuthGateway.Proofs.Route.Arrival
import OAuthGateway.Proofs.Route.Routing
import OAuthGateway.Proofs.Url.Extension

/-!
# Proofs/Route/Address — which services a request reaches

The address of a request is the text of the service with the path of arrival and the query behind
it, and a service is admitted if its text is a URL.  That is not enough for the address to be a URL
of the service with this path and query (`Url.Reaches`): it is one exactly if the service is of a
scheme of requests, has neither a query nor a fragment of its own (`Url.IsBase`), and no blanks
stand behind its authority.  Nothing of this depends on the request, so a service is reached by all
requests or by none (`reached_by_all_or_none`).  A host with a number and no scheme in front is
admitted and reached by none, as the host is read as the scheme (`unreached_services_admitted`).
-/

namespace OAuthGateway

open Text

/-! ## Targets -/

/-- The path of a request has neither blanks nor marks in it, and its query no mark of a
fragment. -/
structure Http.Target.Plain (t : Http.Target) : Prop where
  path : ∀ c ∈ t.path.toList, 32 < c.toNat ∧ c ≠ '?' ∧ c ≠ '#'
  query : ∀ query, t.query = some query → ∀ c ∈ query.toList, 32 < c.toNat ∧ c ≠ '#'

namespace Http.Target

variable {t : Target}

theorem plain_of_parts {path : List Char} {query : Option (List Char)}
    (hpath : path.all isPathChar = true) (hquery : (query.getD []).all isQueryChar = true) :
    Plain ⟨if path.isEmpty then "/" else String.ofList path, query.map String.ofList⟩ where
  path c hc := by
    dsimp only at hc
    split at hc
    · have hslash : c = '/' := by simpa using hc
      rw [hslash]
      decide
    · rw [String.toList_ofList] at hc
      have hchar := List.all_eq_true.1 hpath c hc
      simp only [isPathChar, Bool.and_eq_true, decide_eq_true_eq] at hchar
      exact ⟨hchar.1.1.1.1.1, hchar.1.1.1.2, hchar.1.1.1.1.2⟩
  query text htext c hc := by
    obtain ⟨query, rfl, rfl⟩ := Option.map_eq_some_iff.1 htext
    rw [String.toList_ofList] at hc
    have hchar := List.all_eq_true.1 hquery c hc
    simp only [isQueryChar, Bool.and_eq_true, decide_eq_true_eq] at hchar
    exact ⟨hchar.1.1.1.1, hchar.1.1.1.2⟩

theorem plain_of_local? {text : List Char} (h : local? text = some t) : t.Plain := by
  rw [local?] at h
  split at h
  all_goals
    obtain ⟨hchars, ht⟩ := Option.ite_none_right_eq_some.1 h
    obtain ⟨hpath, hquery⟩ := Bool.and_eq_true_iff.1 hchars
    cases ht
    exact plain_of_parts hpath hquery

/-- **Every target that is read is plain.** -/
theorem plain_of_read? {text : String} (h : read? text = some t) : t.Plain := by
  have hstar : Plain ⟨"*", none⟩ := by
    refine ⟨fun c hc => ?_, nofun⟩
    rw [List.mem_singleton.1 hc]
    decide
  have hnone : Plain ⟨"", none⟩ := ⟨nofun, nofun⟩
  simp only [read?] at h
  split at h
  · cases h
  · split at h
    · cases h
    · cases h
      exact hstar
    · exact plain_of_local? h
    · split at h
      · split at h
        · exact plain_of_local? h
        · cases h
      · split at h <;> cases h
        exact hnone

end Http.Target

/-! ## Reaching a service -/

namespace Url

/-- A URL that requests can be sent to, with neither a query nor a fragment. -/
structure IsBase (s : Url) : Prop where
  scheme : s.scheme = "http".toList ∨ s.scheme = "https".toList
  query : s.query = none
  fragment : s.fragment = none

/-- A URL that requests can be sent to, of the scheme and the authority of a service, whose path
ends in the given one and whose query is the given one. -/
structure Reaches (u s : Url) (path : List Char) (query : Option (List Char)) : Prop where
  scheme : u.scheme = "http".toList ∨ u.scheme = "https".toList
  host : u.host.isSome = true
  sameScheme : u.scheme = s.scheme
  sameUser : u.user = s.user
  sameHost : u.host = s.host
  sameNumber : u.number = s.number
  path : path <:+ u.path
  query : u.query = query
  fragment : u.fragment = none

theorem isWebScheme_of_http {scheme : List Char}
    (h : scheme = "http".toList ∨ scheme = "https".toList) : isWebScheme scheme = true := by
  rcases h with rfl | rfl <;> decide

variable {service : String} {s : Url} {front path : List Char} {query : Option (List Char)}

/-- Behind a text without marks, a path and a query are read as such. -/
theorem parts_behind (hfront : '?' ∉ front ∧ '#' ∉ front) (hpath : '?' ∉ path ∧ '#' ∉ path)
    (hquery : '#' ∉ marked '?' query) :
    parts (front ++ (path ++ marked '?' query)) = (front ++ path, query, none) := by
  refine parts_eq_iff.2 ⟨?_, ?_, ?_, hquery⟩
  · rw [marked, List.append_nil, List.append_assoc]
  · simp [hfront, hpath]
  · simp [hfront, hpath]

/-- If the query is read as such, and no fragment, there is no mark in the text before. -/
theorem not_mem_of_parts (h : (parts (front ++ (path ++ marked '?' query))).2 = (query, none)) :
    '?' ∉ front ∧ '#' ∉ front := by
  obtain ⟨path', hparts⟩ : ∃ path', parts (front ++ (path ++ marked '?' query)) =
      (path', query, none) := ⟨_, Prod.ext rfl h⟩
  obtain ⟨happend, hmark, hmark', -⟩ := parts_eq_iff.1 hparts
  rw [← List.append_assoc, marked, List.append_nil] at happend
  rw [← List.append_cancel_right happend, List.mem_append, not_or] at hmark hmark'
  exact ⟨hmark.1, hmark'.1⟩

/-- A text is a path and no more if there is no mark in it. -/
theorem parts_eq_none_iff {cs : List Char} :
    parts cs = (path, none, none) ↔ cs = path ∧ '?' ∉ cs ∧ '#' ∉ cs := by
  rw [parts_eq_iff]
  constructor
  · rintro ⟨rfl, hmark, hmark', -⟩
    simpa [marked] using ⟨hmark, hmark'⟩
  · rintro ⟨rfl, hmark, hmark'⟩
    exact ⟨by simp [marked], hmark, hmark', by simp [marked]⟩

/-- **A URL with a path and a query behind it reaches the service that it is of** exactly if that is
a base, and no blanks stand behind its authority. -/
theorem exists_reaches_iff (hs : read service = .ok s) (hstart : path.head? = some '/')
    (hpath : ∀ c ∈ path, 32 < c.toNat ∧ c ≠ '?' ∧ c ≠ '#')
    (hquery : ∀ c ∈ marked '?' query, 32 < c.toNat ∧ c ≠ '#') :
    (∃ u, read (String.ofList
        (dropEndWhile (· = '/') service.toList ++ (path ++ marked '?' query))) = .ok u ∧
      u.Reaches s path query) ↔ s.IsBase ∧ (s.path = [] → endBlanks service = []) := by
  have hstart' : (path ++ marked '?' query).head? = some '/' := by
    rw [List.head?_append, hstart, Option.some_or]
  have hlow : ∀ c ∈ path ++ marked '?' query, 32 < c.toNat := fun c hc =>
    (List.mem_append.1 hc).elim (fun hc => (hpath c hc).1) fun hc => (hquery c hc).1
  constructor
  · rintro ⟨u, hu, hreaches⟩
    have hscheme : s.scheme = "http".toList ∨ s.scheme = "https".toList :=
      hreaches.sameScheme ▸ hreaches.scheme
    obtain ⟨-, ⟨-, -, fault, hfault⟩ | ⟨rest, slashes, hparts, hslashes, hone, hread⟩⟩ :=
      read_append hs (isWebScheme_of_http hscheme) hstart' hlow
    · rw [hfault] at hu
      cases hu
    · rw [hread, ← List.append_assoc] at hu
      obtain rfl := Except.ok.inj hu
      obtain ⟨hmark, hmark'⟩ := not_mem_of_parts (Prod.ext hreaches.query hreaches.fragment)
      rw [List.mem_append, not_or] at hmark hmark'
      have hnone : parts (rest ++ slashes) = (rest ++ slashes, none, none) := by
        refine parts_eq_none_iff.2 ⟨rfl, ?_, ?_⟩ <;> rw [List.mem_append, not_or]
        · exact ⟨hmark.1, fun h => absurd (hslashes _ h) (by decide)⟩
        · exact ⟨hmark'.1, fun h => absurd (hslashes _ h) (by decide)⟩
      rw [hparts, Prod.mk.injEq, Prod.mk.injEq] at hnone
      refine ⟨⟨hscheme, hnone.2.1, hnone.2.2⟩, fun hnil => hone ?_⟩
      exact (List.append_eq_nil_iff.1 (hnone.1.symm.trans hnil)).1
  · rintro ⟨hbase, hblanks⟩
    obtain ⟨hhost, ⟨hparts, hsome, -⟩ | ⟨rest, slashes, hparts, hslashes, hone, hread⟩⟩ :=
      read_append hs (isWebScheme_of_http hbase.scheme) hstart' hlow
    · rw [hbase.query, hbase.fragment] at hparts
      exact absurd (hblanks (parts_eq_none_iff.1 hparts).1.symm) hsome
    · rw [hbase.query, hbase.fragment] at hparts
      obtain ⟨-, hmark, hmark'⟩ := parts_eq_none_iff.1 hparts
      rw [List.mem_append, not_or] at hmark hmark'
      have hblank : ∀ c : Char, 32 < c.toNat → c ∉ endBlanks service := fun c hc hmem =>
        absurd (toNat_le_of_mem_endBlanks hmem) (by omega)
      have hfront : '?' ∉ rest ++ endBlanks service ∧ '#' ∉ rest ++ endBlanks service := by
        simp [hmark.1, hmark'.1, hblank]
      have hbehind := parts_behind hfront
        ⟨fun h => (hpath _ h).2.1 rfl, fun h => (hpath _ h).2.2 rfl⟩
        fun h : '#' ∈ marked '?' query => (hquery _ h).2 rfl
      rw [List.append_assoc] at hbehind
      rw [hbehind] at hread
      exact ⟨_, hread, ⟨hbase.scheme, hhost, rfl, rfl, rfl, rfl, List.suffix_append _ _, rfl, rfl⟩⟩

end Url

namespace Route

variable {r : Route} {path : String}

/-- An address is that of the service, the path of arrival and the query. -/
theorem url_eq (r : Route) (path : String) (query : Option String) :
    r.url path query =
      String.ofList (r.base ++ (r.arrival path ++ Url.marked '?' (query.map String.toList))) := by
  cases query with
  | none => simp [url, arrival, Url.marked]
  | some query => simp [url, arrival, Url.marked]

theorem mem_of_mem_arrival {c : Char} (h : c ∈ r.arrival path) : c = '/' ∨ c ∈ path.toList := by
  refine (List.mem_cons.1 h).imp_right fun h => ?_
  have hforwarded : c ∈ r.forwardedPath path := (List.dropWhile_suffix _).subset h
  rw [forwardedPath] at hforwarded
  split at hforwarded
  · rcases hafter : after? r.path.toList path.toList with _ | rest <;> rw [hafter] at hforwarded
    · exact hforwarded
    · rw [after?_eq_some_iff.1 hafter]
      exact List.mem_append_right _ hforwarded
  · exact hforwarded

/-- A request reaches the service of a route. -/
def Reaches (r : Route) (s : Url) (target : Http.Target) : Prop :=
  ∃ u, Url.read (r.url target.path target.query) = .ok u ∧
    u.Reaches s (r.arrival target.path) (target.query.map String.toList)

/-- **Which services are reached.** -/
theorem reaches_iff_isBase {s : Url} (hs : Url.read r.service = .ok s) {target : Http.Target}
    (htarget : target.Plain) :
    r.Reaches s target ↔ s.IsBase ∧ (s.path = [] → Url.endBlanks r.service = []) := by
  rw [Reaches, url_eq]
  refine Url.exists_reaches_iff hs rfl (fun c hc => ?_) fun c hc => ?_
  · rcases mem_of_mem_arrival hc with rfl | hc
    · decide
    · exact htarget.path c hc
  · rcases hquery : target.query with _ | query <;> rw [hquery] at hc
    · cases hc
    · rcases List.mem_cons.1 hc with rfl | hc
      · decide
      · exact htarget.query query hquery c hc

end Route

namespace RouteTable

variable {routes : List Route} {t : RouteTable} {r : Route}

/-- **A service of a table is reached by all requests or by none.**  It is a URL; and a request
reaches it exactly if it is of a scheme of requests and has neither a query nor a fragment, and no
blanks stand behind its authority.  This is said of targets without blanks and marks in them, as are
all that can be read. -/
theorem reached_by_all_or_none (ht : ofRoutes routes = .ok t) (hr : r ∈ t.routes) :
    (∀ text target, Http.Target.read? text = some target → target.Plain) ∧
      ∃ s, Url.read r.service = .ok s ∧ ∀ target : Http.Target, target.Plain →
        (r.Reaches s target ↔ s.IsBase ∧ (s.path = [] → Url.endBlanks r.service = [])) := by
  obtain ⟨hadmitted, hroutes⟩ := ofRoutes_eq_ok_iff.1 ht
  rw [hroutes] at hr
  obtain ⟨r₀, hr₀, rfl⟩ := List.mem_map.1 hr
  obtain ⟨-, ⟨s, hs⟩, -⟩ := Route.validate_eq_ok_iff.1 (entry_eq_ok_iff.1 (hadmitted r₀ hr₀))
  exact ⟨fun text target => Http.Target.plain_of_read?, s, hs,
    fun target => Route.reaches_iff_isBase (r := r₀.normalized) hs⟩

/-- The service of the site is reached; with a blank behind its text it would not be, though there
would be a table. -/
theorem reached_by_all_or_none_site :
    (∃ s, Url.read Site.admin.service = .ok s ∧
      Site.admin.Reaches s ⟨"/admin/users", some "page=2"⟩) ∧
    ∃ s, Url.read "http://web.internal " = .ok s ∧
      ¬ { Site.admin with service := "http://web.internal " }.Reaches s ⟨"/admin/users", none⟩ := by
  have htable : ofRoutes Site.table.routes = .ok Site.table := by decide +kernel
  have hblank : ofRoutes [{ Site.admin with service := "http://web.internal " }] =
      .ok ⟨[{ Site.admin with service := "http://web.internal " }]⟩ := by decide +kernel
  obtain ⟨hplain, s, hs, hreaches⟩ :=
    reached_by_all_or_none htable (List.mem_of_getElem? (i := 1) rfl)
  obtain ⟨-, s', hs', hreaches'⟩ := reached_by_all_or_none hblank List.mem_cons_self
  have hread : Url.read Site.admin.service = .ok ⟨"http".toList, none,
      some (.domain "web.internal".toList), none, [], none, none⟩ := by decide +kernel
  have hread' : Url.read "http://web.internal " = .ok ⟨"http".toList, none,
      some (.domain "web.internal".toList), none, [], none, none⟩ := by decide +kernel
  have htarget := hplain "/admin/users?page=2" ⟨"/admin/users", some "page=2"⟩ (by decide +kernel)
  have htarget' := hplain "/admin/users" ⟨"/admin/users", none⟩ (by decide +kernel)
  refine ⟨⟨s, hs, (hreaches _ htarget).2 ?_⟩, s', hs', fun h => ?_⟩
  · obtain rfl := Except.ok.inj (hs.symm.trans hread)
    exact ⟨⟨.inl rfl, rfl, rfl⟩, fun _ => by decide +kernel⟩
  · obtain rfl := Except.ok.inj (hs'.symm.trans hread')
    exact absurd (((hreaches' _ htarget').1 h).2 rfl) (by decide +kernel)

/-- **Services that no request reaches are admitted**: a host with a number and no scheme in front,
as the host is read as the scheme; and one with a query, as the path is read as more of it. -/
theorem unreached_services_admitted :
    let app := { Site.front with service := "localhost:8080" }
    let versioned := { Site.front with service := "http://web.internal/?v=1" }
    ofRoutes [app, versioned] = .ok ⟨[app, versioned]⟩ ∧
      Url.read app.service =
        .ok ⟨"localhost".toList, none, none, none, "8080".toList, none, none⟩ ∧
      app.url "/users" none = "localhost:8080/users" ∧
      Url.read (app.url "/users" none) =
        .ok ⟨"localhost".toList, none, none, none, "8080/users".toList, none, none⟩ ∧
      versioned.url "/users" none = "http://web.internal/?v=1/users" ∧
      Url.read (versioned.url "/users" none) =
        .ok ⟨"http".toList, none, some (.domain "web.internal".toList), none, ['/'],
          some "v=1/users".toList, none⟩ ∧
      (∀ s, ¬ app.Reaches s ⟨"/users", none⟩) ∧ ∀ s, ¬ versioned.Reaches s ⟨"/users", none⟩ := by
  intro app versioned
  have happ : Url.read (app.url "/users" none) =
      .ok ⟨"localhost".toList, none, none, none, "8080/users".toList, none, none⟩ := by
    decide +kernel
  have hversioned : Url.read (versioned.url "/users" none) =
      .ok ⟨"http".toList, none, some (.domain "web.internal".toList), none, ['/'],
        some "v=1/users".toList, none⟩ := by decide +kernel
  refine ⟨by decide +kernel, by decide +kernel, by decide +kernel, happ, by decide +kernel,
    hversioned, ?_, ?_⟩
  · rintro s ⟨u, hu, hreaches⟩
    obtain rfl := Except.ok.inj (hu.symm.trans happ)
    exact absurd hreaches.host (by decide)
  · rintro s ⟨u, hu, hreaches⟩
    obtain rfl := Except.ok.inj (hu.symm.trans hversioned)
    exact absurd hreaches.query (by decide)

end RouteTable

end OAuthGateway

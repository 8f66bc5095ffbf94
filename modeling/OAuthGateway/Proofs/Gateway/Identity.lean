import OAuthGateway.Proofs.Gateway.Mediation

/-!
# Proofs/Gateway/Identity — whose request is forwarded is what the store says

Of a request, the checks of a route read the bearer token or the credentials of the body and nothing
else.  So they are two steps: `Route.identify` finds out who is behind the request from these alone,
and `Identity.stamp` writes it on the request without its identity headers (`screen_eq_stamp`).
What a client sends under the two names reaches neither step, which is `identity_not_spoofable`.
-/

namespace OAuthGateway

open Http Procedure Time

/-! ## Requests that agree but for some headers

Two requests that agree but for some names are the same for whoever looks at other names only. -/

/-- The headers that only the gateway may set. -/
def identityHeaders : List String := [ownerHeader, applicationHeader]

/-- Two requests agree in all but the values of the headers named. -/
structure Http.Request.AgreeBut (names : List String) (r r' : Request) : Prop where
  method : r.head.method = r'.head.method
  target : r.head.target = r'.head.target
  body : r.body = r'.body
  values : ∀ name, name ∉ names → r.head.headers.values name = r'.head.headers.values name

namespace Http

/-- Setting a header leaves the values of all other names. -/
theorem Headers.values_set_of_ne {name other : String} (h : other ≠ name) (value : String)
    (hs : Headers) : values other (set name value hs) = values other hs := by
  rw [← values_without_of_ne h hs]
  simp [values, set, Ne.symm h]

namespace Request

variable {names : List String} {r r' r'' : Request} {name other value : String}

namespace AgreeBut

theorem symm (h : AgreeBut names r r') : AgreeBut names r' r :=
  ⟨h.method.symm, h.target.symm, h.body.symm, fun name hname => (h.values name hname).symm⟩

theorem trans (h : AgreeBut names r r') (h' : AgreeBut names r' r'') : AgreeBut names r r'' :=
  ⟨h.method.trans h'.method, h.target.trans h'.target, h.body.trans h'.body,
    fun name hname => (h.values name hname).trans (h'.values name hname)⟩

theorem mono {names' : List String} (h : AgreeBut names r r') (hsub : names ⊆ names') :
    AgreeBut names' r r' :=
  ⟨h.method, h.target, h.body, fun name hname => h.values name fun hmem => hname (hsub hmem)⟩

theorem first? (h : AgreeBut names r r') (hname : name ∉ names) :
    r.head.headers.first? name = r'.head.headers.first? name := by
  rw [Headers.first?_eq_head?_values, Headers.first?_eq_head?_values, h.values name hname]

/-- An identity header carries no bearer token. -/
theorem bearer (h : AgreeBut identityHeaders r r') :
    Bearer.ofHeaders? r.head.headers = Bearer.ofHeaders? r'.head.headers := by
  rw [Bearer.ofHeaders?, h.first? (by decide), Bearer.ofHeaders?]

end AgreeBut

/-! ### Taking identity headers off -/

/-- Taking the identity headers off changes no other. -/
theorem withoutIdentity_agreeBut (r : Request) : AgreeBut identityHeaders r.withoutIdentity r where
  method := rfl
  target := rfl
  body := rfl
  values name hname := by
    rw [identityHeaders, List.mem_cons, List.mem_singleton, not_or] at hname
    rw [withoutIdentity, Headers.values_without_of_ne hname.2, Headers.values_without_of_ne hname.1]

theorem headers_withoutIdentity (r : Request) :
    r.withoutIdentity.head.headers = r.head.headers.filter (·.name ∉ identityHeaders) := by
  rw [withoutIdentity, Headers.without, Headers.without, List.filter_filter]
  refine List.filter_congr fun h _ => ?_
  simp [identityHeaders, and_comm, bne, beq_eq_decide]

/-- No identity header is left. -/
theorem values_withoutIdentity (h : name ∈ identityHeaders) :
    r.withoutIdentity.head.headers.values name = [] := by
  rw [identityHeaders, List.mem_cons, List.mem_singleton] at h
  rcases h with rfl | rfl
  · rw [withoutIdentity, Headers.values_without_of_ne (by decide), Headers.values_without]
  · rw [withoutIdentity, Headers.values_without]

/-- Without identity headers, requests that agree but for these agree in all. -/
theorem AgreeBut.withoutIdentity (h : AgreeBut identityHeaders r r') :
    AgreeBut [] r.withoutIdentity r'.withoutIdentity := by
  refine ⟨h.method, h.target, h.body, fun name _ => ?_⟩
  by_cases hname : name ∈ identityHeaders
  · rw [values_withoutIdentity hname, values_withoutIdentity hname]
  · rw [r.withoutIdentity_agreeBut.values name hname, h.values name hname,
      r'.withoutIdentity_agreeBut.values name hname]

/-- They are the same request if their other headers stand in one order. -/
theorem AgreeBut.withoutIdentity_eq (h : AgreeBut identityHeaders r r')
    (hheaders : r.head.headers.filter (·.name ∉ identityHeaders) =
      r'.head.headers.filter (·.name ∉ identityHeaders)) :
    r.withoutIdentity = r'.withoutIdentity := by
  rw [← headers_withoutIdentity, ← headers_withoutIdentity] at hheaders
  obtain ⟨⟨method, target, headers⟩, body⟩ := r
  obtain ⟨⟨method', target', headers'⟩, body'⟩ := r'
  obtain ⟨rfl, rfl, rfl, -⟩ := h
  exact congrArg (fun hs : Headers => (⟨⟨method, target, hs⟩, body⟩ : Request)) hheaders

/-! ### Setting one -/

/-- A value that cannot stand in a header leaves those that are there. -/
theorem values_withIdentity (name value : String) (r : Request) :
    (r.withIdentity name value).head.headers.values name =
      if Header.isLegalValue value then [value] else r.head.headers.values name := by
  rw [withIdentity]
  split
  · exact Headers.values_set name value _
  · rfl

/-- Setting an identity header changes no other. -/
theorem withIdentity_agreeBut (name value : String) (r : Request) :
    AgreeBut [name] (r.withIdentity name value) r := by
  rw [withIdentity]
  split
  · refine ⟨rfl, rfl, rfl, fun other hother => ?_⟩
    exact Headers.values_set_of_ne (by simpa using hother) value _
  · exact ⟨rfl, rfl, rfl, fun _ _ => rfl⟩

/-- Requests that agree still do when the same header is set on both. -/
theorem AgreeBut.withIdentity (h : AgreeBut [] r r') (name value : String) :
    AgreeBut [] (r.withIdentity name value) (r'.withIdentity name value) := by
  have hset := withIdentity_agreeBut name value r
  have hset' := withIdentity_agreeBut name value r'
  have hothers := (hset.trans (h.mono (List.nil_subset _))).trans hset'.symm
  refine ⟨hothers.method, hothers.target, hothers.body, fun other _ => ?_⟩
  by_cases hother : other = name
  · subst hother
    rw [values_withIdentity, values_withIdentity, h.values other List.not_mem_nil]
  · exact hothers.values other (by simpa using hother)

end Request

end Http

/-! ## Who is behind a request

The identity is found by the route and the store, from the bearer token or the body. -/

namespace Text

/-- The text of an integer is its decimal one. -/
theorem ofList_integer (i : Int) : String.ofList (integer i) = toString i := by
  cases i with
  | ofNat n => rfl
  | negSucc n => exact @String.ofList_append ['-'] (natural (n + 1))

/-- It can stand in a header. -/
theorem isLegalValue_integer (i : Int) :
    Header.isLegalValue (String.ofList (integer i)) = true := by
  have hdigits : ∀ n, ∀ c ∈ natural n,
      (c = '\t' || (32 ≤ c.toNat && c.toNat ≠ 127)) = true := by
    intro n c hc
    have hdigit : c.isDigit = true := Nat.isDigit_of_mem_toDigits (by decide) (by decide) hc
    have hrange : 48 ≤ c.toNat ∧ c.toNat ≤ 57 := by
      simpa [Char.isDigit, UInt32.le_iff_toNat_le] using hdigit
    simp
    omega
  rw [Header.isLegalValue, String.toList_ofList, List.all_eq_true]
  cases i with
  | ofNat n => exact hdigits n
  | negSucc n => exact List.forall_mem_cons.2 ⟨by decide, hdigits (n + 1)⟩

end Text

/-- Who is behind a request: its resource owner and its application, as far as they are known. -/
structure Identity where
  owner : Option String
  application : Option Int
deriving DecidableEq

namespace Identity

/-- Nobody in particular. -/
def unknown : Identity := ⟨none, none⟩

/-- The request with the headers of an identity. -/
def stamp (who : Identity) (r : Request) : Request :=
  let owned := who.owner.elim r fun owner => r.withIdentity ownerHeader owner
  who.application.elim owned fun id =>
    owned.withIdentity applicationHeader (String.ofList (Text.integer id))

variable {who : Identity} {r r' : Request}

/-- A stamp touches the identity headers only. -/
theorem stamp_agreeBut (who : Identity) (r : Request) :
    Request.AgreeBut identityHeaders (who.stamp r) r := by
  have howner : ∀ owner, Request.AgreeBut identityHeaders (r.withIdentity ownerHeader owner) r :=
    fun owner => (Request.withIdentity_agreeBut _ _ _).mono (by decide)
  have happlication : ∀ (q : Request) value,
      Request.AgreeBut identityHeaders (q.withIdentity applicationHeader value) q :=
    fun q value => (Request.withIdentity_agreeBut _ _ _).mono (by decide)
  rcases who with ⟨_ | owner, _ | id⟩
  · exact ⟨rfl, rfl, rfl, fun _ _ => rfl⟩
  · exact happlication r _
  · exact howner owner
  · exact (happlication _ _).trans (howner owner)

/-- The same stamp leaves requests that agree in agreement. -/
theorem stamp_congr (h : Request.AgreeBut [] r r') (who : Identity) :
    Request.AgreeBut [] (who.stamp r) (who.stamp r') := by
  rcases who with ⟨_ | owner, _ | id⟩
  · exact h
  · exact h.withIdentity _ _
  · exact h.withIdentity _ _
  · exact (h.withIdentity _ _).withIdentity _ _

/-- **The stamp is the one value of the application header**, in decimal. -/
theorem values_application_stamp (h : r.head.headers.values applicationHeader = []) :
    (who.stamp r).head.headers.values applicationHeader =
      who.application.toList.map toString := by
  have howner : ∀ owner, (r.withIdentity ownerHeader owner).head.headers.values applicationHeader =
      [] := fun owner => by
    rw [(Request.withIdentity_agreeBut _ _ r).values _ (by decide), h]
  have happlication : ∀ (q : Request) (id : Int),
      (q.withIdentity applicationHeader (String.ofList (Text.integer id))).head.headers.values
        applicationHeader = [toString id] := fun q id => by
    rw [Request.values_withIdentity, Text.isLegalValue_integer, if_pos rfl, Text.ofList_integer]
  rcases who with ⟨_ | owner, _ | id⟩
  · exact h
  · exact happlication _ id
  · exact howner owner
  · exact happlication _ id

/-- **The stamp is the one value of the owner header**, and none if it is no legal one. -/
theorem values_owner_stamp (h : r.head.headers.values ownerHeader = []) :
    (who.stamp r).head.headers.values ownerHeader =
      who.owner.toList.filter Header.isLegalValue := by
  have howner : ∀ owner, (r.withIdentity ownerHeader owner).head.headers.values ownerHeader =
      [owner].filter Header.isLegalValue := fun owner => by
    rw [Request.values_withIdentity, h, List.filter_cons, List.filter_nil]
  have happlication : ∀ (q : Request) value,
      (q.withIdentity applicationHeader value).head.headers.values ownerHeader =
        q.head.headers.values ownerHeader := fun q value =>
    (Request.withIdentity_agreeBut _ _ q).values _ (by decide)
  rcases who with ⟨_ | owner, _ | id⟩
  · exact h
  · exact (happlication _ _).trans h
  · exact howner owner
  · exact (happlication _ _).trans (howner owner)

end Identity

namespace Route

/-- Finds out who is behind a request with a bearer token and a body. -/
def identify (route : Route) (now : Instant) (bearer : Option String) (body : ByteArray) :
    Procedure Rejection Identity :=
  match route.auth with
  | .anyone => pure .unknown
  | .token =>
    match bearer with
    | none => throw .malformedBearer
    | some text => do
      let token ← (Database.accessTokenOfText text).mapError (Rejection.ofLookup .unknownToken)
      verdict (token.opens route now)
      return ⟨some token.resourceOwnerId, some token.applicationId⟩
  | .client => do
    let (uid, secret) ← verdict (ClientCredentials.ofBody body)
    let app ← (Database.client uid secret).mapError (Rejection.ofLookup .unknownApplication)
    return ⟨none, some app.id⟩

/-- Who is behind a request on a route, by the rows of a store. -/
inductive Identifies (route : Route) (s : Store) (r : Request) : Identity → Prop
  | anyone (mode : route.auth = .anyone) : Identifies route s r .unknown
  | token {t : AccessToken} (mode : route.auth = .token)
      (named : Bearer.ofHeaders? r.head.headers = some t.token) (stored : t ∈ s.accessTokens) :
      Identifies route s r ⟨some t.resourceOwnerId, some t.applicationId⟩
  | client {uid secret : String} {a : Application} (mode : route.auth = .client)
      (carried : ClientCredentials.Carried r.body uid secret) (stored : a ∈ s.applications)
      (answers : a.AnswersTo uid secret) :
      Identifies route s r ⟨none, some a.id⟩

end Route

section Screen

variable {route : Route} {now : Instant} {faults : Faults} {db db' : Database} {r r' : Request}

/-- **The screen stamps who is behind a request** on the request without identity headers. -/
theorem screen_eq_stamp (route : Route) (now : Instant) (r : Request) :
    screen Check.standard route now r = (fun who => who.stamp r.withoutIdentity) <$>
      route.identify now (Bearer.ofHeaders? r.head.headers) r.body := by
  rcases mode : route.auth with _ | _ | _
  · simp only [screen_of_anyone mode, Route.identify, mode, map_pure]
    rfl
  · simp only [screen_of_token mode, Route.identify, mode, Check.acceptToken,
      ofHeaders?_withoutIdentity]
    cases Bearer.ofHeaders? r.head.headers with
    | none => rfl
    | some text =>
      simp only [pure_bind, map_bind, map_pure]
      rfl
  · simp only [screen_of_client mode, Route.identify, mode, Check.acceptClient, map_bind, map_pure]
    rfl

/-- Whoever is identified is whom the store says. -/
theorem identify_ok {who : Identity}
    (h : (route.identify now (Bearer.ofHeaders? r.head.headers) r.body).perform faults db =
      (.ok who, db')) : route.Identifies db.visible r who := by
  rcases mode : route.auth with _ | _ | _ <;> simp only [Route.identify, mode] at h
  · cases h
    exact .anyone mode
  · cases hnamed : Bearer.ofHeaders? r.head.headers with
    | none =>
      rw [hnamed] at h
      cases h
    | some text =>
      rw [hnamed] at h
      obtain ⟨t, db₁, hlookup, h⟩ := bind_ok h
      obtain ⟨-, hfound, -⟩ := look_ok (mapError_ok hlookup)
      obtain ⟨_, _, -, h⟩ := bind_ok h
      cases h
      have hfind := Table.found_eq_ok_iff.1 hfound
      have htext : t.token = text := by simpa using List.find?_some hfind
      exact .token mode (hnamed.trans (congrArg some htext.symm)) (List.mem_of_find?_eq_some hfind)
  · obtain ⟨⟨uid, secret⟩, db₁, hverdict, h⟩ := bind_ok h
    obtain ⟨hbody, rfl⟩ := Prod.mk.inj hverdict
    obtain ⟨a, db₂, hlookup, h⟩ := bind_ok h
    obtain ⟨-, hfound, -⟩ := look_ok (mapError_ok hlookup)
    cases h
    have hfind := Table.found_eq_ok_iff.1 hfound
    have hmatches := List.find?_some hfind
    exact .client mode (ClientCredentials.carried_of_ofBody hbody)
      (List.mem_of_find?_eq_some hfind) (Store.client_matches_iff.1 hmatches)

/-- What passes is the request, stamped with who the store knows to be behind it. -/
theorem screen_ok {out : Request}
    (h : (screen Check.standard route now r).perform faults db = (.ok out, db')) :
    ∃ who, route.Identifies db.visible r who ∧ out = who.stamp r.withoutIdentity := by
  rw [screen_eq_stamp] at h
  obtain ⟨who, hidentify, rfl⟩ := map_ok h
  exact ⟨who, identify_ok hidentify, rfl⟩

/-- Whoever is behind a request is behind every one that agrees with it but for identity headers. -/
theorem screen_of_agreeBut (h : Request.AgreeBut identityHeaders r r') :
    screen Check.standard route now r' = (fun who => who.stamp r'.withoutIdentity) <$>
      route.identify now (Bearer.ofHeaders? r.head.headers) r.body := by
  rw [screen_eq_stamp, h.bearer, h.body]

end Screen

/-- **Identity headers cannot be spoofed.**  What passes the screen is the request that was sent but
for its identity headers, and these say who the store knows to be behind it.  Of two requests that
agree but for identity headers, both are rejected for the same reason, or both pass, and then they
agree in all. -/
theorem identity_not_spoofable (route : Route) (now : Instant) (faults : Faults) (db : Database)
    (r : Request) :
    (∀ out db', (screen Check.standard route now r).perform faults db = (.ok out, db') →
      Request.AgreeBut identityHeaders out r ∧
      ∃ who, route.Identifies db.visible r who ∧
        out.head.headers.values applicationHeader = who.application.toList.map toString ∧
        out.head.headers.values ownerHeader = who.owner.toList.filter Header.isLegalValue) ∧
    ∀ r', Request.AgreeBut identityHeaders r r' →
      (∀ e db', (screen Check.standard route now r).perform faults db = (.error e, db') ↔
        (screen Check.standard route now r').perform faults db = (.error e, db')) ∧
      (∀ out db', (screen Check.standard route now r).perform faults db = (.ok out, db') →
        ∃ out', (screen Check.standard route now r').perform faults db = (.ok out', db') ∧
          Request.AgreeBut [] out out') ∧
      (r.head.headers.filter (·.name ∉ identityHeaders) =
        r'.head.headers.filter (·.name ∉ identityHeaders) →
        (screen Check.standard route now r).perform faults db =
          (screen Check.standard route now r').perform faults db) := by
  refine ⟨fun out db' hout => ?_, fun r' hagree => ?_⟩
  · obtain ⟨who, hwho, rfl⟩ := screen_ok hout
    refine ⟨(who.stamp_agreeBut _).trans r.withoutIdentity_agreeBut, who, hwho, ?_, ?_⟩
    · exact Identity.values_application_stamp (Request.values_withoutIdentity (by decide))
    · exact Identity.values_owner_stamp (Request.values_withoutIdentity (by decide))
  · rw [screen_eq_stamp, screen_of_agreeBut hagree, perform_map, perform_map]
    -- one run of `identify` answers both requests, and only the stamped request is another
    rcases (route.identify now (Bearer.ofHeaders? r.head.headers) r.body).perform faults db with
      ⟨e | who, db₁⟩
    · exact ⟨fun _ _ => Iff.rfl, nofun, fun _ => rfl⟩
    · refine ⟨fun _ _ => ⟨nofun, nofun⟩, fun out db' hout => ?_, fun hheaders => ?_⟩
      · cases hout
        exact ⟨_, rfl, Identity.stamp_congr hagree.withoutIdentity who⟩
      · rw [hagree.withoutIdentity_eq hheaders]

/-! ## A request with forged headers -/

/-- The visit of the guarded part, by a client that names itself. -/
def Site.forged : Head :=
  { visit with headers := ⟨applicationHeader, "9"⟩ :: visit.headers ++
      [⟨ownerHeader, "root"⟩, ⟨applicationHeader, "7"⟩] }

theorem Site.forged_agreeBut :
    Request.AgreeBut identityHeaders ⟨visit, .empty⟩ ⟨forged, .empty⟩ where
  method := rfl
  target := rfl
  body := rfl
  values name hname := by
    rw [identityHeaders, List.mem_cons, List.mem_singleton, not_or] at hname
    simp [forged, visit, Headers.values, List.filter_cons, Ne.symm hname.1, Ne.symm hname.2]

/-- What is forwarded of it is what would be without the forged headers, and names the owner and
the application of the token. -/
theorem identity_not_spoofable_site :
    ∃ out out' db',
      (screen Check.standard Site.admin .epoch ⟨Site.visit, .empty⟩).perform .none
        ⟨Site.store, none, 0⟩ = (.ok out, db') ∧
      (screen Check.standard Site.admin .epoch ⟨Site.forged, .empty⟩).perform .none
        ⟨Site.store, none, 0⟩ = (.ok out', db') ∧
      Request.AgreeBut [] out out' ∧
      out'.head.headers.values applicationHeader = ["1"] ∧
      out'.head.headers.values ownerHeader = ["owner"] := by
  have hadmits : Site.admin.Admits Site.store .none 0 .epoch Site.visit.headers .empty :=
    .token (t := Site.pass) rfl (by decide +kernel) rfl (List.mem_singleton_self _)
      ⟨rfl, by decide, by decide +kernel⟩
  obtain ⟨out, hout⟩ := Route.Admits.screen (r := ⟨Site.visit, .empty⟩) (by decide) hadmits
  rcases hrun : (screen Check.standard Site.admin .epoch ⟨Site.visit, .empty⟩).perform .none
    ⟨Site.store, none, 0⟩ with ⟨v, db'⟩
  rw [hrun] at hout
  obtain rfl : v = .ok out := hout
  obtain ⟨out', hrun', hagree⟩ := ((identity_not_spoofable Site.admin .epoch .none
    ⟨Site.store, none, 0⟩ ⟨Site.visit, .empty⟩).2 _ Site.forged_agreeBut).2.1 _ _ hrun
  obtain ⟨-, who, hwho, happlication, howner⟩ := (identity_not_spoofable Site.admin .epoch .none
    ⟨Site.store, none, 0⟩ ⟨Site.forged, .empty⟩).1 _ _ hrun'
  refine ⟨out, out', db', rfl, hrun', hagree, ?_⟩
  rw [happlication, howner]
  cases hwho with
  | anyone mode => cases mode
  | client mode => cases mode
  | token _ _ stored =>
    obtain rfl := List.mem_singleton.1 stored
    exact ⟨by decide +kernel, by decide +kernel⟩

end OAuthGateway

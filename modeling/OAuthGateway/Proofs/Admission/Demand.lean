import OAuthGateway.Admission.Check
import OAuthGateway.Gateway.Problem
import OAuthGateway.Proofs.Store.Transaction

/-!
# Proofs/Admission/Demand — what a route demands, and what it answers where that is missing

A route demands nothing, a live access token with the scopes of the route, or the credentials of an
application in the body.  `Route.Admits` is that demand, said of the headers, the body and the rows;
`Route.Rejects` lists the things that can be wrong, each under the condition that all before it are
right, with the answer that belongs to it.  Every request is admitted or rejected
(`admits_or_rejects`), and the checks of the gateway pass it or answer accordingly (`Admits.screen`,
`Rejects.screen`).
-/

namespace OAuthGateway

open Http Procedure Time

/-! ## The demand -/

/-- An access token opens a route at an instant: it is live then, and has the scopes that the route
asks for. -/
structure AccessToken.Opens (t : AccessToken) (route : Route) (now : Instant) : Prop where
  unrevoked : t.revokedAt = none
  unexpired : now < t.expiresAt
  covers : ∀ w ∈ Scope.words (route.scope.getD ""), w ∈ Scope.words t.scopes

/-- A body carries credentials: it is JSON of their shape with two texts that are not empty. -/
structure ClientCredentials.Carried (body : ByteArray) (uid secret : String) : Prop where
  nonempty : body.isEmpty = false
  read : Json.readAll schema.format.read (Text.pieces body) = .ok ⟨some uid, some secret⟩
  uid_ne : uid ≠ ""
  secret_ne : secret ≠ ""

/-- The application answers to the credentials. -/
structure Application.AnswersTo (a : Application) (uid secret : String) : Prop where
  uid_eq : a.clientUid = uid
  secret_eq : a.clientSecret = secret
  unrevoked : a.revokedAt = none

section Credentials

variable (route : Route) (s : Store) (faults : Faults) (n : ℕ) (now : Instant) (hs : Headers)
  (body : ByteArray)

/-- The request presents what the route asks for; the store is called once, as its call `n`. -/
inductive Route.Admits : Prop
  | anyone (mode : route.auth = .anyone)
  | token {t : AccessToken} (mode : route.auth = .token)
      (named : Bearer.ofHeaders? hs = some t.token)
      (answered : faults n .accessTokenByText = none) (stored : t ∈ s.accessTokens)
      (opens : t.Opens route now)
  | client {uid secret : String} {a : Application} (mode : route.auth = .client)
      (carried : ClientCredentials.Carried body uid secret)
      (answered : faults n .applicationByCredentials = none) (stored : a ∈ s.applications)
      (answers : a.AnswersTo uid secret)

/-- The first thing that is wrong with what the request presents, and what is answered to it. -/
inductive Route.Rejects : Problem → Prop
  | malformedBearer (mode : route.auth = .token) (unnamed : Bearer.ofHeaders? hs = none) :
      Rejects (.plain 401 "invalid_bearer_format" "missing or malformed bearer token")
  | tokenUnavailable {text : String} {e : StoreError} (mode : route.auth = .token)
      (named : Bearer.ofHeaders? hs = some text) (failed : faults n .accessTokenByText = some e)
      (fault : e ≠ .notFound) :
      Rejects (.plain 503 "service_unavailable" "credential store unavailable")
  | unknownToken {text : String} (mode : route.auth = .token)
      (named : Bearer.ofHeaders? hs = some text)
      (absent : faults n .accessTokenByText = some .notFound ∨
        faults n .accessTokenByText = none ∧ ∀ t ∈ s.accessTokens, t.token ≠ text) :
      Rejects (.plain 401 "token_not_found" "access token not found")
  | revokedToken {t : AccessToken} (mode : route.auth = .token)
      (named : Bearer.ofHeaders? hs = some t.token)
      (answered : faults n .accessTokenByText = none) (stored : t ∈ s.accessTokens)
      (revoked : t.revokedAt.isSome = true) :
      Rejects (.plain 401 "token_revoked" "access token revoked")
  | expiredToken {t : AccessToken} (mode : route.auth = .token)
      (named : Bearer.ofHeaders? hs = some t.token)
      (answered : faults n .accessTokenByText = none) (stored : t ∈ s.accessTokens)
      (unrevoked : t.revokedAt = none) (expired : t.expiresAt ≤ now) :
      Rejects (.plain 401 "token_expired" "access token expired")
  | missingScopes {t : AccessToken} (mode : route.auth = .token)
      (named : Bearer.ofHeaders? hs = some t.token)
      (answered : faults n .accessTokenByText = none) (stored : t ∈ s.accessTokens)
      (unrevoked : t.revokedAt = none) (unexpired : now < t.expiresAt)
      (missing : ∃ w ∈ Scope.words (route.scope.getD ""), w ∉ Scope.words t.scopes) :
      Rejects (.plain 403 "insufficient_scope" ("access token lacks required scopes: " ++
        " ".intercalate (Scope.missing (route.scope.getD "") t.scopes)))
  | missingBody (mode : route.auth = .client) (empty : body.isEmpty = true) :
      Rejects (.plain 422 "missing_body" "request body is required")
  /-- Which fault it is, and how the reader words it, is left open. -/
  | malformedBody {fault : Json.Fault} (mode : route.auth = .client)
      (nonempty : body.isEmpty = false)
      (read : Json.readAll ClientCredentials.schema.format.read (Text.pieces body) =
        .error fault) :
      Rejects (.plain 400 "malformed_body" ("request body is not valid JSON: " ++ fault.words))
  | missingCredentials {c : ClientCredentials} (mode : route.auth = .client)
      (nonempty : body.isEmpty = false)
      (read : Json.readAll ClientCredentials.schema.format.read (Text.pieces body) = .ok c)
      (missing : c.clientUid.getD "" = "" ∨ c.clientSecret.getD "" = "") :
      Rejects (.plain 422 "missing_credentials" "client_uid and client_secret are required")
  | clientUnavailable {uid secret : String} {e : StoreError} (mode : route.auth = .client)
      (carried : ClientCredentials.Carried body uid secret)
      (failed : faults n .applicationByCredentials = some e) (fault : e ≠ .notFound) :
      Rejects (.plain 503 "service_unavailable" "credential store unavailable")
  | unknownApplication {uid secret : String} (mode : route.auth = .client)
      (carried : ClientCredentials.Carried body uid secret)
      (absent : faults n .applicationByCredentials = some .notFound ∨
        faults n .applicationByCredentials = none ∧
          ∀ a ∈ s.applications, ¬ a.AnswersTo uid secret) :
      Rejects (.plain 401 "application_not_found" "application not found")

end Credentials

/-! ## Rows -/

namespace AccessToken

variable {t : AccessToken} {route : Route} {now : Instant}

/-- A revoked token opens nothing, whether it has expired or not. -/
theorem opens_of_revoked (h : t.revokedAt.isSome = true) :
    t.opens route now = .error .revokedToken := by
  rw [opens]
  exact if_pos h

/-- A token that is not revoked is looked at for its expiry, and then for its scopes. -/
theorem opens_of_unrevoked (h : t.revokedAt = none) :
    t.opens route now = if t.expiresAt ≤ now then .error .expiredToken
      else match Scope.missing (route.scope.getD "") t.scopes with
        | [] => .ok ()
        | scopes => .error (.missingScopes scopes) := by
  have hlive : ¬ Expiring.isRevoked t = true := by
    change ¬ t.revokedAt.isSome = true
    rw [h]
    exact Bool.false_ne_true
  rw [opens, if_neg hlive]
  exact if_congr decide_eq_true_iff rfl rfl

theorem opens_of_unexpired (h : t.revokedAt = none) (hunexpired : now < t.expiresAt) :
    t.opens route now = match Scope.missing (route.scope.getD "") t.scopes with
      | [] => .ok ()
      | scopes => .error (.missingScopes scopes) := by
  rw [opens_of_unrevoked h, if_neg (Instant.not_le.2 hunexpired)]

/-- What opens a route passes its check. -/
theorem Opens.opens (h : t.Opens route now) : t.opens route now = .ok () := by
  rw [opens_of_unexpired h.unrevoked h.unexpired, Scope.missing_eq_nil_iff.2 h.covers]

/-- A live token that lacks scopes is refused with their names. -/
theorem opens_of_missing (h : t.revokedAt = none) (hunexpired : now < t.expiresAt)
    (hmissing : ∃ w ∈ Scope.words (route.scope.getD ""), w ∉ Scope.words t.scopes) :
    t.opens route now =
      .error (.missingScopes (Scope.missing (route.scope.getD "") t.scopes)) := by
  obtain ⟨w, hw, hnot⟩ := hmissing
  rw [opens_of_unexpired h hunexpired]
  cases hscopes : Scope.missing (route.scope.getD "") t.scopes with
  | nil => exact absurd (Scope.missing_eq_nil_iff.1 hscopes w hw) hnot
  | cons _ _ => rfl

end AccessToken

namespace Store

variable {s : Store} {text uid secret : String}

/-- Where no two access tokens have the same text, a text names its row. -/
theorem accessTokenOfText_eq_ok (hdistinct : (s.accessTokens.map AccessToken.token).Nodup)
    {t : AccessToken} (ht : t ∈ s.accessTokens) : s.accessTokenOfText t.token = .ok t := by
  refine Table.found_eq_ok_iff.2 (Table.find?_eq_some_of_unique ht (beq_self_eq_true _) ?_)
  intro b hb htext
  exact List.inj_on_of_nodup_map hdistinct hb ht (beq_iff_eq.1 htext)

/-- A text that no access token has is not found. -/
theorem accessTokenOfText_eq_error (h : ∀ t ∈ s.accessTokens, t.token ≠ text) :
    s.accessTokenOfText text = .error .notFound := by
  refine Table.found_eq_error fun t ht htext => ?_
  exact h t ht (beq_iff_eq.1 htext)

/-- The lookup of a client takes the applications that answer to the credentials. -/
theorem client_matches_iff {a : Application} :
    (a.clientUid == uid && a.clientSecret == secret && a.revokedAt.isNone) = true ↔
      a.AnswersTo uid secret := by
  rw [Bool.and_eq_true, Bool.and_eq_true, beq_iff_eq, beq_iff_eq, Option.isNone_iff_eq_none]
  exact ⟨fun ⟨⟨huid, hsecret⟩, hlive⟩ => ⟨huid, hsecret, hlive⟩,
    fun h => ⟨⟨h.uid_eq, h.secret_eq⟩, h.unrevoked⟩⟩

/-- An application that answers to some credentials is found by them, or another one is. -/
theorem exists_client {a : Application} (ha : a ∈ s.applications) (h : a.AnswersTo uid secret) :
    ∃ app, s.client uid secret = .ok app := by
  have hfound : (s.applications.find? fun a => a.clientUid == uid && a.clientSecret == secret &&
      a.revokedAt.isNone).isSome = true :=
    List.find?_isSome.2 ⟨a, ha, client_matches_iff.2 h⟩
  obtain ⟨app, happ⟩ := Option.isSome_iff_exists.1 hfound
  exact ⟨app, Table.found_eq_ok_iff.2 happ⟩

/-- Credentials that no application answers to are not found. -/
theorem client_eq_error (h : ∀ a ∈ s.applications, ¬ a.AnswersTo uid secret) :
    s.client uid secret = .error .notFound := by
  refine Table.found_eq_error fun a ha hmatches => ?_
  exact h a ha (client_matches_iff.1 hmatches)

end Store

/-! ## Bodies -/

namespace ClientCredentials

variable {body : ByteArray}

theorem ofBody_of_empty (h : body.isEmpty = true) : ofBody body = .error .missingBody := by
  rw [ofBody, if_pos h]

/-- A body that is not JSON of the shape is malformed. -/
theorem ofBody_of_fault {fault : Json.Fault} (h : body.isEmpty = false)
    (hread : Json.readAll schema.format.read (Text.pieces body) = .error fault) :
    ofBody body = .error (.malformedBody fault.words) := by
  rw [ofBody, h, if_neg Bool.false_ne_true, hread]

/-- A body that lacks one of the credentials, or has it empty, carries none. -/
theorem ofBody_of_missing {c : ClientCredentials} (h : body.isEmpty = false)
    (hread : Json.readAll schema.format.read (Text.pieces body) = .ok c)
    (hmissing : c.clientUid.getD "" = "" ∨ c.clientSecret.getD "" = "") :
    ofBody body = .error .missingCredentials := by
  obtain ⟨uid, secret⟩ := c
  rw [ofBody, h, if_neg Bool.false_ne_true, hread]
  rcases uid with _ | uid
  · rfl
  rcases secret with _ | secret
  · rfl
  exact if_pos (by simpa using hmissing)

/-- Credentials that a body carries are read. -/
theorem Carried.ofBody {uid secret : String} (h : Carried body uid secret) :
    ofBody body = .ok (uid, secret) := by
  rw [ClientCredentials.ofBody, h.nonempty, if_neg Bool.false_ne_true, h.read]
  exact if_neg (by simp [h.uid_ne, h.secret_ne])

/-- What is read are credentials that the body carries. -/
theorem carried_of_ofBody {uid secret : String} (h : ofBody body = .ok (uid, secret)) :
    Carried body uid secret := by
  rw [ofBody] at h
  split at h
  · cases h
  rename_i hnonempty
  split at h
  · cases h
  · rename_i hread
    split at h
    · cases h
    · rename_i hpresent
      cases h
      simp only [Bool.or_eq_true, decide_eq_true_eq, not_or] at hpresent
      exact ⟨Bool.eq_false_iff.2 hnonempty, hread, hpresent.1, hpresent.2⟩
  · cases h

/-- Two texts that are not empty are credentials. -/
theorem exists_carried {c : ClientCredentials} (h : body.isEmpty = false)
    (hread : Json.readAll schema.format.read (Text.pieces body) = .ok c)
    (hpresent : ¬ (c.clientUid.getD "" = "" ∨ c.clientSecret.getD "" = "")) :
    ∃ uid secret, Carried body uid secret := by
  obtain ⟨uid, secret⟩ := c
  rw [not_or] at hpresent
  rcases uid with _ | uid
  · exact absurd rfl hpresent.1
  rcases secret with _ | secret
  · exact absurd rfl hpresent.2
  exact ⟨uid, secret, h, hread, hpresent.1, hpresent.2⟩

end ClientCredentials

/-! ## The checks of a route

Of the two checks, at most one acts on a route, so the screen is that one. -/

section Screen

variable {route : Route} {s : Store} {faults : Faults} {n : ℕ} {now : Instant} {r : Request}

/-- A route for anyone is screened by nothing but the removal of identity headers. -/
theorem screen_of_anyone (mode : route.auth = .anyone) :
    screen Check.standard route now r = pure r.withoutIdentity := by
  simp only [screen, Check.standard, List.foldlM_cons, List.foldlM_nil, Check.run, mode, pure_bind]

/-- A route for tokens is screened by the check of tokens alone. -/
theorem screen_of_token (mode : route.auth = .token) :
    screen Check.standard route now r = Check.acceptToken route now r.withoutIdentity := by
  simp only [screen, Check.standard, List.foldlM_cons, List.foldlM_nil, Check.run, mode, bind_pure]

/-- A route for clients is screened by the check of clients alone. -/
theorem screen_of_client (mode : route.auth = .client) :
    screen Check.standard route now r = Check.acceptClient r.withoutIdentity := by
  simp only [screen, Check.standard, List.foldlM_cons, List.foldlM_nil, Check.run, mode, pure_bind,
    bind_pure]

/-- Identity headers are no bearer tokens: taking them off keeps the token. -/
theorem ofHeaders?_withoutIdentity :
    Bearer.ofHeaders? r.withoutIdentity.head.headers = Bearer.ofHeaders? r.head.headers := by
  rw [Bearer.ofHeaders?, Request.withoutIdentity, Headers.first?_without_of_ne (by decide),
    Headers.first?_without_of_ne (by decide)]
  rfl

/-! ### What the screen answers -/

/-- Without a token in the headers, nothing is looked up. -/
theorem screen_of_unnamed (mode : route.auth = .token)
    (unnamed : Bearer.ofHeaders? r.head.headers = none) (db : Database) :
    (screen Check.standard route now r).perform faults db = (.error .malformedBearer, db) := by
  rw [← ofHeaders?_withoutIdentity] at unnamed
  simp only [screen_of_token mode, Check.acceptToken, unnamed, perform_bind, perform_throw]

/-- The token of the headers is looked up, and has to open the route. -/
theorem acceptToken_answer_of_named {text : String}
    (named : Bearer.ofHeaders? r.head.headers = some text) :
    ((Check.acceptToken route now r).perform faults ⟨s, none, n⟩).1 =
      match faults n .accessTokenByText with
      | some e => .error (.ofLookup .unknownToken e)
      | none =>
        match s.accessTokenOfText text with
        | .error e => .error (.ofLookup .unknownToken e)
        | .ok t => (t.opens route now).map fun _ =>
            (r.withIdentity ownerHeader t.resourceOwnerId).withIdentity applicationHeader
              (String.ofList (Text.integer t.applicationId)) := by
  have hvisible : Database.visible ⟨s, none, n⟩ = s := rfl
  simp only [Check.acceptToken, named, pure_bind, perform_bind, perform_mapError,
    Database.accessTokenOfText, perform_look, hvisible]
  cases faults n .accessTokenByText with
  | some e => rfl
  | none =>
    cases s.accessTokenOfText text with
    | error e => rfl
    | ok t =>
      simp only [Except.mapError, perform_verdict]
      cases t.opens route now <;> rfl

theorem screen_answer_of_named {text : String} (mode : route.auth = .token)
    (named : Bearer.ofHeaders? r.head.headers = some text) :
    ((screen Check.standard route now r).perform faults ⟨s, none, n⟩).1 =
      match faults n .accessTokenByText with
      | some e => .error (.ofLookup .unknownToken e)
      | none =>
        match s.accessTokenOfText text with
        | .error e => .error (.ofLookup .unknownToken e)
        | .ok t => (t.opens route now).map fun _ =>
            (r.withoutIdentity.withIdentity ownerHeader t.resourceOwnerId).withIdentity
              applicationHeader (String.ofList (Text.integer t.applicationId)) := by
  rw [screen_of_token mode]
  exact acceptToken_answer_of_named (ofHeaders?_withoutIdentity.trans named)

theorem screen_answer_of_ofBody {e : Rejection} (mode : route.auth = .client)
    (h : ClientCredentials.ofBody r.body = .error e) :
    ((screen Check.standard route now r).perform faults ⟨s, none, n⟩).1 = .error e := by
  have hbody : ClientCredentials.ofBody r.withoutIdentity.body = .error e := h
  simp only [screen_of_client mode, Check.acceptClient, hbody, perform_bind, perform_verdict]

/-- The credentials of the body have to be those of an application. -/
theorem screen_answer_of_carried {uid secret : String} (mode : route.auth = .client)
    (carried : ClientCredentials.Carried r.body uid secret) :
    ((screen Check.standard route now r).perform faults ⟨s, none, n⟩).1 =
      match faults n .applicationByCredentials with
      | some e => .error (.ofLookup .unknownApplication e)
      | none =>
        match s.client uid secret with
        | .error e => .error (.ofLookup .unknownApplication e)
        | .ok app => .ok (r.withoutIdentity.withIdentity applicationHeader
            (String.ofList (Text.integer app.id))) := by
  have hvisible : Database.visible ⟨s, none, n⟩ = s := rfl
  have hbody : ClientCredentials.ofBody r.withoutIdentity.body = .ok (uid, secret) :=
    carried.ofBody
  simp only [screen_of_client mode, Check.acceptClient, hbody, perform_bind, perform_verdict,
    perform_mapError, Database.client, perform_look, hvisible]
  cases faults n .applicationByCredentials with
  | some e => rfl
  | none => cases s.client uid secret <;> rfl

/-- A token that is stored decides by what its row opens. -/
theorem screen_answer_of_stored (hdistinct : (s.accessTokens.map AccessToken.token).Nodup)
    {t : AccessToken} (mode : route.auth = .token)
    (named : Bearer.ofHeaders? r.head.headers = some t.token)
    (answered : faults n .accessTokenByText = none) (stored : t ∈ s.accessTokens) :
    ((screen Check.standard route now r).perform faults ⟨s, none, n⟩).1 =
      (t.opens route now).map fun _ =>
        (r.withoutIdentity.withIdentity ownerHeader t.resourceOwnerId).withIdentity
          applicationHeader (String.ofList (Text.integer t.applicationId)) := by
  rw [screen_answer_of_named mode named, answered, Store.accessTokenOfText_eq_ok hdistinct stored]

/-- **What is admitted passes the screen.** -/
theorem Route.Admits.screen (hdistinct : (s.accessTokens.map AccessToken.token).Nodup)
    (h : route.Admits s faults n now r.head.headers r.body) :
    ∃ q, ((screen Check.standard route now r).perform faults ⟨s, none, n⟩).1 = .ok q := by
  cases h with
  | anyone mode =>
    rw [screen_of_anyone mode]
    exact ⟨_, rfl⟩
  | token mode named answered stored opens =>
    rw [screen_answer_of_stored hdistinct mode named answered stored, opens.opens]
    exact ⟨_, rfl⟩
  | client mode carried answered stored answers =>
    obtain ⟨app, hfound⟩ := Store.exists_client stored answers
    rw [screen_answer_of_carried mode carried, answered, hfound]
    exact ⟨_, rfl⟩

/-- A lookup that failed is no proof that there is nothing. -/
theorem Rejection.ofLookup_of_ne {e : StoreError} (h : e ≠ .notFound) (unknown : Rejection) :
    ofLookup unknown e = .storeUnavailable := by
  cases e with
  | notFound => exact absurd rfl h
  | timeout | database | migration => rfl

/-- **What is rejected is answered so by the screen.** -/
theorem Route.Rejects.screen (hdistinct : (s.accessTokens.map AccessToken.token).Nodup)
    {p : Problem} (h : route.Rejects s faults n now r.head.headers r.body p) :
    ∃ e, ((screen Check.standard route now r).perform faults ⟨s, none, n⟩).1 = .error e ∧
      p = .ofRejection e := by
  cases h with
  | malformedBearer mode unnamed =>
    exact ⟨_, congrArg Prod.fst (screen_of_unnamed mode unnamed _), rfl⟩
  | tokenUnavailable mode named failed fault =>
    rw [screen_answer_of_named mode named, failed]
    exact ⟨_, rfl, by rw [Rejection.ofLookup_of_ne fault]; rfl⟩
  | unknownToken mode named absent =>
    rw [screen_answer_of_named mode named]
    rcases absent with hfault | ⟨answered, habsent⟩
    · rw [hfault]
      exact ⟨_, rfl, rfl⟩
    · rw [answered, Store.accessTokenOfText_eq_error habsent]
      exact ⟨_, rfl, rfl⟩
  | revokedToken mode named answered stored revoked =>
    rw [screen_answer_of_stored hdistinct mode named answered stored,
      AccessToken.opens_of_revoked revoked]
    exact ⟨_, rfl, rfl⟩
  | expiredToken mode named answered stored unrevoked expired =>
    rw [screen_answer_of_stored hdistinct mode named answered stored,
      AccessToken.opens_of_unrevoked unrevoked, if_pos expired]
    exact ⟨_, rfl, rfl⟩
  | missingScopes mode named answered stored unrevoked unexpired missing =>
    rw [screen_answer_of_stored hdistinct mode named answered stored,
      AccessToken.opens_of_missing unrevoked unexpired missing]
    exact ⟨_, rfl, rfl⟩
  | missingBody mode empty =>
    exact ⟨_, screen_answer_of_ofBody mode (ClientCredentials.ofBody_of_empty empty), rfl⟩
  | malformedBody mode nonempty read =>
    have hbody := ClientCredentials.ofBody_of_fault nonempty read
    exact ⟨_, screen_answer_of_ofBody mode hbody, rfl⟩
  | missingCredentials mode nonempty read missing =>
    have hbody := ClientCredentials.ofBody_of_missing nonempty read missing
    exact ⟨_, screen_answer_of_ofBody mode hbody, rfl⟩
  | clientUnavailable mode carried failed fault =>
    rw [screen_answer_of_carried mode carried, failed]
    exact ⟨_, rfl, by rw [Rejection.ofLookup_of_ne fault]; rfl⟩
  | unknownApplication mode carried absent =>
    rw [screen_answer_of_carried mode carried]
    rcases absent with hfault | ⟨answered, habsent⟩
    · rw [hfault]
      exact ⟨_, rfl, rfl⟩
    · rw [answered, Store.client_eq_error habsent]
      exact ⟨_, rfl, rfl⟩

end Screen

/-! ## Every request is admitted or rejected

Each question is asked where all before it were answered well, and its two answers are an admission
or a rejection in the end. -/

section Total

variable (route : Route) (s : Store) (faults : Faults) (n : ℕ) (now : Instant) (hs : Headers)
  (body : ByteArray)

theorem admits_or_rejects_of_token (mode : route.auth = .token) :
    route.Admits s faults n now hs body ∨ ∃ p, route.Rejects s faults n now hs body p := by
  rcases hnamed : Bearer.ofHeaders? hs with _ | text
  · exact .inr ⟨_, .malformedBearer mode hnamed⟩
  rcases hanswered : faults n .accessTokenByText with _ | e
  · by_cases hstored : ∃ t ∈ s.accessTokens, t.token = text
    · obtain ⟨t, hstored, rfl⟩ := hstored
      rcases hrevoked : t.revokedAt with _ | moment
      · by_cases hexpired : t.expiresAt ≤ now
        · exact .inr ⟨_, .expiredToken mode hnamed hanswered hstored hrevoked hexpired⟩
        · have hunexpired : now < t.expiresAt := Instant.not_le.1 hexpired
          by_cases hcovers : ∀ w ∈ Scope.words (route.scope.getD ""), w ∈ Scope.words t.scopes
          · exact .inl (.token mode hnamed hanswered hstored ⟨hrevoked, hunexpired, hcovers⟩)
          · push Not at hcovers
            exact .inr ⟨_, .missingScopes mode hnamed hanswered hstored hrevoked hunexpired
              hcovers⟩
      · exact .inr ⟨_, .revokedToken mode hnamed hanswered hstored (by rw [hrevoked]; rfl)⟩
    · push Not at hstored
      exact .inr ⟨_, .unknownToken mode hnamed (.inr ⟨hanswered, hstored⟩)⟩
  · by_cases hfault : e = .notFound
    · exact .inr ⟨_, .unknownToken mode hnamed (.inl (hfault ▸ hanswered))⟩
    · exact .inr ⟨_, .tokenUnavailable mode hnamed hanswered hfault⟩

theorem admits_or_rejects_of_client (mode : route.auth = .client) :
    route.Admits s faults n now hs body ∨ ∃ p, route.Rejects s faults n now hs body p := by
  rcases hempty : body.isEmpty with _ | _
  · rcases hread : Json.readAll ClientCredentials.schema.format.read (Text.pieces body) with e | c
    · exact .inr ⟨_, .malformedBody mode hempty hread⟩
    · by_cases hmissing : c.clientUid.getD "" = "" ∨ c.clientSecret.getD "" = ""
      · exact .inr ⟨_, .missingCredentials mode hempty hread hmissing⟩
      · obtain ⟨uid, secret, hcarried⟩ :=
          ClientCredentials.exists_carried hempty hread hmissing
        rcases hanswered : faults n .applicationByCredentials with _ | e
        · by_cases hstored : ∃ a ∈ s.applications, a.AnswersTo uid secret
          · obtain ⟨a, hstored, hanswers⟩ := hstored
            exact .inl (.client mode hcarried hanswered hstored hanswers)
          · push Not at hstored
            exact .inr ⟨_, .unknownApplication mode hcarried (.inr ⟨hanswered, hstored⟩)⟩
        · by_cases hfault : e = .notFound
          · exact .inr ⟨_, .unknownApplication mode hcarried (.inl (hfault ▸ hanswered))⟩
          · exact .inr ⟨_, .clientUnavailable mode hcarried hanswered hfault⟩
  · exact .inr ⟨_, .missingBody mode hempty⟩

/-- **Every request is admitted or rejected.** -/
theorem admits_or_rejects :
    route.Admits s faults n now hs body ∨ ∃ p, route.Rejects s faults n now hs body p := by
  rcases hmode : route.auth with _ | _ | _
  · exact .inl (.anyone hmode)
  · exact admits_or_rejects_of_token route s faults n now hs body hmode
  · exact admits_or_rejects_of_client route s faults n now hs body hmode

end Total

end OAuthGateway

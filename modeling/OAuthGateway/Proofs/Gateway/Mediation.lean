import OAuthGateway.Gateway.Proxy
import OAuthGateway.Proofs.Admission.Demand
import OAuthGateway.Proofs.Route.Selection

/-!
# Proofs/Gateway/Mediation — what is forwarded, and what is answered instead

A request whose body arrives is `Admitted` when its path has no dot segment, a route is found for
it, its body is not too long, and it presents what the route asks for (`Route.Admits`).  It is
`Refused` for the first of these that fails, with the answer that belongs to it.  These are the two
sides of `dispatch`, whatever is stored and whatever fails, and nothing else is sent or answered
(`complete_mediation`).

Only the way to the answer has to be computed (`Admitted.dispatch`, `Refused.dispatch`): every
request is one or the other (`admitted_or_refused`), so an answer tells which.
-/

namespace OAuthGateway

open Http Procedure Time

namespace Gateway

section Request

variable (g : Gateway) (s : Store) (faults : Faults) (n : ℕ) (now : Instant) (head : Head)
  (body : ByteArray)

/-- Nothing stands against forwarding the request. -/
inductive Admitted : Prop
  | of {route : Route} (clean : Path.hasDotSegment head.target.path.toList = false)
      (found : g.routes.find head.method head.target.path = some route)
      (fits : body.size ≤ g.settings.maxBodyBytes)
      (admits : route.Admits s faults n now head.headers body)

/-- The first thing that stands against forwarding the request, and what is answered to it. -/
inductive Refused : Problem → Prop
  | dotSegment (unclean : Path.hasDotSegment head.target.path.toList = true) :
      Refused (.plain 400 "invalid_path" "path must not contain '.' or '..' segments")
  | noRoute (clean : Path.hasDotSegment head.target.path.toList = false)
      (unfound : g.routes.find head.method head.target.path = none) :
      Refused (.plain 404 "route_not_found" ("no route matches " ++ head.target.path))
  | tooLong {route : Route} (clean : Path.hasDotSegment head.target.path.toList = false)
      (found : g.routes.find head.method head.target.path = some route)
      (long : g.settings.maxBodyBytes < body.size) :
      Refused (.plain 413 "payload_too_large" ("request body exceeds " ++
        String.ofList (Text.natural g.settings.maxBodyBytes) ++ " bytes"))
  | credential {route : Route} {p : Problem}
      (clean : Path.hasDotSegment head.target.path.toList = false)
      (found : g.routes.find head.method head.target.path = some route)
      (fits : body.size ≤ g.settings.maxBodyBytes)
      (rejects : route.Rejects s faults n now head.headers body p) :
      Refused p

/-- **Every request is admitted or refused.** -/
theorem admitted_or_refused :
    g.Admitted s faults n now head body ∨ ∃ p, g.Refused s faults n now head body p := by
  rcases hclean : Path.hasDotSegment head.target.path.toList with _ | _
  · rcases hfound : g.routes.find head.method head.target.path with _ | route
    · exact .inr ⟨_, .noRoute hclean hfound⟩
    by_cases hfits : body.size ≤ g.settings.maxBodyBytes
    · rcases admits_or_rejects route s faults n now head.headers body with hadmits | ⟨p, hrejects⟩
      · exact .inl (.of hclean hfound hfits hadmits)
      · exact .inr ⟨p, .credential hclean hfound hfits hrejects⟩
    · exact .inr ⟨_, .tooLong hclean hfound (Nat.lt_of_not_le hfits)⟩
  · exact .inr ⟨_, .dotSegment hclean⟩

end Request

section Dispatch

variable {g : Gateway} {s : Store} {faults : Faults} {n : ℕ} {now : Instant} {head : Head}
  {body : ByteArray}

theorem receiveBody_of_fits (h : body.size ≤ g.settings.maxBodyBytes) :
    g.receiveBody (.whole body) = .ok body := by
  rw [receiveBody, Stream.receive, if_neg (Nat.not_lt.2 h)]

theorem receiveBody_of_long (h : g.settings.maxBodyBytes < body.size) :
    g.receiveBody (.whole body) = .error (.payloadTooLarge g.settings.maxBodyBytes) := by
  rw [receiveBody, Stream.receive, if_pos h]

theorem receiveBody_ok {stream : Stream} (h : g.receiveBody stream = .ok body) :
    stream = .whole body ∧ body.size ≤ g.settings.maxBodyBytes := by
  cases stream with
  | broken => cases h
  | whole bytes =>
    rw [receiveBody, Stream.receive] at h
    split at h <;> rename_i hreceived
    · split at hreceived <;> rename_i hlong
      · cases hreceived
      · cases h
        cases hreceived
        exact ⟨rfl, Nat.not_lt.1 hlong⟩
    · cases h
    · cases h

/-- Behind path, route and body, the screen of the route decides. -/
theorem dispatch_answer_of_found {route : Route}
    (clean : Path.hasDotSegment head.target.path.toList = false)
    (found : g.routes.find head.method head.target.path = some route)
    (fits : body.size ≤ g.settings.maxBodyBytes) :
    ((g.dispatch now ⟨head, .whole body⟩).perform faults ⟨s, none, n⟩).1 =
      (((screen Check.standard route now ⟨head, body⟩).perform faults ⟨s, none, n⟩).1.mapError
        Problem.ofRejection).map (Outgoing.ofRequest route) := by
  simp only [dispatch, clean, found, receiveBody_of_fits fits, perform_bind, perform_verdict,
    perform_mapError, Bool.false_eq_true, if_false, perform_pure]
  rcases (screen Check.standard route now ⟨head, body⟩).perform faults ⟨s, none, n⟩ with
    ⟨e | q, db⟩ <;> rfl

/-- **What is admitted is forwarded.** -/
theorem Admitted.dispatch (hdistinct : (s.accessTokens.map AccessToken.token).Nodup)
    (h : g.Admitted s faults n now head body) :
    ∃ out, ((g.dispatch now ⟨head, .whole body⟩).perform faults ⟨s, none, n⟩).1 = .ok out := by
  obtain ⟨clean, found, fits, admits⟩ := h
  obtain ⟨q, hscreen⟩ := Route.Admits.screen (r := ⟨head, body⟩) hdistinct admits
  rw [dispatch_answer_of_found clean found fits, hscreen]
  exact ⟨_, rfl⟩

/-- **What is refused is answered so.** -/
theorem Refused.dispatch (hdistinct : (s.accessTokens.map AccessToken.token).Nodup) {p : Problem}
    (h : g.Refused s faults n now head body p) :
    ((g.dispatch now ⟨head, .whole body⟩).perform faults ⟨s, none, n⟩).1 = .error p := by
  cases h with
  | dotSegment unclean =>
    simp only [Gateway.dispatch, unclean, perform_bind, perform_throw, if_true]
    rfl
  | noRoute clean unfound =>
    simp only [Gateway.dispatch, clean, unfound, perform_throw, Bool.false_eq_true, if_false]
    rfl
  | tooLong clean found long =>
    simp only [Gateway.dispatch, clean, found, receiveBody_of_long long, perform_bind,
      perform_verdict, Bool.false_eq_true, if_false]
    rfl
  | credential clean found fits rejects =>
    obtain ⟨e, hscreen, rfl⟩ := Route.Rejects.screen (r := ⟨head, body⟩) hdistinct rejects
    rw [dispatch_answer_of_found clean found fits, hscreen]
    rfl

/-- Only what is handed on reaches the network. -/
theorem proxy_of_dispatch_error {r : Incoming} {p : Problem}
    (h : ((g.dispatch now r).perform faults ⟨s, none, n⟩).1 = .error p) (network : Network) :
    ((g.proxy network now r).perform faults ⟨s, none, n⟩).1 = .error p := by
  rw [proxy, perform_bind]
  rcases hrun : (g.dispatch now r).perform faults ⟨s, none, n⟩ with ⟨e | out, db⟩ <;>
    rw [hrun] at h <;> cases h
  rfl

/-- **What the screen of its route rejects is not handed on**, whatever else is wrong with it. -/
theorem dispatch_of_rejected {r : Incoming} {route : Route}
    (found : g.routes.find r.head.method r.head.target.path = some route)
    (rejected : ∀ body, r.stream = .whole body → ∃ e,
      ((screen Check.standard route now ⟨r.head, body⟩).perform faults ⟨s, none, n⟩).1 =
        .error e) :
    ∃ p, ((g.dispatch now r).perform faults ⟨s, none, n⟩).1 = .error p := by
  obtain ⟨head, stream⟩ := r
  cases hclean : Path.hasDotSegment head.target.path.toList with
  | true =>
    refine ⟨.invalidPath, ?_⟩
    simp only [dispatch, hclean, perform_bind, perform_throw, if_true]
  | false =>
    cases hbody : g.receiveBody stream with
    | error p =>
      refine ⟨p, ?_⟩
      simp only [dispatch, hclean, found, hbody, perform_bind, perform_verdict, Bool.false_eq_true,
        if_false]
    | ok body =>
      obtain ⟨rfl, fits⟩ := receiveBody_ok hbody
      obtain ⟨e, hscreen⟩ := rejected body rfl
      rw [dispatch_answer_of_found hclean found fits, hscreen]
      exact ⟨_, rfl⟩

end Dispatch

/-- **Complete mediation.**  Of the requests whose body arrives, exactly the admitted ones are
handed on, every other one is answered for the first thing that stands against it, and only what was
handed on reaches the network.  No two access tokens have the same text, as the index of their table
has it. -/
theorem complete_mediation (g : Gateway) (now : Instant) (head : Head) (body : ByteArray)
    (s : Store) (hdistinct : (s.accessTokens.map AccessToken.token).Nodup) (faults : Faults)
    (n : ℕ) :
    ((∃ out, ((g.dispatch now ⟨head, .whole body⟩).perform faults ⟨s, none, n⟩).1 = .ok out) ↔
      g.Admitted s faults n now head body) ∧
    (∀ p, ((g.dispatch now ⟨head, .whole body⟩).perform faults ⟨s, none, n⟩).1 = .error p ↔
      g.Refused s faults n now head body p) ∧
    ∀ network, (g.proxy network now ⟨head, .whole body⟩).perform faults ⟨s, none, n⟩ =
      match (g.dispatch now ⟨head, .whole body⟩).perform faults ⟨s, none, n⟩ with
      | (.ok out, db) => (forward network out, db)
      | (.error p, db) => (.error p, db) := by
  refine ⟨⟨fun ⟨out, hout⟩ => ?_, fun hadmitted => hadmitted.dispatch hdistinct⟩,
    fun p => ⟨fun hp => ?_, fun hrefused => hrefused.dispatch hdistinct⟩, fun network => ?_⟩
  · rcases admitted_or_refused g s faults n now head body with hadmitted | ⟨p, hrefused⟩
    · exact hadmitted
    · rw [hrefused.dispatch hdistinct] at hout
      cases hout
  · rcases admitted_or_refused g s faults n now head body with hadmitted | ⟨p', hrefused⟩
    · obtain ⟨out, hout⟩ := hadmitted.dispatch hdistinct
      rw [hp] at hout
      cases hout
    · rw [hrefused.dispatch hdistinct] at hp
      cases hp
      exact hrefused
  · rw [proxy, perform_bind]
    rcases (g.dispatch now ⟨head, .whole body⟩).perform faults ⟨s, none, n⟩ with ⟨p | out, db⟩ <;>
      rfl

end Gateway

/-! ## A request for the guarded part -/

namespace Site

def gateway : Gateway := ⟨.standard, ⟨.standard, false⟩, table⟩

/-- A token for the guarded part; it is good until the last instant. -/
def pass : AccessToken := ⟨1, 1, "owner", "pass", "admin", .last, .epoch, none⟩

def store : Store := { Store.empty with accessTokens := [pass] }

/-- A request that presents the token. -/
def visit : Head := ⟨"GET", ⟨"/admin/users", none⟩, [⟨"authorization", "Bearer pass"⟩]⟩

end Site

namespace Gateway

/-- While the token is good the request is handed on, and when it has expired it is refused. -/
theorem complete_mediation_site :
    (∃ out, ((Site.gateway.dispatch .epoch ⟨Site.visit, .whole .empty⟩).perform .none
      ⟨Site.store, none, 0⟩).1 = .ok out) ∧
    ((Site.gateway.dispatch .last ⟨Site.visit, .whole .empty⟩).perform .none
      ⟨Site.store, none, 0⟩).1 =
        .error (.plain 401 "token_expired" "access token expired") := by
  have hdistinct : (Site.store.accessTokens.map AccessToken.token).Nodup := by decide
  have hclean : Path.hasDotSegment Site.visit.target.path.toList = false := by decide +kernel
  have hfound : Site.gateway.routes.find Site.visit.method Site.visit.target.path =
      some Site.admin := by decide +kernel
  have hfits : ByteArray.empty.size ≤ Site.gateway.settings.maxBodyBytes := by decide
  have hnamed : Bearer.ofHeaders? Site.visit.headers = some Site.pass.token := by decide +kernel
  have hstored : Site.pass ∈ Site.store.accessTokens := List.mem_singleton_self _
  constructor
  · refine (complete_mediation Site.gateway .epoch Site.visit .empty Site.store hdistinct .none
      0).1.2 (.of hclean hfound hfits (.token rfl hnamed rfl hstored ⟨rfl, ?_, ?_⟩))
    · decide
    · decide +kernel
  · refine ((complete_mediation Site.gateway .last Site.visit .empty Site.store hdistinct .none
      0).2.1 _).2 (.credential hclean hfound hfits (.expiredToken rfl hnamed rfl hstored rfl ?_))
    decide

end Gateway

end OAuthGateway

import Mathlib.Data.List.Induction
import OAuthGateway.Proofs.Gateway.Mediation

/-!
# Proofs/Gateway/Hop — what crosses from one connection to the next

A message crosses the gateway twice, as a request and as its response, and both times headers are
handed on one by one.  What they have in common is `Headers.Cross`: every value of every name is
still there, in its order, but for the names that belong to one connection, of which there is none
(`cross_passedOn`).  Method, address, status and body go along unchanged, so a hop loses, merges and
invents nothing (`hop_lossless`).

An `Outgoing` is what the client that sends requests is given.  What that client does on its own,
such as naming the media types it accepts where the request names none, or naming the user that the
address names, is part of the `Network`.
-/

namespace OAuthGateway

open Http Procedure Time

/-! ## Headers

Headers are handed on one at a time, which keeps all values of a name apart and in order. -/

/-- Names that belong to a connection are gone, and every other one has the values it had, in their
order. -/
structure Http.Headers.Cross (hs hs' : Headers) : Prop where
  kept : ∀ name, name ∉ connectionHeaders → hs'.values name = hs.values name
  dropped : ∀ name ∈ connectionHeaders, hs'.values name = []

/-- One by one, all headers are handed on but those of the connection. -/
theorem Http.Headers.passedOn_eq_filter (hs : Headers) :
    hs.passedOn = hs.filter fun h => !connectionHeaders.contains h.name := by
  induction hs using List.reverseRecOn with
  | nil => rfl
  | append_singleton hs h ih =>
    rw [passedOn, List.foldl_concat, ← passedOn, ih, List.filter_append]
    by_cases hhop : connectionHeaders.contains h.name = true
    · have hdropped : [h].filter (fun h => !connectionHeaders.contains h.name) = [] := by
        simp only [List.filter_cons, hhop, Bool.not_true, Bool.false_eq_true, if_false,
          List.filter_nil]
      rw [if_pos hhop, hdropped, List.append_nil]
    · have hsent : [h].filter (fun h => !connectionHeaders.contains h.name) = [h] := by
        simp only [List.filter_cons, hhop, Bool.not_false, if_true, List.filter_nil]
      rw [if_neg hhop, hsent, add]

/-- **What is handed on has crossed**, however often a name stands and in whatever order. -/
theorem Http.Headers.cross_passedOn (hs : Headers) : Cross hs hs.passedOn where
  kept name hname := by
    rw [passedOn_eq_filter, values, List.filter_filter, values]
    refine congrArg _ (List.filter_congr fun h _ => ?_)
    by_cases hsame : h.name = name
    · simp [hsame, hname]
    · simp [hsame]
  dropped name hname := by
    rw [passedOn_eq_filter, values, List.filter_filter, List.map_eq_nil_iff, List.filter_eq_nil_iff]
    intro h _ hboth
    rw [Bool.and_eq_true, beq_iff_eq] at hboth
    simp [hboth.1, hname] at hboth

/-! ## Requests and responses -/

/-- The request that is sent says what the other one says, at the address that its route gives. -/
structure Outgoing.Conveys (out : Outgoing) (route : Route) (r : Request) : Prop where
  method : out.method = r.head.method
  url : out.url = route.url r.head.target.path r.head.target.query
  body : out.body = r.body
  headers : r.head.headers.Cross out.headers

/-- **What is sent conveys what was asked**: a request without a body is one with an empty body. -/
theorem Outgoing.conveys_ofRequest (route : Route) (r : Request) :
    (ofRequest route r).Conveys route r := by
  rw [ofRequest]
  split
  next hempty =>
    have hbody : r.body = .empty :=
      ByteArray.size_eq_zero_iff.1 (beq_iff_eq.1 hempty)
    exact ⟨rfl, rfl, hbody.symm, Headers.cross_passedOn _⟩
  next => exact ⟨rfl, rfl, rfl, Headers.cross_passedOn _⟩

/-- The response says what the service has answered. -/
structure Http.Response.Returns (response : Response) (status : ℕ) (headers : Headers)
    (body : ByteArray) : Prop where
  status : response.status = status
  body : response.body = body
  headers : headers.Cross response.headers

/-- An answer that arrives whole is returned. -/
theorem exists_returns {network : Network} {out : Outgoing} (hsendable : out.isSendable = true)
    {status : ℕ} {headers : Headers} {body : ByteArray}
    (hreply : network out = .answered status headers (.whole body)) :
    ∃ response, forward network out = .ok response ∧ response.Returns status headers body := by
  refine ⟨⟨status, headers.passedOn, body⟩, ?_, rfl, rfl, Headers.cross_passedOn headers⟩
  rw [forward, if_pos hsendable, hreply, Reply.response]

/-! ## Along a route -/

/-- The checks of a route have let the request pass, and have left it as `q`. -/
structure Gateway.Leaves (g : Gateway) (now : Instant) (r : Incoming) (faults : Faults)
    (db : Database) (route : Route) (q : Request) (db' : Database) : Prop where
  clean : Path.hasDotSegment r.head.target.path.toList = false
  found : g.routes.find r.head.method r.head.target.path = some route
  passed : ∃ body, g.receiveBody r.stream = .ok body ∧
    (screen Check.standard route now ⟨r.head, body⟩).perform faults db = (.ok q, db')

namespace Gateway.Leaves

variable {g : Gateway} {now : Instant} {r : Incoming} {faults : Faults} {db db' : Database}
  {route : Route} {q : Request}

/-- What the checks leave is what is sent. -/
theorem dispatch (h : g.Leaves now r faults db route q db') :
    (g.dispatch now r).perform faults db = (.ok (.ofRequest route q), db') := by
  obtain ⟨clean, found, body, received, passed⟩ := h
  simp only [Gateway.dispatch, clean, found, received, passed, perform_bind, perform_verdict,
    perform_mapError, Bool.false_eq_true, if_false]
  rfl

/-- What comes back is the answer. -/
theorem proxy (h : g.Leaves now r faults db route q db') (network : Network) :
    (g.proxy network now r).perform faults db = (forward network (.ofRequest route q), db') := by
  rw [Gateway.proxy, perform_bind, h.dispatch]
  rfl

end Gateway.Leaves

/-- **A hop loses, merges and invents nothing.**  The request that is sent conveys the one that the
checks have left.  If it can be sent and an answer arrives whole, the response returns that answer.
And this is all that comes between the checks and the client: what they leave of a request that came
in is sent so, and answered by what comes back. -/
theorem hop_lossless (route : Route) (q : Request) (network : Network) :
    (Outgoing.ofRequest route q).Conveys route q ∧
    ((Outgoing.ofRequest route q).isSendable = true → ∀ status headers body,
      network (.ofRequest route q) = .answered status headers (.whole body) →
        ∃ response, forward network (.ofRequest route q) = .ok response ∧
          response.Returns status headers body) ∧
    ∀ (g : Gateway) now r faults db db', g.Leaves now r faults db route q db' →
      (g.dispatch now r).perform faults db = (.ok (.ofRequest route q), db') ∧
      (g.proxy network now r).perform faults db = (forward network (.ofRequest route q), db') :=
  ⟨Outgoing.conveys_ofRequest route q,
    fun hsendable _ _ _ hreply => exists_returns hsendable hreply,
    fun _ _ _ _ _ _ h => ⟨h.dispatch, h.proxy network⟩⟩

/-! ### A visit of the front of the site -/

namespace Site

/-- A visit with a header that stands twice and two that belong to its connection. -/
def browse : Head :=
  ⟨"GET", ⟨"/cart", some "page=2"⟩, [⟨"host", "gateway"⟩, ⟨"accept", "text/html"⟩,
    ⟨"x-tag", "a"⟩, ⟨"connection", "close"⟩, ⟨"x-tag", "b"⟩]⟩

/-- The service answers with two cookies. -/
def service : Network := fun _ =>
  .answered 200 [⟨"set-cookie", "a=1"⟩, ⟨"content-length", "2"⟩, ⟨"set-cookie", "b=2"⟩]
    (.whole "ok".toUTF8)

end Site

/-- The service gets the header twice and nothing of the connection, and the client both cookies. -/
theorem hop_lossless_site :
    ∃ out response db',
      (Site.gateway.proxy Site.service .epoch ⟨Site.browse, .whole .empty⟩).perform .none
        ⟨Site.store, none, 0⟩ = (.ok response, db') ∧
      (Site.gateway.dispatch .epoch ⟨Site.browse, .whole .empty⟩).perform .none
        ⟨Site.store, none, 0⟩ = (.ok out, db') ∧
      out.url = "http://web.internal/cart?page=2" ∧ out.headers.values "x-tag" = ["a", "b"] ∧
      out.headers.values "connection" = [] ∧ response.status = 200 ∧
      response.headers.values "set-cookie" = ["a=1", "b=2"] ∧
      response.headers.values "content-length" = [] := by
  obtain ⟨hconveys, hreturns, hleft⟩ :=
    hop_lossless Site.front ⟨Site.browse, .empty⟩ Site.service
  have hleaves : Site.gateway.Leaves .epoch ⟨Site.browse, .whole .empty⟩ .none
      ⟨Site.store, none, 0⟩ Site.front ⟨Site.browse, .empty⟩ ⟨Site.store, none, 0⟩ := by
    refine ⟨by decide +kernel, by decide +kernel, .empty,
      Gateway.receiveBody_of_fits (by decide), ?_⟩
    rw [screen_of_anyone rfl]
    rfl
  have hsendable : (Outgoing.ofRequest Site.front ⟨Site.browse, .empty⟩).isSendable = true := by
    decide +kernel
  obtain ⟨response, hresponse, hstatus, -, hheaders⟩ := hreturns hsendable _ _ _ rfl
  obtain ⟨hdispatch, hproxy⟩ := hleft _ _ _ _ _ _ hleaves
  refine ⟨_, response, _, hresponse ▸ hproxy, hdispatch, ?_, ?_, ?_, hstatus, ?_, ?_⟩
  · rw [hconveys.url]
    decide +kernel
  · rw [hconveys.headers.kept _ (by decide)]
    decide
  · exact hconveys.headers.dropped _ (by decide)
  · rw [hheaders.kept _ (by decide)]
    decide
  · exact hheaders.dropped _ (by decide)

end OAuthGateway

import OAuthGateway.Proofs.Authority.Retirement
import OAuthGateway.Proofs.Gateway.Mediation

/-!
# Proofs/Gateway/Retirement — a revoked application obtains nothing more

Two parts come together here.  At the authority no request of a revoked application gets past the
lookup of its client, and nothing that it holds is added to or used up; at the gateway a request
that carries its credentials never reaches the network, and is told 401 where nothing else is wrong
with it.  Both hold of every later traffic (`revoked_application_obtains_nothing`), because a client
id resolves to nothing once its application is revoked, and nothing brings it back.
-/

namespace OAuthGateway

open Http Procedure Time

section Unresolved

variable {route : Route} {s : Store} {faults : Faults} {n : ℕ} {now : Instant} {r : Request}
  {uid secret : String}

/-- **Credentials that resolve to nothing pass no check**; where the store answers, it is said why.
-/
theorem screen_answer_of_unresolved (mode : route.auth = .client)
    (carried : ClientCredentials.Carried r.body uid secret)
    (hunknown : s.client uid secret = .error .notFound) :
    ∃ e, ((screen Check.standard route now r).perform faults ⟨s, none, n⟩).1 = .error e ∧
      (faults n .applicationByCredentials = none → e = .unknownApplication) := by
  rw [screen_answer_of_carried mode carried]
  cases hasked : faults n .applicationByCredentials with
  | some e => exact ⟨_, rfl, nofun⟩
  | none =>
    rw [hunknown]
    exact ⟨_, rfl, fun _ => rfl⟩

/-- **Credentials that resolve to nothing open no route.** -/
theorem Gateway.proxy_of_unresolved {g : Gateway} {head : Head} {body : ByteArray}
    (found : g.routes.find head.method head.target.path = some route) (mode : route.auth = .client)
    (carried : ClientCredentials.Carried body uid secret)
    (hunknown : s.client uid secret = .error .notFound) :
    ∃ p, (∀ network, ((g.proxy network now ⟨head, .whole body⟩).perform faults ⟨s, none, n⟩).1 =
        .error p) ∧
      (Path.hasDotSegment head.target.path.toList = false →
        body.size ≤ g.settings.maxBodyBytes → faults n .applicationByCredentials = none →
        p.status = 401) := by
  have hscreen : ∃ e, ((screen Check.standard route now ⟨head, body⟩).perform faults
      ⟨s, none, n⟩).1 = .error e ∧
        (faults n .applicationByCredentials = none → e = .unknownApplication) :=
    screen_answer_of_unresolved mode carried hunknown
  obtain ⟨e, hscreen, hcause⟩ := hscreen
  obtain ⟨p, hp⟩ : ∃ p, ((g.dispatch now ⟨head, .whole body⟩).perform faults ⟨s, none, n⟩).1 =
      .error p := by
    refine dispatch_of_rejected found fun body' hbody => ?_
    cases hbody
    exact ⟨e, hscreen⟩
  refine ⟨p, fun network => proxy_of_dispatch_error hp network, fun clean fits hasked => ?_⟩
  rw [dispatch_answer_of_found clean found fits, hscreen, hcause hasked] at hp
  cases hp
  rfl

end Unresolved

/-! ## After a revocation -/

namespace Traffic

/-- What is left to a revoked application at a later time: nothing.  `w` is the traffic when its
revocation had been answered, `w'` a later one. -/
structure Ended (auth : Authority) (a : Application) (w w' : Traffic) : Prop where
  /-- Its client id resolves to nothing, whatever errands there were. -/
  unresolved : ∀ secret, w'.store.client a.clientUid secret = .error .notFound
  /-- A request that names it is told, where its client is looked up, that there is none. -/
  refused : ∀ (q : IssueRequest) (secret : String), q.clientUid = some a.clientUid →
    q.clientSecret = some secret → q.ReachesClient → ∀ now fresh faults,
      faults 0 .applicationByCredentials = none →
      (auth.answer now fresh q).perform faults (.ofStore w'.store) =
        (.error (.unknown .application), ⟨w'.store, none, 1⟩)
  /-- On a route for applications the checks reject a request that carries its credentials, and
  with 401 if the store answers. -/
  rejected : ∀ (route : Route) (r : Request) (secret : String), route.auth = .client →
    ClientCredentials.Carried r.body a.clientUid secret → ∀ now faults,
      ∃ e, ((screen Check.standard route now r).perform faults (.ofStore w'.store)).1 = .error e ∧
        (faults 0 .applicationByCredentials = none → e.status = 401)
  /-- Such a request never reaches the network; where it comes as far as to the checks, and the
  store answers, it is told 401. -/
  unforwarded : ∀ (g : Gateway) (head : Head) (body : ByteArray) (route : Route) (secret : String),
    g.routes.find head.method head.target.path = some route → route.auth = .client →
    ClientCredentials.Carried body a.clientUid secret → ∀ now faults,
      ∃ p, (∀ network, ((g.proxy network now ⟨head, .whole body⟩).perform faults
          (.ofStore w'.store)).1 = .error p) ∧
        (Path.hasDotSegment head.target.path.toList = false →
          body.size ≤ g.settings.maxBodyBytes → faults 0 .applicationByCredentials = none →
          p.status = 401)
  /-- Whatever is asked for from now on, by whomever, what it holds stays. -/
  frozen : ∀ q now fresh faults, Store.Frozen a.id w'.store
    ((auth.answer now fresh q).perform faults (.ofStore w'.store)).2.committed
  /-- So it does in every move, but for the transaction of a request of it that waits. -/
  frozen_step : ∀ move : Move, ¬ move.Finishes w' a.id →
    Store.Frozen a.id w'.store (step auth w' move).store
  /-- All requests of it that wait did so when it was revoked. -/
  waiting : (w'.waiting.filter (Task.isOf a.id)).Sublist (w.waiting.filter (Task.isOf a.id))
  /-- If there were none, it holds what it held then. -/
  idle : w.waiting.filter (Task.isOf a.id) = [] → Store.Frozen a.id w.store w'.store

/-- **A revoked application obtains nothing more.**  Once the revocation has been answered, and
whatever happened before and happens after it, its client id resolves to nothing, its requests are
refused at the authority and at the gateway, and it holds what it held: no credential of it is
added, and none of its codes and refresh tokens is used up.  The one exception are requests that had
passed their checks before. -/
theorem revoked_application_obtains_nothing (auth : Authority) (moves later : List Move) (id : Int)
    (hrevoked : .administer (.revoke id) (.ok .done) ∈ (after auth moves).log) :
    ∃ a ∈ (after auth moves).store.applications, a.id = id ∧
      Ended auth a (after auth moves) (after auth (moves ++ later)) := by
  have hw := sound_after auth moves
  have hw' := sound_after auth (moves ++ later)
  obtain ⟨a, ha, rfl, -⟩ := retired_of_logged hrevoked
  have hretired := retired_of_logged hrevoked
  have hleads := leads_after auth moves later
  have hretired' := hretired.mono hleads
  have hunresolved : ∀ secret, (after auth (moves ++ later)).store.client a.clientUid secret =
      .error .notFound := by
    -- the row may have changed since, but not its client id
    obtain ⟨a', ha', hkept⟩ := hleads.grows.applications.exists_kept ha
    have huid : a'.clientUid = a.clientUid := hkept.key_eq
    exact fun secret => huid ▸ hretired'.client_eq_error hw'.store ha' hkept.id_eq secret
  exact ⟨a, ha, rfl,
    { unresolved := hunresolved
      refused := fun q secret huid hsecret hreaches now fresh faults hasked =>
        Authority.perform_answer_unresolved (hunresolved secret) hasked hreaches huid hsecret
      rejected := fun route r secret mode carried now faults => by
        obtain ⟨e, he, hcause⟩ :=
          screen_answer_of_unresolved mode carried (hunresolved secret)
        exact ⟨e, he, fun hasked => hcause hasked ▸ rfl⟩
      unforwarded := fun g head body route secret found mode carried now faults =>
        Gateway.proxy_of_unresolved found mode carried (hunresolved secret)
      frozen := fun q now fresh faults => Authority.frozen_answer hw'.reachable hretired'
      frozen_step := fun move hother => Traffic.frozen_step hw' hother
      waiting := by rw [after_append]; exact waiting_foldl hw hretired later
      idle := fun hidle => by rw [after_append]; exact frozen_foldl hw hretired hidle later }⟩

end Traffic

/-! ## The race, and a revocation -/

namespace Race

/-- The race when the code has been issued and its application revoked. -/
def retired : List Move := moves.take 3 ++ [.administer (.revoke 1) .epoch (fresh 9) .none]

/-- What is tried next: the application is updated, and its code is presented. -/
def revival : List Move :=
  [.administer (.update 1 form) .epoch (fresh 9) .none, .clear (.token exchange) .epoch .none,
    .write 0 (fresh 2) .none]

end Race

namespace Traffic

/-- The code of the race is still unused after all that, and whoever presents it with the
credentials of its application is told that there is no such application. -/
theorem revoked_application_obtains_nothing_race :
    .administer (.revoke 1) (.ok .done) ∈ (after Race.authority Race.retired).log ∧
    ((Race.authority.answer .epoch (Race.fresh 10) (.token Race.exchange)).perform .none
      (.ofStore (after Race.authority (Race.retired ++ Race.revival)).store)).1 =
        .error (.unknown .application) ∧
    ((after Race.authority (Race.retired ++ Race.revival)).store.holdings 1).grants =
      [Race.code] := by
  have hrevoked : .administer (.revoke 1) (.ok .done) ∈
      (after Race.authority Race.retired).log := List.mem_cons_self
  obtain ⟨a, ha, hid, hended⟩ :=
    revoked_application_obtains_nothing Race.authority Race.retired Race.revival 1 hrevoked
  have huid : ∀ a ∈ (after Race.authority Race.retired).store.applications,
      a.clientUid = "uid" := by decide +kernel
  have hidle : (after Race.authority Race.retired).waiting.filter (Task.isOf a.id) = [] := rfl
  have hheld : ((after Race.authority Race.retired).store.holdings 1).grants = [Race.code] := by
    decide +kernel
  refine ⟨hrevoked, ?_, ?_⟩
  · rw [hended.refused (.token Race.exchange) "secret" (by rw [huid a ha]; rfl) rfl trivial .epoch
      (Race.fresh 10) .none rfl]
  · rw [← hid, (hended.idle hidle).grants, hid, hheld]

end Traffic

end OAuthGateway

import OAuthGateway.Proofs.Authority.Checklist
import OAuthGateway.Proofs.Authority.Traffic
import OAuthGateway.Proofs.Scope.Missing

/-!
# Proofs/Authority/Entitlement — the verdict on a grant request

What a grant request is entitled to is settled by six conditions (`GrantRequest.conditions`), in the
order in which they are checked: its response type is there and known, owner and redirect URI are
there, a token without a code is for confidential clients, and the application has the scopes.  The
verdict decides them (`decides_validate`), so it is favourable exactly if all hold and otherwise
complains of the first that does not.

Two independences come with it (`grant_verdict`).  The scopes are looked at last, so they do not
matter to a request that is refused before; and those of the application are looked at as a set.
-/

namespace OAuthGateway

open Checklist

/-! ## Response types -/

theorem ResponseType.name_inj {t t' : ResponseType} (h : t.name = t'.name) : t = t' := by
  cases t <;> cases t' <;> first | rfl | exact absurd h (by decide)

/-- A response type is known by its name. -/
theorem decides_parse (value : String) :
    Decides [⟨∃ t : ResponseType, value = t.name,
        .validation ("unsupported response_type '" ++ value ++ "'")⟩]
      (fun t => value = t.name) (ResponseType.parse value) := by
  by_cases hcode : value = "code"
  · rw [ResponseType.parse, if_pos hcode]
    exact ⟨passes_singleton.2 ⟨.code, hcode⟩, hcode⟩
  · by_cases htoken : value = "token"
    · rw [ResponseType.parse, if_neg hcode, if_pos htoken]
      exact ⟨passes_singleton.2 ⟨.token, htoken⟩, htoken⟩
    · rw [ResponseType.parse, if_neg hcode, if_neg htoken]
      refine failsWith_cons_of_not (c := ⟨∃ t : ResponseType, value = t.name, _⟩) ?_
      rintro ⟨_ | _, hname⟩
      · exact hcode hname
      · exact htoken hname

namespace GrantRequest

variable (r : GrantRequest) (app : Application)

/-- The scopes that the request asks for; to name none is to ask for none. -/
def asked : String := r.scopes.getD ""

/-- What the grant of a request depends on, in the order in which it is checked. -/
def conditions : List Condition :=
  [⟨Given r.responseType, .validation "response_type is required"⟩,
    ⟨∃ t : ResponseType, r.responseType = some t.name,
      .validation ("unsupported response_type '" ++ r.responseType.getD "" ++ "'")⟩,
    ⟨Given r.resourceOwnerId, .validation "resource_owner_id is required"⟩,
    ⟨Given r.redirectUri, .validation "redirect_uri is required"⟩,
    ⟨r.responseType = some "token" → app.ownerType = .confidentialClient,
      .forbidden "response_type 'token' is only allowed for confidential applications"⟩,
    ⟨Scope.covers app.scopes r.asked, .invalidScopes (Scope.missing r.asked app.scopes)⟩]

variable {r app}

theorem decides_responseType :
    Decides [⟨Given r.responseType, .validation "response_type is required"⟩,
        ⟨∃ t : ResponseType, r.responseType = some t.name,
          .validation ("unsupported response_type '" ++ r.responseType.getD "" ++ "'")⟩]
      (fun t => r.responseType = some t.name)
      (required r.responseType "response_type" >>= ResponseType.parse) := by
  refine decides_bind (l := [_]) (decides_required r.responseType "response_type") fun v hv => ?_
  simp only [hv.1, Option.some.injEq, Option.getD_some]
  exact decides_parse v

theorem decides_scopes {t : ResponseType} (ht : r.responseType = some t.name) :
    Decides [⟨Scope.covers app.scopes r.asked,
        .invalidScopes (Scope.missing r.asked app.scopes)⟩]
      (fun t => r.responseType = some t.name)
      (match Scope.missing r.asked app.scopes with
        | [] => .ok t
        | scopes => .error (.invalidScopes scopes)) := by
  split <;> rename_i hmissing
  · exact ⟨passes_singleton.2 (Scope.missing_eq_nil_iff.1 hmissing), ht⟩
  · exact failsWith_cons_of_not (c := ⟨Scope.covers app.scopes r.asked, _⟩) fun hcovers =>
      hmissing (Scope.missing_eq_nil_iff.2 hcovers)

/-- **The verdict decides the conditions.** -/
theorem decides_validate (r : GrantRequest) (app : Application) :
    Decides (r.conditions app) (fun t => r.responseType = some t.name) (r.validate app) := by
  refine decides_bind (l := [_, _]) decides_responseType fun t ht => ?_
  refine decides_bind (l := [_])
    (decides_discard (decides_required r.resourceOwnerId "resource_owner_id")) fun _ _ => ?_
  refine decides_bind (l := [_])
    (decides_discard (decides_required r.redirectUri "redirect_uri")) fun _ _ => ?_
  have himplicit : t = .token ∧ app.ownerType ≠ .confidentialClient ↔
      ¬ (r.responseType = some "token" → app.ownerType = .confidentialClient) := by
    rw [Classical.not_imp, ht, Option.some.injEq]
    exact and_congr_left fun _ => ⟨fun h => h ▸ rfl, fun h => ResponseType.name_inj h⟩
  exact decides_unless (e := .implicitForPublicClient) himplicit fun _ => decides_scopes ht

/-- The conditions on a response type, and on the client that it is open to. -/
theorem passes_conditions_iff {t : ResponseType} (ht : r.responseType = some t.name) :
    Passes (r.conditions app) ↔ Given r.resourceOwnerId ∧ Given r.redirectUri ∧
      Scope.covers app.scopes r.asked ∧ (t = .token → app.ownerType = .confidentialClient) := by
  have hgiven : Given r.responseType := ⟨t.name, ht, by cases t <;> decide⟩
  have htoken : r.responseType = some "token" ↔ t = .token := by
    rw [ht, Option.some.injEq]
    exact ⟨fun h => ResponseType.name_inj h, fun h => h ▸ rfl⟩
  simp only [conditions, passes_cons, hgiven, htoken, true_and]
  constructor
  · rintro ⟨-, howner, hredirect, hclient, hcovers, -⟩
    exact ⟨howner, hredirect, hcovers, hclient⟩
  · rintro ⟨howner, hredirect, hcovers, hclient⟩
    exact ⟨⟨t, ht⟩, howner, hredirect, hclient, hcovers, passes_nil⟩

/-- A complaint about scopes is about all that are missing. -/
theorem eq_missing_of_failsWith {scopes : List String}
    (h : FailsWith (r.conditions app) (.invalidScopes scopes)) :
    scopes = Scope.missing r.asked app.scopes ∧ scopes ≠ [] := by
  obtain ⟨before, c, after, hsplit, -, hfails, hcomplaint⟩ := h
  have hmem : c ∈ r.conditions app := hsplit ▸ List.mem_append_right _ List.mem_cons_self
  simp only [conditions, List.mem_cons, List.not_mem_nil, or_false] at hmem
  rcases hmem with rfl | rfl | rfl | rfl | rfl | rfl <;> cases hcomplaint
  exact ⟨rfl, fun hnil => hfails (Scope.missing_eq_nil_iff.1 hnil)⟩

/-- A token without a code is refused to a public client before the scopes are looked at. -/
theorem validate_with_scopes (htoken : r.responseType = some "token")
    (hpublic : app.ownerType ≠ .confidentialClient) (scopes : Option String) :
    { r with scopes := scopes }.validate app = r.validate app := by
  have hparsed := decides_responseType (r := r)
  rw [validate, validate]
  rcases hkind : required r.responseType "response_type" >>= ResponseType.parse with e | t
  · rfl
  · rw [hkind] at hparsed
    have hrefused : t = .token ∧ app.ownerType ≠ .confidentialClient :=
      ⟨ResponseType.name_inj (Option.some.inj (hparsed.2.symm.trans htoken)), hpublic⟩
    rcases required r.resourceOwnerId "resource_owner_id" with e | owner
    · rfl
    · rcases required r.redirectUri "redirect_uri" with e | uri
      · rfl
      · exact (if_pos hrefused).trans (if_pos hrefused).symm

/-- What the application has counts as a set. -/
theorem validate_with_application_scopes {scopes : String}
    (h : ∀ w, w ∈ Scope.words scopes ↔ w ∈ Scope.words app.scopes) :
    r.validate { app with scopes := scopes } = r.validate app := by
  simp only [validate, Scope.missing_congr h]

end GrantRequest

/-- **The verdict on a grant request.**  It is favourable to a response type exactly if that is the
one named, owner and redirect URI are given, the application has the scopes that are asked for, and
a token without a code is for a confidential client.  Otherwise it complains of the first condition
that does not hold; a complaint about scopes lists those that are missing, each once and in the
order of the request.  A public client that asks for a token gets the same verdict whatever scopes
it asks for; and whatever is asked for, the verdict is the same for two texts of scopes of the
application that have the same words. -/
theorem grant_verdict (r : GrantRequest) (app : Application) :
    (∀ t, r.validate app = .ok t ↔ r.responseType = some t.name ∧ Given r.resourceOwnerId ∧
      Given r.redirectUri ∧ Scope.covers app.scopes r.asked ∧
      (t = .token → app.ownerType = .confidentialClient)) ∧
    (∀ complaint, (∃ e, r.validate app = .error e ∧ e.complaint = complaint) ↔
      FailsWith (r.conditions app) complaint) ∧
    (∀ scopes, r.validate app = .error (.invalidScopes scopes) → scopes ≠ [] ∧
      (∀ w, w ∈ scopes ↔ w ∈ Scope.words r.asked ∧ w ∉ Scope.words app.scopes) ∧
      scopes.Pairwise fun v w =>
        (Scope.words r.asked).idxOf v < (Scope.words r.asked).idxOf w) ∧
    (r.responseType = some "token" → app.ownerType ≠ .confidentialClient →
      ∀ scopes, { r with scopes := scopes }.validate app = r.validate app) ∧
    ∀ scopes, (∀ w, w ∈ Scope.words scopes ↔ w ∈ Scope.words app.scopes) →
      r.validate { app with scopes := scopes } = r.validate app := by
  have hdecides := r.decides_validate app
  refine ⟨fun t => ⟨fun h => ?_, ?_⟩, fun complaint => ⟨?_, fun hfails => ?_⟩, fun scopes h => ?_,
    GrantRequest.validate_with_scopes, fun _ => GrantRequest.validate_with_application_scopes⟩
  · rw [h] at hdecides
    exact ⟨hdecides.2, (GrantRequest.passes_conditions_iff hdecides.2).1 hdecides.1⟩
  · rintro ⟨ht, hholds⟩
    rcases hverdict : r.validate app with e | t' <;> rw [hverdict] at hdecides
    · exact absurd ((GrantRequest.passes_conditions_iff ht).2 hholds)
        (FailsWith.not_passes hdecides)
    · rw [ResponseType.name_inj (Option.some.inj (hdecides.2.symm.trans ht))]
  · rintro ⟨e, h, rfl⟩
    rw [h] at hdecides
    exact hdecides
  · rcases hverdict : r.validate app with e | t <;> rw [hverdict] at hdecides
    · exact ⟨e, rfl, hfails.unique hdecides⟩
    · exact absurd hdecides.1 hfails.not_passes
  · rw [h] at hdecides
    obtain ⟨rfl, hsome⟩ := GrantRequest.eq_missing_of_failsWith hdecides
    exact ⟨hsome, fun _ => Scope.mem_missing, Scope.pairwise_missing _ _⟩

/-- The client of the race with two scopes, when it asks for a code and four: one that is its own,
and two others, of which one is asked for twice. -/
theorem grant_verdict_race :
    let app := { Race.client with scopes := "read write" }
    let r := { Race.grant with scopes := some "write audit  admin audit" }
    r.validate app = .error (.invalidScopes ["audit", "admin"]) ∧
      r.validate { app with scopes := " write  read write" } = r.validate app ∧
      { r with responseType := some "token", scopes := some "read" }.validate app = .ok .token ∧
      { r with responseType := some "token", scopes := some "admin" }.validate
          { app with ownerType := .publicClient } =
        { r with responseType := some "token" }.validate
          { app with ownerType := .publicClient } := by
  intro app r
  refine ⟨by decide +kernel, ?_, ?_, ?_⟩
  · refine (grant_verdict r app).2.2.2.2 " write  read write" fun w => ?_
    have hwords : Scope.words " write  read write" = ["write", "read", "write"] ∧
        Scope.words app.scopes = ["read", "write"] := by decide +kernel
    simp only [hwords, List.mem_cons, List.not_mem_nil, or_false]
    tauto
  · have hcovers : Scope.missing "read" app.scopes = [] := by decide +kernel
    exact ((grant_verdict _ app).1 .token).2 ⟨rfl, ⟨"owner", rfl, by decide⟩,
      ⟨"uri", rfl, by decide⟩, Scope.missing_eq_nil_iff.1 hcovers, fun _ => rfl⟩
  · exact (grant_verdict { r with responseType := some "token" }
      { app with ownerType := .publicClient }).2.2.2.1 rfl (by decide) (some "admin")

end OAuthGateway

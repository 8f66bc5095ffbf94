import OAuthGateway.Proofs.Admission.Bearer
import OAuthGateway.Proofs.Admission.Demand
import OAuthGateway.Proofs.Route.Selection
import OAuthGateway.Proofs.Text.Ends

/-!
# Proofs/Admission/Grammar — the header values that carry a bearer token

A value `Carries` a token when it is the scheme, one space, and the token, with blanks on either
side of it.  That is said without cutting or trimming anything, and it is what the reader accepts
(`ofValue?_eq_some_iff`), so a value carries one token or none.  Of a request the first value
counts, if it is printable (`Bears`); a request that bears no token is turned away before anything
is looked up, and as malformed no other one is (`bearer_grammar`).
-/

namespace OAuthGateway

open Http Procedure

/-! ## The grammar -/

namespace Bearer

open Text

/-- The value is the scheme in any case, one space, and the token among blanks; the token has no
space in it and no blank at its ends. -/
inductive Carries : List Char → List Char → Prop
  | of {name before token after : List Char} (named : name.map lower = scheme)
      (before_blank : ∀ c ∈ before, isBlank c = true) (after_blank : ∀ c ∈ after, isBlank c = true)
      (nonempty : token ≠ []) (solid : ' ' ∉ token) (trimmed : Trimmed token) :
      Carries (name ++ ' ' :: (before ++ (token ++ after))) token

/-- The first value of the header is printable ASCII and tabs, and carries the token. -/
def Bears (hs : Headers) (token : String) : Prop :=
  ∃ value, (hs.values headerName).head? = some value ∧
    (∀ c ∈ value.toList, c = '\t' ∨ (32 ≤ c.toNat ∧ c.toNat < 127)) ∧
    Carries value.toList token.toList

variable {value token token' name : List Char} {hs : Headers}

theorem sameFold_scheme_iff : sameFold name scheme = true ↔ name.map lower = scheme := by
  rw [sameFold, beq_iff_eq]
  rfl

/-- The name of the scheme has no space in it, so the value is cut behind it. -/
theorem space_not_mem_of_named (h : name.map lower = scheme) : ' ' ∉ name := by
  intro hmem
  have hlower : lower ' ' ∈ scheme := h ▸ List.mem_map_of_mem hmem
  exact absurd hlower (by decide)

/-- **The reader accepts what the grammar says**, and finds the token. -/
theorem ofValue?_eq_some_iff : ofValue? value = some token ↔ Carries value token := by
  constructor
  · intro h
    rw [ofValue?] at h
    split at h <;> rename_i hcut
    · simp only [Option.ite_none_right_eq_some, Bool.and_eq_true, Bool.not_eq_true',
        List.isEmpty_eq_false_iff, Option.some.injEq, sameFold_scheme_iff] at h
      obtain ⟨⟨⟨hnamed, hnonempty⟩, hsolid⟩, htrim⟩ := h
      obtain ⟨rfl, -⟩ := cut?_eq_some_iff.1 hcut
      rw [htrim] at hnonempty hsolid
      obtain ⟨htrimmed, before, after, rfl, hbefore, hafter⟩ := (trim_eq_iff hnonempty).1 htrim
      exact .of hnamed hbefore hafter hnonempty (by simpa using hsolid) htrimmed
    · cases h
  · rintro @⟨name, before, _, after, hnamed, hbefore, hafter, hnonempty, hsolid, htrimmed⟩
    have hcut : cut? ' ' (name ++ ' ' :: (before ++ (token ++ after))) =
        some (name, before ++ (token ++ after)) :=
      cut?_eq_some_iff.2 ⟨rfl, space_not_mem_of_named hnamed⟩
    have htrim : trim (before ++ (token ++ after)) = token :=
      (trim_eq_iff hnonempty).2 ⟨htrimmed, before, after, rfl, hbefore, hafter⟩
    have hfold : sameFold name scheme = true := sameFold_scheme_iff.2 hnamed
    simp [ofValue?, hcut, htrim, hfold, hnonempty, hsolid]

/-- **A value carries one token**, if any. -/
theorem Carries.unique (h : Carries value token) (h' : Carries value token') : token = token' :=
  Option.some.inj ((ofValue?_eq_some_iff.2 h).symm.trans (ofValue?_eq_some_iff.2 h'))

/-! ## Requests

Of several `authorization` values the first is the one that counts. -/

theorem isVisible_iff {value : String} : Header.isVisible value = true ↔
    ∀ c ∈ value.toList, c = '\t' ∨ (32 ≤ c.toNat ∧ c.toNat < 127) := by
  simp [Header.isVisible]

/-- **The token of a request** is the one that its headers bear. -/
theorem ofHeaders?_eq_some_iff {text : String} : ofHeaders? hs = some text ↔ Bears hs text := by
  rw [ofHeaders?, Bears, ← Headers.first?_eq_head?_values]
  simp only [Option.bind_eq_bind, Option.bind_eq_some_iff, Option.ite_none_right_eq_some,
    isVisible_iff, Option.map_eq_some_iff, ofValue?_eq_some_iff]
  refine exists_congr fun value => and_congr_right fun _ => and_congr_right fun _ => ?_
  constructor
  · rintro ⟨token, hcarries, rfl⟩
    rwa [String.toList_ofList]
  · intro hcarries
    exact ⟨_, hcarries, String.ofList_toList⟩

theorem ofHeaders?_eq_none_iff : ofHeaders? hs = none ↔ ¬ ∃ text, Bears hs text := by
  simp only [← ofHeaders?_eq_some_iff, ← Option.isSome_iff_exists, Option.not_isSome_iff_eq_none]

end Bearer

/-! ## The answer of a route that asks for a token -/

section Screen

variable {route : Route} {s : Store} {faults : Faults} {n : ℕ} {now : Time.Instant} {r : Request}

theorem Rejection.ofLookup_unknownToken_ne (e : StoreError) :
    ofLookup .unknownToken e ≠ .malformedBearer := by
  cases e <;> exact nofun

theorem AccessToken.opens_ne_malformed (t : AccessToken) :
    t.opens route now ≠ .error .malformedBearer := by
  intro h
  rw [AccessToken.opens] at h
  split at h
  · cases h
  split at h
  · cases h
  split at h <;> cases h

/-- Where a token is named, the answer is about the token. -/
theorem screen_answer_ne_malformed (mode : route.auth = .token) {text : String}
    (named : Bearer.ofHeaders? r.head.headers = some text) :
    ((screen Check.standard route now r).perform faults ⟨s, none, n⟩).1 ≠
      .error .malformedBearer := by
  rw [screen_answer_of_named mode named]
  cases faults n .accessTokenByText with
  | some e => exact fun h => Rejection.ofLookup_unknownToken_ne e (Except.error.inj h)
  | none =>
    cases s.accessTokenOfText text with
    | error e => exact fun h => Rejection.ofLookup_unknownToken_ne e (Except.error.inj h)
    | ok t =>
      intro h
      rcases hverdict : t.opens route now with e | _ <;> simp only [hverdict] at h <;> cases h
      exact t.opens_ne_malformed hverdict

end Screen

namespace Bearer

/-- **The grammar of bearer headers.**  The token of a request is the one that its headers bear, and
a value carries one token at most.  On a route that asks for a token, a request that bears none is
turned away as malformed before anything is looked up, and no other is turned away so.  Whatever is
drawn is a text of base64url, and such a text is accepted behind the scheme as it is. -/
theorem bearer_grammar (hs : Headers) :
    (∀ token, ofHeaders? hs = some token ↔ Bears hs token) ∧
    (∀ value token token', Carries value token → Carries value token' → token = token') ∧
    (∀ route now (r : Request) faults s n, route.auth = .token → r.head.headers = hs →
      ((¬ ∃ token, Bears hs token) →
        (screen Check.standard route now r).perform faults ⟨s, none, n⟩ =
          (.error .malformedBearer, ⟨s, none, n⟩)) ∧
      ((∃ token, Bears hs token) →
        ((screen Check.standard route now r).perform faults ⟨s, none, n⟩).1 ≠
          .error .malformedBearer)) ∧
    (∀ token, Credential.Base64url token →
      (hs.values headerName).head? = some ("Bearer " ++ token) → ofHeaders? hs = some token) ∧
    ∀ bytes : List UInt8, bytes.length = Credential.byteCount →
      Credential.Base64url (Credential.ofBytes bytes) := by
  refine ⟨fun token => ofHeaders?_eq_some_iff, fun _ _ _ => Carries.unique,
    fun route now r faults s n mode hheaders => ⟨fun hnone => ?_, fun ⟨token, hbears⟩ => ?_⟩,
    fun token htoken hfirst => ?_, fun _ => Credential.base64url_ofBytes⟩
  · exact screen_of_unnamed mode (ofHeaders?_eq_none_iff.2 (hheaders ▸ hnone)) _
  · exact screen_answer_ne_malformed mode (ofHeaders?_eq_some_iff.2 (hheaders ▸ hbears))
  · exact ofHeaders?_of_graphic htoken.graphic
      ((Headers.first?_eq_head?_values headerName hs).trans hfirst)

end Bearer

/-! ### Two headers for the guarded part of the site -/

namespace Site

/-- The first of two values counts; in it there are blanks of both kinds around the token. -/
def spaced : Headers :=
  [⟨"accept", "*/*"⟩, ⟨"authorization", "bEaReR  \tab-9_\t "⟩, ⟨"authorization", "Bearer other"⟩]

end Site

namespace Bearer

/-- The token of the first value is the only one; behind another scheme there is none, and a drawn
token is read as it is. -/
theorem bearer_grammar_site :
    ofHeaders? Site.spaced = some "ab-9_" ∧ Bears Site.spaced "ab-9_" ∧
    (screen Check.standard Site.admin .epoch
        ⟨⟨"GET", ⟨"/admin", none⟩, [⟨"authorization", "Basic ab"⟩]⟩, .empty⟩).perform .none
      ⟨Store.empty, none, 0⟩ = (.error .malformedBearer, ⟨Store.empty, none, 0⟩) ∧
    Credential.Base64url "ab-9_" ∧
    ofHeaders? [⟨"authorization", "Bearer ab-9_"⟩] = some "ab-9_" ∧
    Credential.Base64url (Credential.ofBytes (List.replicate 32 255)) := by
  have hspaced : ofHeaders? Site.spaced = some "ab-9_" := by decide +kernel
  have hbasic : ofHeaders? [⟨"authorization", "Basic ab"⟩] = none := by decide +kernel
  have hall : ("ab-9_".toList.all fun c => decide (Credential.IsBase64url c)) = true := by
    decide +kernel
  have htoken : Credential.Base64url "ab-9_" :=
    ⟨by decide, fun c hc => of_decide_eq_true (List.all_eq_true.1 hall c hc)⟩
  refine ⟨hspaced, ((bearer_grammar Site.spaced).1 _).1 hspaced, ?_, htoken,
    (bearer_grammar _).2.2.2.1 _ htoken rfl, (bearer_grammar []).2.2.2.2 _ (by decide)⟩
  exact ((bearer_grammar _).2.2.1 Site.admin .epoch _ .none Store.empty 0 rfl rfl).1
    (ofHeaders?_eq_none_iff.1 hbasic)

end Bearer

end OAuthGateway

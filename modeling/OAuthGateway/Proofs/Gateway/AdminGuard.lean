import Mathlib.Data.String.Basic
import OAuthGateway.Gateway.Answer
import OAuthGateway.Proofs.Gateway.Mediation

/-!
# Proofs/Gateway/AdminGuard — with a key, only whoever presents it administers

A header value `Presents` a key when it is the scheme `bearer` and a blank, in any case, followed by
exactly that key.  With a key configured the guarded resources fall into two: a request whose first
`authorization` value does not present the key gets the `denial` of its resource and method,
whatever else it says, and changes nothing (`handle_of_denied`); one that gets past the guard is
handled as if there were no key (`handle_of_allowed`).

Seven bytes are split off the value before it is compared, and they are seven characters: a value
that comes so far is visible ASCII (`exists_split`).
-/

namespace OAuthGateway

open Http Procedure

/-! ## Values that present a key -/

/-- The value is the scheme and a blank, in any case, and then the key. -/
def Presents (value key : String) : Prop :=
  ∃ start : String, start.toList.map Text.lower = keyStart ∧ value = start ++ key

theorem sameFold_keyStart_iff {cs : List Char} :
    Text.sameFold cs keyStart = true ↔ cs.map Text.lower = keyStart := by
  have hstart : keyStart.map Text.lower = keyStart := by decide
  rw [Text.sameFold, beq_iff_eq, hstart]

theorem length_of_map_lower {cs : List Char} (h : cs.map Text.lower = keyStart) :
    cs.length = keyStart.length := by
  rw [← h, List.length_map]

/-- A key is read off a visible value that presents it, and it is not empty. -/
theorem presentedKey?_eq_some_iff {value key : String} :
    presentedKey? value = some key ↔
      Header.isVisible value = true ∧ key ≠ "" ∧ Presents value key := by
  simp only [presentedKey?, Option.ite_none_right_eq_some, Option.some.injEq, Bool.and_eq_true,
    decide_eq_true_eq, sameFold_keyStart_iff]
  constructor
  · rintro ⟨⟨⟨hvisible, hlong⟩, hstart⟩, rfl⟩
    refine ⟨hvisible, fun hempty => ?_, String.ofList (value.toList.take keyStart.length), ?_, ?_⟩
    · have hnil := congrArg (fun s => s.toList.length) hempty
      simp only [String.toList_ofList, List.length_drop, String.toList_empty, List.length_nil]
        at hnil
      omega
    · rw [String.toList_ofList, hstart]
    · rw [← String.toList_inj, String.toList_append, String.toList_ofList, String.toList_ofList,
        List.take_append_drop]
  · rintro ⟨hvisible, hne, start, hstart, rfl⟩
    have hlength := length_of_map_lower hstart
    have hkey : 0 < key.toList.length :=
      List.length_pos_iff.2 fun hnil => hne (String.toList_eq_nil_iff.1 hnil)
    rw [String.toList_append, List.take_left' hlength, List.drop_left' hlength, List.length_append]
    exact ⟨⟨⟨hvisible, by omega⟩, hstart⟩, String.ofList_toList⟩

/-- Printable ASCII. -/
def Text.IsPrintable (c : Char) : Prop := 32 ≤ c.toNat ∧ c.toNat < 127

instance (c : Char) : Decidable (Text.IsPrintable c) :=
  inferInstanceAs (Decidable (32 ≤ c.toNat ∧ c.toNat < 127))

/-- Printable texts are told by running through them. -/
theorem Text.isPrintable_of_all {cs : List Char}
    (h : (cs.all fun c => decide (IsPrintable c)) = true) : ∀ c ∈ cs, IsPrintable c :=
  fun c hc => of_decide_eq_true (List.all_eq_true.1 h c hc)

/-- What is printable can be read as text. -/
theorem Header.isVisible_of_printable {value : String}
    (h : ∀ c ∈ value.toList, Text.IsPrintable c) : Header.isVisible value = true := by
  refine List.all_eq_true.2 fun c hc => ?_
  obtain ⟨hlow, hhigh⟩ := h c hc
  rw [decide_eq_true hlow, decide_eq_true hhigh, Bool.and_true, Bool.or_true]

/-- The case of a letter does not matter for whether it is printable. -/
theorem Text.isPrintable_of_lower {c : Char} (h : Text.IsPrintable (Text.lower c)) :
    Text.IsPrintable c := by
  rw [Text.lower] at h
  split at h <;> rename_i hupper
  · simp only [Bool.and_eq_true, decide_eq_true_eq, Char.le_def, UInt32.le_iff_toNat_le] at hupper
    have hA : 65 ≤ c.toNat := hupper.1
    have hZ : c.toNat ≤ 90 := hupper.2
    exact ⟨by omega, by omega⟩
  · exact h

/-- A value that presents a printable key is visible. -/
theorem Presents.isVisible {value key : String} (h : Presents value key)
    (hkey : ∀ c ∈ key.toList, Text.IsPrintable c) : Header.isVisible value = true := by
  obtain ⟨start, hstart, rfl⟩ := h
  have hprintable : ∀ c ∈ keyStart, Text.IsPrintable c := Text.isPrintable_of_all (by decide)
  refine Header.isVisible_of_printable fun c hc => ?_
  rw [String.toList_append, List.mem_append] at hc
  rcases hc with hc | hc
  · refine Text.isPrintable_of_lower (hprintable _ ?_)
    rw [← hstart]
    exact List.mem_map_of_mem hc
  · exact hkey c hc

/-! ### The seventh byte

A value that can be read as text has as many bytes as characters, so the key is what is left either
way. -/

theorem utf8Len_of_visible {cs : List Char}
    (h : ∀ c ∈ cs, (c = '\t' || (32 ≤ c.toNat && c.toNat < 127)) = true) :
    String.utf8Len cs = cs.length := by
  induction cs with
  | nil => rfl
  | cons c cs ih =>
    have hc : c.utf8Size = 1 := by
      rw [Char.utf8Size_eq_one_iff, UInt32.le_iff_toNat_le]
      have hvisible := h c List.mem_cons_self
      simp only [Bool.or_eq_true, Bool.and_eq_true, decide_eq_true_eq] at hvisible
      rcases hvisible with rfl | ⟨-, hhigh⟩
      · decide
      · exact Nat.le_of_lt_succ (Nat.lt_succ_of_lt hhigh)
    rw [String.utf8Len_cons, ih fun c' hc' => h c' (List.mem_cons_of_mem _ hc'), hc,
      List.length_cons]

/-- What can be read as text has as many bytes as characters. -/
theorem utf8ByteSize_of_visible {value : String} (h : Header.isVisible value = true) :
    value.utf8ByteSize = value.toList.length := by
  have hsize := String.utf8ByteSize_ofList value.toList
  rw [String.ofList_toList] at hsize
  rw [hsize, utf8Len_of_visible (List.all_eq_true.1 h)]

/-- A value that is not visible, or not longer than seven bytes, presents nothing. -/
theorem presentedKey?_of_short {value : String}
    (h : ¬ (Header.isVisible value = true ∧ 7 < value.utf8ByteSize)) :
    presentedKey? value = none := by
  have hstart : keyStart.length = 7 := by decide
  refine if_neg fun hpresented => h ?_
  simp only [Bool.and_eq_true, decide_eq_true_eq] at hpresented
  obtain ⟨⟨hvisible, hlong⟩, -⟩ := hpresented
  exact ⟨hvisible, by rw [utf8ByteSize_of_visible hvisible]; omega⟩

/-- **Any other value can be split at its seventh byte**: all of it is ASCII, so the bytes are
characters.  The first seven decide whether the rest is a key. -/
theorem exists_split {value : String} (hvisible : Header.isVisible value = true)
    (hlong : 7 < value.utf8ByteSize) :
    ∃ start rest, value = start ++ rest ∧ start.utf8ByteSize = 7 ∧
      presentedKey? value = if start.toList.map Text.lower = keyStart then some rest else none := by
  have hstart : keyStart.length = 7 := by decide
  rw [utf8ByteSize_of_visible hvisible] at hlong
  refine ⟨String.ofList (value.toList.take 7), String.ofList (value.toList.drop 7), ?_, ?_, ?_⟩
  · rw [← String.toList_inj, String.toList_append, String.toList_ofList, String.toList_ofList,
      List.take_append_drop]
  · rw [String.utf8ByteSize_ofList, utf8Len_of_visible, List.length_take]
    · omega
    · exact fun c hc => List.all_eq_true.1 hvisible c (List.mem_of_mem_take hc)
  · simp only [presentedKey?, hvisible, hstart, hlong, String.toList_ofList, Bool.true_and,
      decide_true, sameFold_keyStart_iff]

/-! ## The verdict of the guard

The guard looks at the first `authorization` value and at nothing else. -/

section Verdict

variable {key : String} {hs hs' : Headers}

/-- Headers with the same first `authorization` value get the same verdict. -/
theorem guardKey_congr (h : hs'.first? "authorization" = hs.first? "authorization")
    (key : Option String) : guardKey key hs' = guardKey key hs := by
  simp only [guardKey, h]

/-- Whoever is let past a key presents it. -/
theorem presents_of_guardKey_ok (h : guardKey (some key) hs = .ok ()) :
    ∃ value, hs.first? "authorization" = some value ∧ Presents value key := by
  rw [guardKey] at h
  cases hvalue : hs.first? "authorization" with
  | none => simp only [hvalue] at h; cases h
  | some value =>
    simp only [hvalue] at h
    cases hpresented : presentedKey? value with
    | none => simp only [hpresented] at h; cases h
    | some presented =>
      simp only [hpresented] at h
      split at h <;> rename_i hsame
      · exact ⟨value, rfl, hsame ▸ (presentedKey?_eq_some_iff.1 hpresented).2.2⟩
      · cases h

/-- Everybody else is told that they are not authorized. -/
theorem guardKey_ok_or_unauthorized (key : String) (hs : Headers) :
    guardKey (some key) hs = .ok () ∨
      ∃ message, guardKey (some key) hs = .error (.unauthorized message) := by
  rw [guardKey]
  cases hs.first? "authorization" with
  | none => exact .inr ⟨_, rfl⟩
  | some value =>
    dsimp only
    cases presentedKey? value with
    | none => exact .inr ⟨_, rfl⟩
    | some presented =>
      by_cases hsame : presented = key
      · exact .inl (if_pos hsame)
      · exact .inr ⟨_, if_neg hsame⟩

/-- Whoever presents a printable key is let past it. -/
theorem guardKey_of_presents {value : String} (hne : key ≠ "")
    (hkey : ∀ c ∈ key.toList, Text.IsPrintable c) (hvalue : hs.first? "authorization" = some value)
    (hpresents : Presents value key) : guardKey (some key) hs = .ok () := by
  have hpresented : presentedKey? value = some key :=
    presentedKey?_eq_some_iff.2 ⟨hpresents.isVisible hkey, hne, hpresents⟩
  simp only [guardKey, hvalue, hpresented, if_true]

end Verdict

/-! ## Denials

A denial depends on the resource and the method, and is the same whether the resource exists or not.
-/

/-- The kind of a resource: an application, whichever it is, or the resource itself. -/
def Resource.kind : Resource → Resource
  | .application _ => .application []
  | resource => resource

/-- The answer to a request that the guard does not let pass: a method that the resource does not
know is told the others besides, and `HEAD` goes without the body. -/
def Gateway.denial (resource : Resource) (method : String) (p : Problem) : Response :=
  let answer : Response := if (resource.endpoint? method).isSome then p.response
    else { p.response with headers := p.response.headers ++ [⟨"allow", resource.allowed⟩] }
  if method = "HEAD" then { answer with body := ByteArray.empty } else answer

/-- The response is JSON, an object that has the code. -/
def Http.Response.Tells (response : Response) (code : String) : Prop :=
  ∃ v : Json.Value, response.body = (String.ofList v.render).toUTF8 ∧
    v.field? "code" = some (.text code)

namespace Gateway

variable {g : Gateway} {r : Incoming} {resource : Resource} {now : Time.Instant}
  {fresh : Credential.Fresh} {network : Network} {faults : Faults} {db : Database}

theorem isSome_endpoint?_kind (resource : Resource) (method : String) :
    (resource.kind.endpoint? method).isSome = (resource.endpoint? method).isSome := by
  cases resource with
  | application id =>
    rw [Bool.eq_iff_iff, Resource.endpoint?, Resource.endpoint?, List.lookup_isSome_iff,
      List.lookup_isSome_iff]
    simp only [Resource.kind, Resource.endpoints, List.exists_mem_cons_iff]
  | health | readiness | description | reference | authorizations | redemptions | revocations
    | applications => rfl

theorem allowed_kind (resource : Resource) : resource.kind.allowed = resource.allowed := by
  cases resource <;> rfl

/-- No id of an application shows in a denial. -/
theorem denial_kind (resource : Resource) (method : String) (p : Problem) :
    denial resource.kind method p = denial resource method p := by
  simp only [denial, isSome_endpoint?_kind, allowed_kind]

/-- A denial for want of the key is a 401. -/
theorem status_denial (resource : Resource) (method message : String) :
    (denial resource method (.unauthorized message)).status = 401 := by
  rw [denial]
  split <;> split <;> rfl

/-- A denial has the body of its problem, unless the method is one without a body. -/
theorem body_denial {method : String} (hmethod : method ≠ "HEAD") (resource : Resource)
    (p : Problem) : (denial resource method p).body = p.response.body := by
  simp only [denial, if_neg hmethod, apply_ite Response.body, ite_self]

/-- A denial tells its code, unless the method is one without a body. -/
theorem tells_denial {method : String} (hmethod : method ≠ "HEAD") (resource : Resource)
    (message : String) :
    (denial resource method (.unauthorized message)).Tells "unauthorized" := by
  refine ⟨(Problem.unauthorized message).toValue, ?_, rfl⟩
  simp only [body_denial hmethod, Problem.response, jsonResponse]

/-- **A request that the guard does not let pass is denied**, and nothing is done. -/
theorem handle_of_denied {p : Problem} (hat : Resource.at? r.head.target.path = some resource)
    (hguard : g.guard resource r = .error p) :
    g.handle now fresh network faults db r = (denial resource r.head.method p, db) := by
  cases hendpoint : resource.endpoint? r.head.method with
  | some endpoint =>
    simp only [handle, answer, hat, answerAt, hendpoint, hguard, perform_bind, perform_verdict,
      denial, Option.isSome_some, if_true]
  | none =>
    simp only [handle, answer, hat, answerAt, hendpoint, hguard, perform_pure, otherMethod, denial,
      Option.isSome_none, Bool.false_eq_true, if_false]

/-- The gateway without a key: whoever asks may administer. -/
def withoutKey (g : Gateway) : Gateway := { g with settings.admin.apiKey := none }

/-- The key plays no part in what an endpoint does. -/
theorem run_withoutKey (r : Incoming) (endpoint : Endpoint) :
    g.withoutKey.run now fresh r endpoint = g.run now fresh r endpoint := by
  cases endpoint <;> rfl

/-- Without a key everybody gets past the guard. -/
theorem guard_withoutKey (resource : Resource) (r : Incoming) :
    g.withoutKey.guard resource r = .ok () := by
  rw [guard]
  split <;> rfl

/-- **A request that the guard lets pass is handled as if there were none.** -/
theorem handle_of_allowed (hat : Resource.at? r.head.target.path = some resource)
    (hguard : g.guard resource r = .ok ()) :
    g.handle now fresh network faults db r = g.withoutKey.handle now fresh network faults db r := by
  have hanswer : g.answer now fresh network r = g.withoutKey.answer now fresh network r := by
    cases hendpoint : resource.endpoint? r.head.method with
    | some endpoint =>
      simp only [answer, hat, answerAt, hendpoint, hguard, guard_withoutKey, run_withoutKey]
    | none => simp only [answer, hat, answerAt, hendpoint, otherMethod, hguard, guard_withoutKey]
  rw [handle, handle, hanswer]

theorem isGuarded_of_kind_eq {resource' : Resource} (h : resource'.kind = resource.kind) :
    resource'.isGuarded = resource.isGuarded := by
  have hkind : ∀ resource : Resource, resource.kind.isGuarded = resource.isGuarded := by
    intro resource
    cases resource <;> rfl
  rw [← hkind, h, hkind]

/-- A guarded resource is guarded by the key. -/
theorem guard_of_guarded {key : String} (hkey : g.settings.admin.apiKey = some key)
    (hguarded : resource.isGuarded = true) (r : Incoming) :
    g.guard resource r = guardKey (some key) r.head.headers := by
  rw [guard, if_pos hguarded, hkey]

/-- What the guard owes to a request for a guarded resource. -/
structure Guards (g : Gateway) (key : String) (resource : Resource) (r : Incoming) : Prop where
  /-- If its first `authorization` value does not present the key, there is one answer, 401, to it
  and to every request for a resource of that kind with that method and that value, whichever id,
  query and body it has; it changes nothing.  The answer tells that it is about authorization,
  where it has a body: with `HEAD` it has none. -/
  denied : (∀ value, r.head.headers.first? "authorization" = some value → ¬ Presents value key) →
    ∃ response : Response, response.status = 401 ∧
      (r.head.method ≠ "HEAD" → response.Tells "unauthorized") ∧
      ∀ (r' : Incoming) (resource' : Resource),
        Resource.at? r'.head.target.path = some resource' → resource'.kind = resource.kind →
        r'.head.method = r.head.method →
        r'.head.headers.first? "authorization" = r.head.headers.first? "authorization" →
        ∀ now fresh network faults db,
          g.handle now fresh network faults db r' = (response, db)
  /-- If it does, and the key is printable, the request is handled as without a key. -/
  allowed : key ≠ "" → (∀ c ∈ key.toList, Text.IsPrintable c) → ∀ value,
    r.head.headers.first? "authorization" = some value → Presents value key →
    ∀ now fresh network faults db,
      g.handle now fresh network faults db r = g.withoutKey.handle now fresh network faults db r

/-- What becomes of a header value at its seventh byte. -/
structure Splits (value : String) : Prop where
  /-- A value that is not visible, or not longer, is not split: it presents nothing. -/
  short : ¬ (Header.isVisible value = true ∧ 7 < value.utf8ByteSize) → presentedKey? value = none
  /-- Any other is split between two characters, and the first seven bytes decide. -/
  long : Header.isVisible value = true → 7 < value.utf8ByteSize →
    ∃ start rest, value = start ++ rest ∧ start.utf8ByteSize = 7 ∧
      presentedKey? value = if start.toList.map Text.lower = keyStart then some rest else none

/-- **The guard is complete and transparent.**  With a key configured, every request for a guarded
resource, whatever its method, either presents the key and is handled as if there were none, or is
denied in a way that only depends on its method and its first `authorization` value.  No value can
make the guard fail. -/
theorem admin_guard_complete_and_transparent (g : Gateway) (key : String)
    (hkey : g.settings.admin.apiKey = some key) (r : Incoming) (resource : Resource)
    (hat : Resource.at? r.head.target.path = some resource)
    (hguarded : resource.isGuarded = true) : g.Guards key resource r ∧ ∀ value, Splits value := by
  refine ⟨⟨fun hnot => ?_, fun hne hprintable value hvalue hpresents => ?_⟩,
    fun value => ⟨presentedKey?_of_short, exists_split⟩⟩
  · obtain ⟨message, hdenied⟩ : ∃ message,
        guardKey (some key) r.head.headers = .error (.unauthorized message) := by
      refine (guardKey_ok_or_unauthorized key r.head.headers).resolve_left fun hok => ?_
      obtain ⟨value, hvalue, hpresents⟩ := presents_of_guardKey_ok hok
      exact hnot value hvalue hpresents
    refine ⟨denial resource r.head.method (.unauthorized message), status_denial _ _ _,
      fun hmethod => tells_denial hmethod _ _, ?_⟩
    intro r' resource' hat' hkind hmethod hvalue now fresh network faults db
    have hguard : g.guard resource' r' = .error (.unauthorized message) := by
      rw [guard_of_guarded hkey ((isGuarded_of_kind_eq hkind).trans hguarded),
        guardKey_congr hvalue, hdenied]
    rw [handle_of_denied hat' hguard, ← denial_kind resource', hkind, denial_kind, hmethod]
  · intro now fresh network faults db
    refine handle_of_allowed hat ?_
    rw [guard_of_guarded hkey hguarded]
    exact guardKey_of_presents hne hprintable hvalue hpresents

end Gateway

/-! ## A site with a key -/

namespace Site

/-- The site with a key for its administration. -/
def keyed : Gateway := { gateway with settings.admin.apiKey := some "secret" }

/-- A request to revoke an application, with some headers. -/
def removal (hs : Headers) : Incoming :=
  ⟨⟨"DELETE", ⟨"/oauth/applications/7", none⟩, hs⟩, .whole .empty⟩

/-- A request for the head of the list of applications. -/
def probe : Incoming := ⟨⟨"HEAD", ⟨"/oauth/applications", none⟩, []⟩, .whole .empty⟩

/-- What is drawn for a request. -/
def drawing : Credential.Fresh := ⟨"uid", "secret", "code", "token", "refresh", "trace"⟩

end Site

namespace Gateway

/-- Without the key an application cannot be revoked, and with it, it can. -/
theorem admin_guard_complete_and_transparent_site :
    (∃ response : Response, response.status = 401 ∧ response.Tells "unauthorized" ∧
      ∀ now fresh network faults db,
        Site.keyed.handle now fresh network faults db (Site.removal []) = (response, db)) ∧
    ∀ now fresh network faults db,
      Site.keyed.handle now fresh network faults db
          (Site.removal [⟨"authorization", "bEaReR secret"⟩]) =
        Site.keyed.withoutKey.handle now fresh network faults db
          (Site.removal [⟨"authorization", "bEaReR secret"⟩]) := by
  have hpath : Resource.at? "/oauth/applications/7" = some (.application ['7']) := by decide +kernel
  have hat : ∀ hs, Resource.at? (Site.removal hs).head.target.path = some (.application ['7']) :=
    fun _ => hpath
  constructor
  · obtain ⟨response, hstatus, htells, hsame⟩ :=
      (admin_guard_complete_and_transparent Site.keyed "secret" rfl (Site.removal []) _ (hat [])
        rfl).1.denied nofun
    exact ⟨response, hstatus, htells (by decide), hsame (Site.removal []) _ (hat []) rfl rfl rfl⟩
  · refine (admin_guard_complete_and_transparent Site.keyed "secret" rfl
      (Site.removal [⟨"authorization", "bEaReR secret"⟩]) _ (hat _) rfl).1.allowed (by decide)
      (Text.isPrintable_of_all (by decide)) "bEaReR secret" (by decide)
      ⟨"bEaReR ", by decide, by decide⟩

/-- A response without a body tells nothing. -/
theorem not_tells_of_empty {response : Response} (h : response.body = ByteArray.empty)
    (code : String) : ¬ response.Tells code := by
  rintro ⟨v, hbody, hcode⟩
  cases v with
  | object fields =>
    have hempty : (String.ofList (Json.Value.object fields).render).utf8ByteSize = 0 :=
      congrArg ByteArray.size (hbody.symm.trans h)
    have hbrace : 0 < Char.utf8Size '\x7b' := by decide
    rw [String.utf8ByteSize_ofList, Json.Value.render, String.utf8Len_cons] at hempty
    omega
  | null | bool | number | text | list => cases hcode

/-- **A denied `HEAD` request is not told why**: the response is 401, but has no body. -/
theorem head_denied_without_code :
    Site.keyed.settings.admin.apiKey = some "secret" ∧
    Resource.at? Site.probe.head.target.path = some .applications ∧
    Site.probe.head.headers.first? "authorization" = none ∧
    (Site.keyed.handle .epoch Site.drawing (fun _ => .failed) .none .empty Site.probe).1.status =
      401 ∧
    ¬ (Site.keyed.handle .epoch Site.drawing (fun _ => .failed) .none .empty
      Site.probe).1.Tells "unauthorized" := by
  have hat : Resource.at? Site.probe.head.target.path = some .applications := by decide
  have hguard : Site.keyed.guard .applications Site.probe =
      .error (.unauthorized "Missing Authorization header") := rfl
  rw [handle_of_denied hat hguard]
  refine ⟨rfl, hat, rfl, status_denial _ _ _, not_tells_of_empty ?_ _⟩
  rw [denial]
  exact congrArg Response.body (if_pos rfl)

end Gateway

end OAuthGateway

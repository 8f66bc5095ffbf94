import Mathlib.Data.List.Induction
import OAuthGateway.Proofs.Authority.Account

/-!
# Proofs/Authority/Provenance — every access token stems from an accepted grant request

A `Root` is a grant request with the application that it is of and the response type that it asks
for.  It is `Accepted` when, at some moment of the run, its checks were made and passed: the checks
as they ran there, on the rows of that moment and with the calls of the store that failed in them
(`Root.Clears`), for a request can be in order and still be refused when a lookup times out.  Read
backwards, the log leads from every access token to a root (`Stems`): the token was issued for an
implicit request, for the code of a request, or for the refresh token of a token that has a root.
On the way nothing is widened: application, resource owner and scopes are those of the root
(`Rooted`).

The engine is that rows are what answers showed: what a redemption copies comes from a row that an
earlier answer showed, so the token that is issued has the root of that answer
(`yields_of_exchange`, `yields_of_rotation`).
-/

namespace OAuthGateway

open Time Procedure

/-! ## Roots

Where everything that is issued begins: a request whose checks have passed. -/

/-- The grant request that a request makes. -/
def IssueRequest.grantRequest? : IssueRequest → Option GrantRequest
  | .grantor r | .grant r | .grantToken r => some r
  | .token _ => none

/-- A grant request, the application that it is of, and what it asks for. -/
structure Root where
  request : GrantRequest
  app : Application
  kind : ResponseType

/-- The root that has been cleared. -/
def Clearance.root? : Clearance → Option Root
  | .code r app => some ⟨r, app, .code⟩
  | .token r app => some ⟨r, app, .token⟩
  | .redemption _ => none

theorem Authority.Passed.root {auth : Authority} {faults : Faults} {now : Instant} {s : Store}
    {n : ℕ} {q : IssueRequest} {c : Clearance} {root : Root}
    (h : auth.Passed faults now s n q c) (hroot : c.root? = some root) :
    q.grantRequest? = some root.request ∧ root.request.Entitled root.kind s root.app := by
  cases h <;> cases hroot <;> exact ⟨rfl, ‹_›⟩

namespace Root

/-- The checks of the request, made on the rows with these faults, pass, and clear the root. -/
def Clears (auth : Authority) (s : Store) (q : IssueRequest) (now : Instant) (faults : Faults)
    (root : Root) : Prop :=
  ∃ c db, (auth.clear now q).perform faults (.ofStore s) = (.ok c, db) ∧ c.root? = some root

/-- The checks of the root were made at some moment of the run, and passed. -/
def Accepted (auth : Authority) (moves : List Move) (root : Root) : Prop :=
  ∃ before q now faults, before ++ [.clear q now faults] <+: moves ∧
    root.Clears auth (Traffic.after auth before).store q now faults

namespace Clears

variable {auth : Authority} {s : Store} {q : IssueRequest} {now : Instant} {faults : Faults}
  {root : Root}

/-- The request asks for the root. -/
theorem asked (h : root.Clears auth s q now faults) : q.grantRequest? = some root.request := by
  obtain ⟨c, db, hrun, hroot⟩ := h
  exact ((Authority.clear_ok hrun).root hroot).1

/-- The client of the root resolves to its application, and the request is valid for it. -/
theorem entitled (h : root.Clears auth s q now faults) :
    root.request.Entitled root.kind s root.app := by
  obtain ⟨c, db, hrun, hroot⟩ := h
  exact ((Authority.clear_ok hrun).root hroot).2

end Clears

/-- What has this application, resource owner and scopes has them from the root. -/
structure Yields (root : Root) (applicationId : Int) (resourceOwnerId scopes : String) :
    Prop where
  applicationId : applicationId = root.app.id
  resourceOwnerId : root.request.resourceOwnerId = some resourceOwnerId
  scopes : scopes = root.request.scopes.getD ""

theorem Yields.of_eq {root : Root} {a a' : Int} {owner owner' scopes scopes' : String}
    (h : root.Yields a owner scopes) (ha : a = a') (howner : owner = owner')
    (hscopes : scopes = scopes') : root.Yields a' owner' scopes' := by
  rwa [← ha, ← howner, ← hscopes]

namespace Accepted

variable {auth : Authority} {moves moves' : List Move} {root : Root}

theorem mono (hmoves : moves <+: moves') (h : root.Accepted auth moves) :
    root.Accepted auth moves' := by
  obtain ⟨before, q, now, faults, hbefore, hclears⟩ := h
  exact ⟨before, q, now, faults, hbefore.trans hmoves, hclears⟩

theorem valid (h : root.Accepted auth moves) : root.request.validate root.app = .ok root.kind := by
  obtain ⟨_, _, _, _, -, hclears⟩ := h
  exact hclears.entitled.valid

/-- What is issued for the request itself has its application, resource owner and scopes. -/
theorem yields (h : root.Accepted auth moves) :
    root.Yields root.app.id (root.request.resourceOwnerId.getD "")
      (root.request.scopes.getD "") where
  applicationId := rfl
  resourceOwnerId := by
    obtain ⟨⟨owner, howner⟩, -⟩ := GrantRequest.validate_ok h.valid
    rw [howner, Option.getD_some]
  scopes := rfl

/-- All the scopes that come from the root are those that the application had when it was accepted.
-/
theorem covers (h : root.Accepted auth moves) {applicationId : Int} {owner scopes : String}
    (hyields : root.Yields applicationId owner scopes) : Scope.covers root.app.scopes scopes := by
  obtain ⟨-, hcovers, -⟩ := GrantRequest.validate_ok h.valid
  rw [hyields.scopes]
  exact hcovers

/-- The application of the root is there for good. -/
theorem exists_application (h : root.Accepted auth moves) :
    ∃ app ∈ (Traffic.after auth moves).store.applications, Row.Kept root.app app := by
  obtain ⟨before, q, now, faults, ⟨rest, rfl⟩, hclears⟩ := h
  have hsound := Traffic.sound_after auth before
  have hmem := hclears.entitled.mem_applications hsound.store
  have hleads := Traffic.leads_after auth before ([.clear q now faults] ++ rest)
  rw [List.append_assoc]
  exact hleads.grows.applications.exists_kept hmem

end Accepted

end Root

/-! ## Lineage in the log

Three ways lead to an access token, and each leads back to a root. -/

/-- The log, with the latest answer first, leads from an access token that was answered back to a
root. -/
inductive Stems : List Event → AccessTokenView → Root → Prop
  /-- The token was answered to the request itself. -/
  | implicit {log : List Event} {q : IssueRequest} {v : AccessTokenView} {root : Root}
      (asked : q.grantRequest? = some root.request) (kind : root.kind = .token) :
      Stems (.issue q (.ok (.token v)) :: log) v root
  /-- The token was exchanged for the code that was answered to the request. -/
  | exchange {log : List Event} {q : IssueRequest} {code : GrantView} {r : TokenRequest}
      {v : AccessTokenView} {root : Root} (granted : .issue q (.ok (.grant code)) ∈ log)
      (asked : q.grantRequest? = some root.request) (kind : root.kind = .code)
      (redeems : r.source = some (.code code.code)) :
      Stems (.issue (.token r) (.ok (.token v)) :: log) v root
  /-- The token replaces one that stems from the root, whose refresh token was redeemed. -/
  | rotation {log : List Event} {old : AccessTokenView} {text : String} {r : TokenRequest}
      {v : AccessTokenView} {root : Root} (stems : Stems log old root)
      (shown : old.refreshToken = some text) (redeems : r.source = some (.refresh text)) :
      Stems (.issue (.token r) (.ok (.token v)) :: log) v root
  /-- Later answers change nothing. -/
  | later {e : Event} {log : List Event} {v : AccessTokenView} {root : Root}
      (stems : Stems log v root) : Stems (e :: log) v root

theorem Stems.mono {log log' : List Event} {v : AccessTokenView} {root : Root}
    (hlog : log <:+ log') (h : Stems log v root) : Stems log' v root := by
  obtain ⟨news, rfl⟩ := hlog
  induction news with
  | nil => exact h
  | cons e news ih => exact .later ih

/-- The access token has the root, and nothing that the root was not granted. -/
structure Rooted (auth : Authority) (moves : List Move) (v : AccessTokenView) (root : Root) :
    Prop where
  accepted : root.Accepted auth moves
  stems : Stems (Traffic.after auth moves).log v root
  yields : root.Yields v.applicationId v.resourceOwnerId v.scopes

namespace Rooted

variable {auth : Authority} {moves : List Move} {v : AccessTokenView} {root : Root}

/-- All its scopes are those that the application had when the root was accepted. -/
theorem covers (h : Rooted auth moves v root) : Scope.covers root.app.scopes v.scopes :=
  h.accepted.covers h.yields

/-- Without a code, it is of a confidential client. -/
theorem confidential (h : Rooted auth moves v root) (hkind : root.kind = .token) :
    root.app.ownerType = .confidentialClient := by
  obtain ⟨-, -, hconfidential⟩ := GrantRequest.validate_ok h.accepted.valid
  exact hconfidential hkind

/-- **A public client only holds what it was issued for a code.** -/
theorem kind_of_public (h : Rooted auth moves v root) {app : Application}
    (happ : app ∈ (Traffic.after auth moves).store.applications) (hid : app.id = v.applicationId)
    (hpublic : app.ownerType = .publicClient) : root.kind = .code := by
  obtain ⟨app', happ', hkept⟩ := h.accepted.exists_application
  have hids : app.id = app'.id := by
    rw [hid, h.yields.applicationId]
    exact hkept.id_eq.symm
  obtain rfl : app = app' :=
    (Traffic.sound_after auth moves).store.applications.eq_of_id_eq happ happ' hids
  have howner : app.ownerType = root.app.ownerType := hkept.congr Application.ownerType
  cases hkind : root.kind with
  | code => rfl
  | token =>
    rw [howner, h.confidential hkind] at hpublic
    cases hpublic

end Rooted

/-! ## What a redemption copies

The owner and the scopes of an access token are those of the credential that was redeemed for it. -/

namespace Traffic

variable {auth : Authority} {moves : List Move}

/-- The rows and answers of a run have roots. -/
structure Traced (auth : Authority) (moves : List Move) : Prop where
  /-- What waits for its transaction has been accepted. -/
  waiting : ∀ task ∈ (after auth moves).waiting, ∀ root, task.clearance.root? = some root →
    root.Accepted auth moves ∧ task.request.grantRequest? = some root.request
  /-- A code was answered to a request that was accepted. -/
  codes : ∀ q v, .issue q (.ok (.grant v)) ∈ (after auth moves).log → ∃ root : Root,
    root.kind = .code ∧ root.Accepted auth moves ∧ q.grantRequest? = some root.request ∧
      root.Yields v.applicationId v.resourceOwnerId v.scopes
  tokens : ∀ q v, .issue q (.ok (.token v)) ∈ (after auth moves).log →
    ∃ root, Rooted auth moves v root

theorem traced_nil : Traced auth [] :=
  ⟨fun _ h => absurd h List.not_mem_nil, fun _ _ h => absurd h List.not_mem_nil,
    fun _ _ h => absurd h List.not_mem_nil⟩

theorem rooted_concat {v : AccessTokenView} {root : Root} (move : Move)
    (h : Rooted auth moves v root) : Rooted auth (moves ++ [move]) v root where
  accepted := h.accepted.mono (List.prefix_append _ _)
  stems := by
    rw [after_concat]
    exact h.stems.mono (log_suffix_step (after auth moves) move)
  yields := h.yields

/-- What an exchange issues has the root of the code. -/
theorem yields_of_exchange (htraced : Traced auth moves) {r : TokenRequest} {now : Instant}
    {g : Grant}
    (hcleared : Cleared auth (after auth moves).store (.token r) now (.redemption (.code g))) :
    ∃ root : Root, root.Accepted auth moves ∧
      root.Yields g.applicationId g.resourceOwnerId g.scopes ∧
      ∀ v, Stems (.issue (.token r) (.ok (.token v)) :: (after auth moves).log) v root := by
  obtain ⟨g', hg', hkept⟩ := hcleared.exists_grant
  obtain ⟨q, code, hcode, hrow⟩ := exists_grantView hg'
  have hfixed : code.row = Row.fixed g := hrow.trans hkept.fixed
  obtain ⟨root, hkind, haccepted, hasked, hyields⟩ := htraced.codes q code hcode
  have hredeems : r.source = some (.code code.code) := by
    have hsource : r.source = some (.code g.code) := hcleared.source_exchange (.grant code)
    have hcode : code.code = g.code := congrArg Grant.code hfixed
    rw [hsource, hcode]
  refine ⟨root, haccepted, ?_, fun v => .exchange hcode hasked hkind hredeems⟩
  exact hyields.of_eq (congrArg Grant.applicationId hfixed)
    (congrArg Grant.resourceOwnerId hfixed) (congrArg Grant.scopes hfixed)

/-- What a rotation issues has the root of the access token that it replaces. -/
theorem yields_of_rotation (htraced : Traced auth moves) {r : TokenRequest} {now : Instant}
    {used : RefreshToken} {old : AccessToken}
    (hcleared : Cleared auth (after auth moves).store (.token r) now
      (.redemption (.refresh used old))) :
    ∃ root : Root, root.Accepted auth moves ∧
      root.Yields old.applicationId old.resourceOwnerId old.scopes ∧
      ∀ v, Stems (.issue (.token r) (.ok (.token v)) :: (after auth moves).log) v root := by
  obtain ⟨⟨used', hused', hkept⟩, old', hold', hkept', hid⟩ := hcleared.exists_refreshToken
  obtain ⟨q, shown, hshown, hshownId, htext⟩ := exists_bond hused'
  -- the answer that showed the refresh token showed the access token behind it: ids are unique
  obtain ⟨t, ht, hrow⟩ := exists_accessToken hshown
  have hids : t.id = old'.id := by
    have hrowId : shown.id = t.id := congrArg AccessToken.id hrow
    rw [← hrowId, hshownId, Row.accessTokenId_of_kept hkept, hid]
  obtain rfl : t = old' :=
    (sound_after auth moves).store.accessTokens.eq_of_id_eq ht hold' hids
  have hfixed : shown.row = Row.fixed old := hrow.trans hkept'.fixed
  obtain ⟨root, hrooted⟩ := htraced.tokens q shown hshown
  have hredeems : r.source = some (.refresh used'.token) := by
    have hsource : r.source = some (.refresh used.token) := hcleared.source_rotation (.token shown)
    have htoken : used'.token = used.token := hkept.key_eq
    rw [hsource, htoken]
  refine ⟨root, hrooted.accepted, ?_, fun v => .rotation hrooted.stems htext hredeems⟩
  exact hrooted.yields.of_eq (congrArg AccessToken.applicationId hfixed)
    (congrArg AccessToken.resourceOwnerId hfixed) (congrArg AccessToken.scopes hfixed)

/-- **A code that is written has a root**, which is what was asked for. -/
theorem Traced.exists_root_of_code (htraced : Traced auth moves) {task : Task}
    (htask : task ∈ (after auth moves).waiting) {fresh : Credential.Fresh} {v : GrantView}
    {s' : Store}
    (hwritten : auth.Written task.now fresh (after auth moves).store task.clearance (.grant v) s') :
    ∃ root : Root, root.kind = .code ∧ root.Accepted auth moves ∧
      task.request.grantRequest? = some root.request ∧
      root.Yields v.applicationId v.resourceOwnerId v.scopes := by
  have hwaiting := htraced.waiting task htask
  obtain ⟨q, now, clearance⟩ := task
  cases hwritten with
  | code added rows leads =>
    obtain ⟨haccepted, hasked⟩ := hwaiting _ rfl
    refine ⟨_, rfl, haccepted, hasked, ?_⟩
    rw [added]
    exact haccepted.yields

/-- **A token that is written has a root.** -/
theorem Traced.exists_root_of_token (htraced : Traced auth moves) {task : Task}
    (htask : task ∈ (after auth moves).waiting) {fresh : Credential.Fresh} {v : AccessTokenView}
    {s' : Store}
    (hwritten : auth.Written task.now fresh (after auth moves).store task.clearance (.token v) s') :
    ∃ root : Root, root.Accepted auth moves ∧
      root.Yields v.applicationId v.resourceOwnerId v.scopes ∧
      Stems (.issue task.request (.ok (.token v)) :: (after auth moves).log) v root := by
  have hwaiting := htraced.waiting task htask
  have hcleared := (sound_after auth moves).cleared task htask
  obtain ⟨q, now, clearance⟩ := task
  cases hwritten with
  | token issues =>
    obtain ⟨haccepted, hasked⟩ := hwaiting _ rfl
    refine ⟨_, haccepted, ?_, .implicit hasked rfl⟩
    rw [issues.token]
    exact haccepted.yields
  | exchange marked issues =>
    obtain ⟨r, rfl⟩ := hcleared.redemption
    obtain ⟨root, haccepted, hyields, hstems⟩ := yields_of_exchange htraced hcleared
    refine ⟨root, haccepted, ?_, hstems _⟩
    rw [issues.token]
    exact hyields
  | rotation marked issues =>
    obtain ⟨r, rfl⟩ := hcleared.redemption
    obtain ⟨root, haccepted, hyields, hstems⟩ := yields_of_rotation htraced hcleared
    refine ⟨root, haccepted, ?_, hstems _⟩
    rw [issues.token]
    exact hyields

/-- **One more move** keeps all roots, and gives one to what it issues. -/
theorem Traced.concat (htraced : Traced auth moves) (move : Move) :
    Traced auth (moves ++ [move]) := by
  have hsound := sound_after auth moves
  have hprefix : moves <+: moves ++ [move] := List.prefix_append _ _
  constructor
  · intro task htask root hroot
    rw [after_concat] at htask
    rcases mem_waiting_step htask with htask | ⟨faults, db, rfl, hrun⟩
    · obtain ⟨haccepted, hasked⟩ := htraced.waiting task htask root hroot
      exact ⟨haccepted.mono hprefix, hasked⟩
    · have hclears : root.Clears auth (after auth moves).store task.request task.now faults :=
        ⟨task.clearance, db, hrun, hroot⟩
      exact ⟨⟨moves, _, _, faults, List.prefix_rfl, hclears⟩, hclears.asked⟩
  · intro q v hv
    rw [after_concat] at hv
    rcases mem_log_step hsound hv with hv | ⟨-, task, htask, rfl, fresh, hwritten⟩
    · obtain ⟨root, hkind, haccepted, hasked, hyields⟩ := htraced.codes q v hv
      exact ⟨root, hkind, haccepted.mono hprefix, hasked, hyields⟩
    · obtain ⟨root, hkind, haccepted, hasked, hyields⟩ :=
        htraced.exists_root_of_code htask hwritten
      exact ⟨root, hkind, haccepted.mono hprefix, hasked, hyields⟩
  · intro q v hv
    rw [after_concat] at hv
    rcases mem_log_step hsound hv with hv | ⟨hlog, task, htask, rfl, fresh, hwritten⟩
    · obtain ⟨root, hrooted⟩ := htraced.tokens q v hv
      exact ⟨root, rooted_concat move hrooted⟩
    · obtain ⟨root, haccepted, hyields, hstems⟩ := htraced.exists_root_of_token htask hwritten
      refine ⟨root, haccepted.mono hprefix, ?_, hyields⟩
      rw [after_concat, hlog]
      exact hstems

/-- **Every run has roots.** -/
theorem traced (auth : Authority) (moves : List Move) : Traced auth moves := by
  induction moves using List.reverseRecOn with
  | nil => exact traced_nil
  | append_singleton moves move ih => exact ih.concat move

end Traffic

/-! ## Provenance -/

/-- The race of a public client. -/
def Race.publicMoves : List Move :=
  .administer (.create { Race.form with ownerType := some "public" }) .epoch (fresh 0) .none ::
    moves.tail

namespace Traffic

/-- **Provenance of access tokens.**  Every access token that was answered stems from a grant
request that was accepted, for the same application and resource owner and with the same scopes, all
of which the application had at that moment; what was not issued for a code is of a confidential
client.  And every access token of the store was answered so; if it is of a public client, it stems
from a code. -/
theorem tokens_have_roots (auth : Authority) (moves : List Move) :
    (∀ q v, .issue q (.ok (.token v)) ∈ (after auth moves).log →
      ∃ root : Root, root.Accepted auth moves ∧ Stems (after auth moves).log v root ∧
        v.applicationId = root.app.id ∧
        root.request.resourceOwnerId = some v.resourceOwnerId ∧
        v.scopes = root.request.scopes.getD "" ∧
        (∀ w ∈ Scope.words v.scopes, w ∈ Scope.words root.app.scopes) ∧
        (root.kind = .token → root.app.ownerType = .confidentialClient)) ∧
    ∀ t ∈ (after auth moves).store.accessTokens,
      ∃ q v, .issue q (.ok (.token v)) ∈ (after auth moves).log ∧ v.token = t.token ∧
        v.applicationId = t.applicationId ∧
        ∃ root : Root, root.Accepted auth moves ∧ Stems (after auth moves).log v root ∧
          ∀ app ∈ (after auth moves).store.applications, app.id = t.applicationId →
            app.ownerType = .publicClient → root.kind = .code := by
  have htraced := traced auth moves
  constructor
  · intro q v hv
    obtain ⟨root, hrooted⟩ := htraced.tokens q v hv
    exact ⟨root, hrooted.accepted, hrooted.stems, hrooted.yields.applicationId,
      hrooted.yields.resourceOwnerId, hrooted.yields.scopes, hrooted.covers, hrooted.confidential⟩
  · intro t ht
    obtain ⟨q, v, hv, hrow⟩ := exists_tokenView ht
    have happlication : v.applicationId = t.applicationId := congrArg AccessToken.applicationId hrow
    obtain ⟨root, hrooted⟩ := htraced.tokens q v hv
    refine ⟨q, v, hv, congrArg AccessToken.token hrow, happlication, root, hrooted.accepted,
      hrooted.stems, ?_⟩
    intro app happ hid hpublic
    exact hrooted.kind_of_public happ (hid.trans happlication.symm) hpublic

/-- In the race of a public client, the token of the rotation stems from a code, of a request whose
checks have passed. -/
theorem tokens_have_roots_race :
    ∃ q v root, .issue q (.ok (.token v)) ∈ (after Race.authority Race.publicMoves).log ∧
      v.token = "token4" ∧ root.Accepted Race.authority Race.publicMoves ∧
      Stems (after Race.authority Race.publicMoves).log v root ∧ root.kind = .code := by
  have hheld : ∃ t ∈ (after Race.authority Race.publicMoves).store.accessTokens,
      t.token = "token4" ∧
        ∃ app ∈ (after Race.authority Race.publicMoves).store.applications,
          app.id = t.applicationId ∧ app.ownerType = .publicClient := by decide +kernel
  obtain ⟨t, ht, htext, app, happ, hid, hpublic⟩ := hheld
  obtain ⟨q, v, hv, htoken, -, root, haccepted, hstems, hkind⟩ :=
    (tokens_have_roots Race.authority Race.publicMoves).2 t ht
  exact ⟨q, v, root, hv, htoken.trans htext, haccepted, hstems, hkind app happ hid hpublic⟩

end Traffic

end OAuthGateway

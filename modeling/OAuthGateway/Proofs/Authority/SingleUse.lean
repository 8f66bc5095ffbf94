import Mathlib.Data.List.Pairwise
import OAuthGateway.Proofs.Authority.Account

/-!
# Proofs/Authority/SingleUse — an authorization code is used once, and never for nothing

Any number of requests may have checked the same code before the first of them marks it as used.
The mark is a compare-and-swap, so one of them wins and the others are refused (`code_used_once`):
over any run, the exchanges of a code that succeeded are at most one, its row is revoked exactly
when there was one, and they are as many as the access tokens in the store that the code was
exchanged for.
-/

namespace OAuthGateway

/-- The text was answered to an exchange of the code. -/
def Event.yields (code text : String) (e : Event) : Bool :=
  e.exchanges code && e.accessToken == some text

/-- The access token was answered to an exchange of the code. -/
def Traffic.yields (w : Traffic) (code : String) (t : AccessToken) : Bool :=
  w.log.any (Event.yields code t.token)

theorem eq_of_nodup_filterMap {α β : Type} {f : α → Option β} {l : List α} {a a' : α} {b : β}
    (hl : (l.filterMap f).Nodup) (ha : a ∈ l) (ha' : a' ∈ l) (hb : f a = some b)
    (hb' : f a' = some b) : a = a' := by
  by_contra hne
  have hsymm : Std.Symm fun x y => ∀ b, f x = some b → ∀ b', f y = some b' → b ≠ b' :=
    ⟨fun x y hxy b hb b' hb' heq => hxy b' hb' b hb heq.symm⟩
  exact (List.pairwise_filterMap.1 hl).forall ha ha' hne b hb b hb' rfl

/-- An exchange that succeeds is answered with an access token. -/
theorem Effect.exists_accessToken {auth : Authority} {s s' : Store} {e : Event} {code : String}
    (h : Effect auth s e s') (hexchanges : e.exchanges code = true) :
    ∃ text, e.accessToken = some text := by
  cases h with
  | refused => rw [Event.exchanges, Event.source_refused] at hexchanges; cases hexchanges
  | code cleared added rows leads =>
    rw [Event.exchanges, cleared.source_code] at hexchanges
    cases hexchanges
  | revocation | errand => cases hexchanges
  | token | exchange | rotation => exact ⟨_, rfl⟩

namespace Traffic

variable (auth : Authority) (moves : List Move) (code : String)

/-- No access token is answered twice. -/
theorem nodup_accessTokens : ((after auth moves).log.filterMap Event.accessToken).Nodup := by
  rw [← List.nodup_reverse, ← accessTokens_answered]
  exact (sound_after auth moves).store.accessTokens.distinct

/-- Whether a text was answered to an exchange, the one answer that shows it tells. -/
theorem any_yields_iff {e : Event} {text : String} (he : e ∈ (after auth moves).log)
    (htext : e.accessToken = some text) :
    (after auth moves).log.any (Event.yields code text) = true ↔ e.exchanges code = true := by
  rw [List.any_eq_true]
  constructor
  · rintro ⟨e', he', hyields⟩
    obtain ⟨hexchanges, htext'⟩ := Bool.and_eq_true_iff.1 hyields
    have hsame : e = e' := eq_of_nodup_filterMap (nodup_accessTokens auth moves) he he' htext
      (beq_iff_eq.1 htext')
    rwa [hsame]
  · intro hexchanges
    exact ⟨e, he, Bool.and_eq_true_iff.2 ⟨hexchanges, beq_iff_eq.2 htext⟩⟩

/-- **Each exchange that succeeded has its own access token.** -/
theorem countP_yields :
    (after auth moves).store.accessTokens.countP ((after auth moves).yields code) =
      (after auth moves).log.countP (Event.exchanges code) := by
  calc (after auth moves).store.accessTokens.countP ((after auth moves).yields code)
      = ((after auth moves).store.accessTokens.map (·.token)).countP
          (fun text => (after auth moves).log.any (Event.yields code text)) := by
        rw [List.countP_map]
        rfl
    _ = ((after auth moves).log.filterMap Event.accessToken).countP
          (fun text => (after auth moves).log.any (Event.yields code text)) := by
        rw [accessTokens_answered, List.countP_reverse]
    _ = (after auth moves).log.countP (Event.exchanges code) := by
        rw [List.countP_filterMap]
        refine List.countP_congr fun e he => ?_
        cases htext : e.accessToken with
        | some text => exact any_yields_iff auth moves code he htext
        | none =>
          refine ⟨nofun, fun hexchanges => ?_⟩
          obtain ⟨s, s', -, heffect⟩ := exists_effect_of_mem_log he
          obtain ⟨text, hsome⟩ := heffect.exists_accessToken hexchanges
          rw [htext] at hsome
          cases hsome

/-- **An authorization code is used once, and never for nothing**: whatever the requests and their
order, and whatever fails, at most one exchange of the code has succeeded, its row is revoked
exactly when one has, and the access tokens that it was exchanged for are as many. -/
theorem code_used_once :
    (after auth moves).log.countP (Event.exchanges code) ≤ 1 ∧
      (∀ g ∈ (after auth moves).store.grants, g.code = code →
        (g.revokedAt.isSome = true ↔ (after auth moves).log.countP (Event.exchanges code) = 1)) ∧
      (after auth moves).store.accessTokens.countP ((after auth moves).yields code) =
        (after auth moves).log.countP (Event.exchanges code) := by
  have hsound := (sound_after auth moves).store.grants
  refine ⟨?_, fun g hg hcode => ?_, countP_yields auth moves code⟩
  · rw [exchanges_eq_spent]
    exact hsound.countP_isSpent_le_one
  · rw [exchanges_eq_spent, ← hcode]
    exact hsound.isSome_revokedAt_iff hg

/-- The code of the race is revoked, so one of its two exchanges has succeeded and has yielded an
access token. -/
theorem code_used_once_race :
    { Race.code with revokedAt := some .epoch } ∈
        (after Race.authority Race.moves).store.grants ∧
      (after Race.authority Race.moves).log.countP (Event.exchanges "code1") = 1 ∧
      (after Race.authority Race.moves).store.accessTokens.countP
        ((after Race.authority Race.moves).yields "code1") = 1 := by
  have hrow : { Race.code with revokedAt := some .epoch } ∈
      (after Race.authority Race.moves).store.grants := by decide +kernel
  obtain ⟨-, hrevoked, hyields⟩ := code_used_once Race.authority Race.moves "code1"
  have hone := (hrevoked _ hrow rfl).1 rfl
  exact ⟨hrow, hone, hyields.trans hone⟩

end Traffic

end OAuthGateway

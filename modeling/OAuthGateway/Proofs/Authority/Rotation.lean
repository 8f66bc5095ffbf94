import Mathlib.Data.List.Perm.Basic
import OAuthGateway.Proofs.Authority.Account

/-!
# Proofs/Authority/Rotation — refresh tokens form chains, never trees

An implicit grant and the exchange of a code start a chain; a rotation takes the refresh token at
its end and puts another in its place.  The engine is one conservation law (`Effect.perm_usable`):
what was usable and what is new is what was used and what remains.  Following the log backwards,
every usable refresh token comes from the start of a chain (`origin`), and the law makes that a
bijection (`perm_origins`).
-/

namespace OAuthGateway

open Time Procedure

/-! ## Chains in the log

A chain is told by the answers: each rotation redeems what an earlier answer showed, and shows the
next. -/

namespace Event

/-- An implicit grant has succeeded. -/
def isImplicitGrant (e : Event) : Bool := e.source == some .implicit

/-- An exchange of some code has succeeded. -/
def isExchange (e : Event) : Bool :=
  match e.source with
  | some (.code _) => true
  | _ => false

/-- The refresh token that was rotated. -/
def rotated (e : Event) : Option String :=
  match e.source with
  | some (.refresh text) => some text
  | _ => none

/-- The refresh token that starts a chain. -/
def original (e : Event) : Option String :=
  if e.isImplicitGrant || e.isExchange then e.refreshToken else none

variable {e : Event}

theorem rotated_eq_some_iff {text : String} :
    e.rotated = some text ↔ e.source = some (.refresh text) := by
  rw [rotated]
  split <;> simp_all

theorem isSome_source (h : (e.isImplicitGrant || e.isExchange) = true) :
    e.source.isSome = true := by
  cases hsource : e.source with
  | none => rw [isImplicitGrant, isExchange, hsource] at h; cases h
  | some source => rfl

theorem original_of_rotated {text : String} (h : e.rotated = some text) : e.original = none := by
  rw [original, isImplicitGrant, isExchange, rotated_eq_some_iff.1 h]
  rfl

theorem original_of_not_rotated (hissued : e.refreshToken.isSome = e.source.isSome)
    (h : e.rotated = none) : e.original = e.refreshToken := by
  rw [rotated] at h
  rw [original, isImplicitGrant, isExchange]
  cases hsource : e.source with
  | none =>
    rw [hsource, Option.isSome_none, Option.isSome_eq_false_iff, Option.isNone_iff_eq_none]
      at hissued
    rw [hissued, ite_self]
  | some source =>
    cases source with
    | implicit | code => rfl
    | refresh text => rw [hsource] at h; cases h

end Event

/-- The start of the chain of a refresh token, in a log with the latest answer first. -/
def origin : List Event → String → String
  | [], text => text
  | e :: log, text =>
    if e.refreshToken = some text then
      match e.rotated with
      | some old => origin log old
      | none => text
    else origin log text

section Origin

variable {e : Event} {text : String}

theorem origin_of_ne (h : e.refreshToken ≠ some text) (log : List Event) :
    origin (e :: log) text = origin log text :=
  if_neg h

theorem origin_of_started (hanswered : e.refreshToken = some text) (hrotated : e.rotated = none)
    (log : List Event) : origin (e :: log) text = text := by
  rw [origin, if_pos hanswered, hrotated]

theorem origin_of_rotated {old : String} (hanswered : e.refreshToken = some text)
    (hrotated : e.rotated = some old) (log : List Event) :
    origin (e :: log) text = origin log old := by
  rw [origin, if_pos hanswered, hrotated]

end Origin

/-! ## Effects on usable refresh tokens

An effect takes at most one refresh token from the usable ones and puts at most one in its place. -/

/-- The usable refresh tokens of the store. -/
def Store.usable (s : Store) : List String := Table.usable s.refreshTokens

theorem Issues.usable {lifetimes : Lifetimes} {enabled : Bool} {now : Instant}
    {d : AccessTokenDraft} {text : String} {s s' : Store} {t : AccessToken}
    {u : Option RefreshToken} (h : Issues lifetimes enabled now d text s t u s') :
    s'.usable = s.usable ++ (u.map (·.token)).toList := by
  rw [Store.usable, h.refreshTokens, Table.usable_append, Table.usable_of_unrevoked h.unused,
    Option.toList_map]
  rfl

namespace Effect

variable {auth : Authority} {s s' : Store} {e : Event}

/-- **What was usable and what is new is what was used and what remains.** -/
theorem perm_usable (hs : s.Sound) (h : Effect auth s e s') :
    (s.usable ++ e.refreshToken.toList).Perm (e.rotated.toList ++ s'.usable) := by
  cases h with
  | refused =>
    rw [Event.rotated, Event.source_refused]
    exact .of_eq (List.append_nil _)
  | code cleared added rows leads =>
    subst rows
    rw [Event.rotated, cleared.source_code]
    exact .of_eq (List.append_nil _)
  | token cleared issues =>
    rw [Event.rotated, cleared.source_token, issues.usable]
    exact .refl _
  | exchange cleared marked issues =>
    obtain ⟨rows, -, rfl⟩ := Store.revokeGrant_ok marked
    rw [Event.rotated, cleared.source_exchange, issues.usable]
    exact .refl _
  | rotation cleared marked issues =>
    obtain ⟨rows, hamend, rfl⟩ := Store.revokeRefreshToken_ok marked
    rw [Event.rotated, cleared.source_rotation, issues.usable]
    exact (hs.refreshTokens.perm_usable_amend hamend fun _ => rfl).append_right _
  | revocation withdrawn =>
    rw [Store.usable, Store.usable, withdrawn.refreshTokens]
    exact .of_eq (List.append_nil _)
  | errand administered =>
    rw [Store.usable, Store.usable, administered.refreshTokens]
    exact .of_eq (List.append_nil _)

/-- A refresh token that is rotated was usable. -/
theorem mem_usable (hs : s.Sound) (h : Effect auth s e s') {text : String}
    (hrotated : e.rotated = some text) : text ∈ s.usable := by
  rw [Event.rotated_eq_some_iff] at hrotated
  cases h with
  | refused => rw [Event.source_refused] at hrotated; cases hrotated
  | code cleared added rows leads => rw [cleared.source_code] at hrotated; cases hrotated
  | token cleared issues => rw [cleared.source_token] at hrotated; cases hrotated
  | exchange cleared marked issues => rw [cleared.source_exchange] at hrotated; cases hrotated
  | rotation cleared marked issues =>
    rw [cleared.source_rotation] at hrotated
    cases hrotated
    obtain ⟨rows, hamend, -⟩ := Store.revokeRefreshToken_ok marked
    exact (hs.refreshTokens.perm_usable_amend hamend fun _ => rfl).mem_iff.2 List.mem_cons_self
  | revocation | errand => cases hrotated

/-- A refresh token that is answered is new. -/
theorem refreshToken_ne (hs : s.Sound) (h : Effect auth s e s') {text : String}
    (htext : text ∈ s.usable) : e.refreshToken ≠ some text := by
  intro hanswered
  obtain ⟨u, hu, -, rfl⟩ := Table.mem_usable_iff.1 htext
  have hdistinct : (s'.refreshTokens.map (·.token)).Nodup :=
    (h.leads.sound hs).refreshTokens.distinct
  rw [h.refreshTokens, hanswered, Option.toList_some, List.nodup_append] at hdistinct
  exact hdistinct.2.2 _ (List.mem_map_of_mem hu) _ List.mem_cons_self rfl

/-- **Where refresh tokens are enabled, every issue answers one.** -/
theorem isSome_refreshToken (henabled : auth.refreshEnabled = true) (h : Effect auth s e s') :
    e.refreshToken.isSome = e.source.isSome := by
  cases h with
  | refused => rw [Event.source_refused]; rfl
  | code cleared added rows leads => rw [cleared.source_code]; rfl
  | token cleared issues =>
    rw [cleared.source_token, Event.refreshToken, issues.refresh, if_pos henabled]
    rfl
  | exchange cleared marked issues =>
    rw [cleared.source_exchange, Event.refreshToken, issues.refresh, if_pos henabled]
    rfl
  | rotation cleared marked issues =>
    rw [cleared.source_rotation, Event.refreshToken, issues.refresh, if_pos henabled]
    rfl
  | revocation | errand => rfl

/-- **A chain is continued or started**: the origins of what is usable are what started the chains
of the log. -/
theorem perm_origins (henabled : auth.refreshEnabled = true) (hs : s.Sound)
    (h : Effect auth s e s') {log : List Event}
    (horigins : (s.usable.map (origin log)).Perm (log.filterMap Event.original)) :
    (s'.usable.map (origin (e :: log))).Perm ((e :: log).filterMap Event.original) := by
  have hissued := h.isSome_refreshToken henabled
  have hperm := (h.perm_usable hs).map (origin (e :: log))
  -- what was usable before is not what is answered now, so its chain is found in the rest
  have hold : ∀ text ∈ s.usable, origin (e :: log) text = origin log text := fun text htext =>
    origin_of_ne (h.refreshToken_ne hs htext) log
  rw [List.map_append, List.map_append, List.map_congr_left hold] at hperm
  cases hrotated : e.rotated with
  | none =>
    have horiginal := Event.original_of_not_rotated hissued hrotated
    rw [hrotated] at hperm
    cases hanswered : e.refreshToken with
    | none =>
      rw [List.filterMap_cons_none (horiginal.trans hanswered)]
      rw [hanswered, Option.toList_none, List.map_nil, List.append_nil] at hperm
      exact hperm.symm.trans horigins
    | some text =>
      rw [List.filterMap_cons_some (horiginal.trans hanswered)]
      rw [hanswered, Option.toList_some, List.map_singleton,
        origin_of_started hanswered hrotated] at hperm
      exact hperm.symm.trans ((List.perm_append_singleton _ _).trans (horigins.cons text))
  | some old =>
    have hsource := Event.rotated_eq_some_iff.1 hrotated
    rw [hsource, Option.isSome_some, Option.isSome_iff_exists] at hissued
    obtain ⟨text, hanswered⟩ := hissued
    rw [List.filterMap_cons_none (Event.original_of_rotated hrotated)]
    rw [hanswered, hrotated, Option.toList_some, Option.toList_some, List.map_singleton,
      List.map_singleton, origin_of_rotated hanswered hrotated,
      hold old (h.mem_usable hs hrotated)] at hperm
    exact ((List.perm_append_singleton _ _).symm.trans hperm).cons_inv.symm.trans horigins

/-- **An issue adds two tokens that belong together**, an access token and a refresh token. -/
theorem adds_pair (henabled : auth.refreshEnabled = true) (h : Effect auth s e s') {source : Source}
    (hsource : e.source = some source) :
    ∃ t u olds, s'.accessTokens = s.accessTokens ++ [t] ∧ s'.refreshTokens = olds ++ [u] ∧
      olds.map (·.token) = s.refreshTokens.map (·.token) ∧ u.accessTokenId = t.id := by
  cases h with
  | refused => rw [Event.source_refused] at hsource; cases hsource
  | code cleared added rows leads => rw [cleared.source_code] at hsource; cases hsource
  | token cleared issues =>
    obtain ⟨u, rfl, hu⟩ := issues.exists_refreshToken henabled
    exact ⟨_, u, _, issues.accessTokens, issues.refreshTokens, rfl, hu⟩
  | exchange cleared marked issues =>
    obtain ⟨rows, -, rfl⟩ := Store.revokeGrant_ok marked
    obtain ⟨u, rfl, hu⟩ := issues.exists_refreshToken henabled
    exact ⟨_, u, _, issues.accessTokens, issues.refreshTokens, rfl, hu⟩
  | rotation cleared marked issues =>
    obtain ⟨rows, hamend, rfl⟩ := Store.revokeRefreshToken_ok marked
    obtain ⟨u, rfl, hu⟩ := issues.exists_refreshToken henabled
    exact ⟨_, u, _, issues.accessTokens, issues.refreshTokens,
      Table.map_amend Row.Kept.key_eq (Store.kept_revokedRefreshToken _) hamend, hu⟩
  | revocation | errand => cases hsource

end Effect

/-! ## Runs -/

/-- Starts of chains are counted by the issues that start them. -/
theorem Event.length_originals {log : List Event}
    (hissued : ∀ e ∈ log, e.refreshToken.isSome = e.source.isSome) :
    (log.filterMap Event.original).length =
      log.countP Event.isImplicitGrant + log.countP Event.isExchange := by
  induction log with
  | nil => rfl
  | cons e log ih =>
    have hlog := ih fun e he => hissued e (List.mem_cons_of_mem _ he)
    have he := hissued e List.mem_cons_self
    rw [List.filterMap_cons, List.countP_cons, List.countP_cons]
    rw [original, isImplicitGrant, isExchange]
    cases hsource : e.source with
    | none => simpa using hlog
    | some source =>
      rw [hsource, Option.isSome_some, Option.isSome_iff_exists] at he
      obtain ⟨text, htext⟩ := he
      cases source <;> simp [htext, hlog] <;> omega

namespace Traffic

variable {auth : Authority}

/-- Refresh tokens form chains. -/
structure Chained (auth : Authority) (w : Traffic) : Prop where
  /-- A refresh token is redeemed at most once, -/
  once : ∀ text, w.log.countP (Event.rotates text) ≤ 1
  /-- and it is revoked if and only if it was. -/
  revoked_iff : ∀ u ∈ w.store.refreshTokens,
    u.revokedAt.isSome = true ↔ w.log.countP (Event.rotates u.token) = 1
  /-- Whatever is redeemed next adds one access token and one refresh token. -/
  adds_pair : ∀ move e source, (step auth w move).log = e :: w.log → e.source = some source →
    ∃ t u olds, (step auth w move).store.accessTokens = w.store.accessTokens ++ [t] ∧
      (step auth w move).store.refreshTokens = olds ++ [u] ∧
      olds.map (·.token) = w.store.refreshTokens.map (·.token) ∧ u.accessTokenId = t.id
  /-- What is usable is as much as was ever started, -/
  balanced : w.store.refreshTokens.countP (·.revokedAt.isNone) =
    w.log.countP Event.isImplicitGrant + w.log.countP Event.isExchange
  /-- and every chain that was started has one usable end. -/
  one_end : ∀ e ∈ w.log, (e.isImplicitGrant || e.isExchange) = true →
    ∃ text, e.refreshToken = some text ∧
      ∃! u, u ∈ w.store.refreshTokens ∧ u.revokedAt = none ∧ origin w.log u.token = text

/-- The usable refresh tokens are the ends of the chains that the log has started. -/
theorem perm_origins (henabled : auth.refreshEnabled = true) (moves : List Move) :
    ((after auth moves).store.usable.map (origin (after auth moves).log)).Perm
      ((after auth moves).log.filterMap Event.original) :=
  after_effects (P := fun s log => (s.usable.map (origin log)).Perm (log.filterMap Event.original))
    (.refl _) (fun hs he hP => he.perm_origins henabled (hs.sound Store.sound_empty) hP) moves

/-- No chain is started twice. -/
theorem nodup_originals (auth : Authority) (moves : List Move) :
    ((after auth moves).log.filterMap Event.original).Nodup := by
  have hanswered : ((after auth moves).log.filterMap Event.refreshToken).Nodup := by
    rw [← List.nodup_reverse, ← refreshTokens_answered]
    exact (sound_after auth moves).store.refreshTokens.distinct
  have horiginal : ∀ {e : Event} {text}, e.original = some text → e.refreshToken = some text := by
    intro e text h
    rw [Event.original] at h
    split at h
    · exact h
    · cases h
  refine List.pairwise_filterMap.2 ((List.pairwise_filterMap.1 hanswered).imp ?_)
  intro e e' hne text htext text' htext'
  exact hne text (horiginal htext) text' (horiginal htext')

/-- **One usable end a chain.** -/
theorem existsUnique_end (henabled : auth.refreshEnabled = true) (moves : List Move) {text : String}
    (htext : text ∈ (after auth moves).log.filterMap Event.original) :
    ∃! u, u ∈ (after auth moves).store.refreshTokens ∧ u.revokedAt = none ∧
      origin (after auth moves).log u.token = text := by
  have hperm := perm_origins henabled moves
  have hinj := List.inj_on_of_nodup_map (hperm.nodup_iff.2 (nodup_originals auth moves))
  obtain ⟨last, hlast, horigin⟩ := List.mem_map.1 (hperm.mem_iff.2 htext)
  obtain ⟨u, hu, husable, rfl⟩ := Table.mem_usable_iff.1 hlast
  refine ⟨u, ⟨hu, husable, horigin⟩, ?_⟩
  rintro u' ⟨hu', husable', horigin'⟩
  have hlast' := Table.mem_usable_iff.2 ⟨u', hu', husable', rfl⟩
  have hkey : Row.key u' = Row.key u := hinj hlast' hlast (horigin'.trans horigin.symm)
  exact (sound_after auth moves).store.refreshTokens.eq_of_key_eq hu' hu hkey

theorem countP_usable (henabled : auth.refreshEnabled = true) (moves : List Move) :
    (after auth moves).store.refreshTokens.countP (·.revokedAt.isNone) =
      (after auth moves).log.countP Event.isImplicitGrant +
        (after auth moves).log.countP Event.isExchange := by
  have hlength := (perm_origins henabled moves).length_eq
  rw [List.length_map, Store.usable, Table.usable, List.length_map,
    ← List.countP_eq_length_filter] at hlength
  refine hlength.trans (Event.length_originals fun e he => ?_)
  obtain ⟨s, s', -, heffect⟩ := exists_effect_of_mem_log he
  exact heffect.isSome_refreshToken henabled

/-- **Refresh tokens form chains, never trees**, whatever the requests and their order, and whatever
fails. -/
theorem refresh_tokens_chained (henabled : auth.refreshEnabled = true) (moves : List Move) :
    Chained auth (after auth moves) where
  once text := by
    rw [rotations_eq_spent]
    exact (sound_after auth moves).store.refreshTokens.countP_isSpent_le_one
  revoked_iff u hu := by
    rw [rotations_eq_spent]
    exact (sound_after auth moves).store.refreshTokens.isSome_revokedAt_iff hu
  adds_pair move e source hlog hsource := by
    rcases step_effect (sound_after auth moves) move with ⟨-, hsame⟩ | ⟨e', hlog', heffect⟩
    · exact absurd (hlog.symm.trans hsame) (List.cons_ne_self e _)
    · obtain ⟨rfl, -⟩ := List.cons.inj (hlog'.symm.trans hlog)
      exact heffect.adds_pair henabled hsource
  balanced := countP_usable henabled moves
  one_end e he hstarts := by
    obtain ⟨s, s', -, heffect⟩ := exists_effect_of_mem_log he
    have hissued := heffect.isSome_refreshToken henabled
    rw [Event.isSome_source hstarts, Option.isSome_iff_exists] at hissued
    obtain ⟨text, htext⟩ := hissued
    have horiginal : e.original = some text := by rw [Event.original, if_pos hstarts, htext]
    exact ⟨text, htext, existsUnique_end henabled moves (List.mem_filterMap.2 ⟨e, he, horiginal⟩)⟩

/-- Two requests rotate one refresh token, and one of them does. -/
theorem refresh_tokens_chained_race :
    Race.authority.refreshEnabled = true ∧
      Chained Race.authority (after Race.authority Race.moves) ∧
      (after Race.authority Race.moves).log.countP (Event.rotates "refresh2") = 1 ∧
      (after Race.authority Race.moves).store.usable = ["refresh4"] :=
  ⟨rfl, refresh_tokens_chained rfl Race.moves, by decide +kernel, by decide +kernel⟩

end Traffic

end OAuthGateway

import OAuthGateway.Proofs.Store.Ledger

/-!
# Proofs/Store/Revocation — a row is revoked once, by the first revocation that lasts

A revocation names a row by the key of its table: an application by its id, the credentials by their
texts (`Revocable`).  It compares and swaps: it is carried out where the row is there and unrevoked
(`Revocable.exists_apply_revoke`), and refused as `notFound` everywhere else
(`Revocable.apply_revoke_eq_notFound`).  No other statement revokes the row
(`Revocable.revokedAt_apply_of_ne`), so when a row has been revoked can be read off the ledger of a
session (`Revocable.revokedAt_made_iff`), and so can the verdict on the next revocation of it
(`Session.verdict_eq_ok_iff`).
-/

namespace OAuthGateway

open Time

/-! ## One table

A revocation by a name is told by what has been done to the table under that name before. -/

namespace Table

variable {α κ : Type} [Row α] [BEq κ] {name : α → κ} {k k' : κ} {rows rows' : List α} {f : α → α}
  {p : α → Bool} {m : Instant}

/-- When the row of a name was revoked, if it was; the error where no row has the name. -/
def revokedAt (name : α → κ) (k : κ) (rows : List α) : Except StoreError (Option Instant) :=
  (Store.found (rows.find? fun a => name a == k)).map Row.revokedAt

theorem revokedAt_eq_none_iff :
    revokedAt name k rows = .ok none ↔
      ∃ a, rows.find? (fun b => name b == k) = some a ∧ Row.revokedAt a = none := by
  rw [revokedAt]
  cases rows.find? fun b => name b == k with
  | none => exact ⟨nofun, nofun⟩
  | some a => simp [Store.found, Except.map]

/-- A row that is added unrevoked revokes none. -/
theorem revokedAt_append {a : α} (ha : Row.revokedAt a = none) :
    revokedAt name k (rows ++ [a]) = revokedAt name k rows ∨
      revokedAt name k rows = .error .notFound ∧ revokedAt name k (rows ++ [a]) = .ok none := by
  rw [revokedAt, revokedAt, List.find?_append]
  cases rows.find? fun b => name b == k with
  | some b => exact .inl rfl
  | none =>
    rw [Option.none_or, List.find?_singleton]
    split
    · exact .inr ⟨rfl, congrArg Except.ok ha⟩
    · exact .inl rfl

section Amend

omit [Row α] in
/-- Rows that keep their names are found again, amended. -/
theorem find?_amend (hamend : Store.amend p f rows = .ok rows')
    (hname : ∀ a, name (f a) = name a) :
    rows'.find? (fun a => name a == k) =
      (rows.find? fun a => name a == k).map fun a => if p a then f a else a := by
  obtain ⟨-, rfl⟩ := amend_eq_ok_iff.1 hamend
  rw [List.find?_map]
  congr 2
  funext a
  change (name (if p a then f a else a) == k) = (name a == k)
  split
  · rw [hname]
  · rfl

/-- Amending rows leaves a revocation alone where it leaves the row of the name, or its revocation.
-/
theorem revokedAt_amend (hamend : Store.amend p f rows = .ok rows')
    (hname : ∀ a, name (f a) = name a)
    (h : ∀ a, rows.find? (fun a => name a == k) = some a → p a = true →
      Row.revokedAt (f a) = Row.revokedAt a) :
    revokedAt name k rows' = revokedAt name k rows := by
  rw [revokedAt, revokedAt, find?_amend hamend hname]
  cases hfind : rows.find? fun a => name a == k with
  | none => rfl
  | some a =>
    rw [Option.map_some]
    split <;> rename_i hp
    · exact congrArg Except.ok (h a hfind hp)
    · rfl

variable [LawfulBEq κ]

/-- Revoking by one name leaves the rows of the others alone. -/
theorem revokedAt_amend_of_ne
    (hamend : Store.amend (fun a => name a == k && (Row.revokedAt a).isNone) f rows = .ok rows')
    (hname : ∀ a, name (f a) = name a) (hne : k' ≠ k) :
    revokedAt name k' rows' = revokedAt name k' rows := by
  refine revokedAt_amend hamend hname fun a ha hfits => ?_
  have hk' : name a = k' := by simpa using List.find?_some ha
  rw [Bool.and_eq_true, beq_iff_eq] at hfits
  exact absurd (hk'.symm.trans hfits.1) hne

variable (hfind : ∀ {a}, rows.find? (fun b => name b == k) = some a ↔ a ∈ rows ∧ name a = k)

include hfind

/-- **A row that is there and unrevoked is revoked by its name**. -/
theorem exists_amend_of_unrevoked (hname : ∀ a, name (f a) = name a)
    (hrevoked : ∀ a, Row.revokedAt (f a) = some m) (h : revokedAt name k rows = .ok none) :
    ∃ rows', Store.amend (fun a => name a == k && (Row.revokedAt a).isNone) f rows = .ok rows' ∧
      revokedAt name k rows' = .ok (some m) := by
  obtain ⟨a, ha, hnone⟩ := revokedAt_eq_none_iff.1 h
  obtain ⟨hmem, hk⟩ := hfind.1 ha
  have hfits : (name a == k && (Row.revokedAt a).isNone) = true := by
    rw [hk, beq_self_eq_true, hnone]
    rfl
  obtain ⟨rows', hamend⟩ : ∃ rows', Store.amend
      (fun a => name a == k && (Row.revokedAt a).isNone) f rows = .ok rows' :=
    ⟨_, amend_eq_ok_iff.2 ⟨List.any_eq_true.2 ⟨a, hmem, hfits⟩, rfl⟩⟩
  refine ⟨rows', hamend, ?_⟩
  rw [revokedAt, find?_amend hamend hname, ha, Option.map_some, if_pos hfits]
  exact congrArg Except.ok (hrevoked a)

/-- **Where there is no such row, or it is revoked, none is found** to revoke. -/
theorem amend_eq_notFound (h : revokedAt name k rows ≠ .ok none) :
    Store.amend (fun a => name a == k && (Row.revokedAt a).isNone) f rows = .error .notFound := by
  refine amend_eq_error_iff.2 ⟨List.any_eq_false.2 fun a ha hfits => ?_, rfl⟩
  rw [Bool.and_eq_true, beq_iff_eq, Option.isNone_iff_eq_none] at hfits
  exact h (revokedAt_eq_none_iff.2 ⟨a, hfind.2 ⟨ha, hfits.1⟩, hfits.2⟩)

end Amend

end Table

/-! ## Rows of the four tables -/

/-- A row that can be revoked, named by the key of its table. -/
inductive Revocable where
  | application (id : Int)
  | grant (code : String)
  | accessToken (token : String)
  | refreshToken (token : String)

namespace Revocable

variable {s s' : Store} {moment : Instant} {statement : Statement}

/-- The statement that revokes the row. -/
def revoke (moment : Instant) : Revocable → Statement
  | application id => .revokeApplication id moment
  | grant code => .revokeGrant code moment
  | accessToken token => .revokeAccessToken token moment
  | refreshToken token => .revokeRefreshToken token moment

/-- When the row was revoked, if it was; the error where it is not found. -/
def revokedAt (s : Store) : Revocable → Except StoreError (Option Instant)
  | application id => (s.application id).map (·.revokedAt)
  | grant code => (s.grantOfCode code).map (·.revokedAt)
  | accessToken token => (s.accessTokenOfText token).map (·.revokedAt)
  | refreshToken token => (s.refreshTokenOfText token).map (·.revokedAt)

/-- The row is there: a lookup by its key finds it. -/
def IsIn (r : Revocable) (s : Store) : Prop := ∃ time, r.revokedAt s = .ok time

theorem map_snd_amend {α : Type} (x : Except StoreError (List α)) (put : List α → Store) :
    ((do let rows ← x; return ((), put rows)) : Except StoreError (Unit × Store)).map (·.2) =
      x.map put := by
  cases x <;> rfl

/-- What rows a table is amended to is what the rows of the store are changed to. -/
theorem exists_map_snd_amend {α : Type} {x : Except StoreError (List α)} {put : List α → Store}
    {P : Store → Prop} (h : ∃ rows, x = .ok rows ∧ P (put rows)) :
    ∃ s', ((do let rows ← x; return ((), put rows)) : Except StoreError (Unit × Store)).map (·.2) =
      .ok s' ∧ P s' := by
  obtain ⟨rows, hx, hP⟩ := h
  exact ⟨put rows, by rw [map_snd_amend, hx]; rfl, hP⟩

/-- **A row that is there and unrevoked is revoked.** -/
theorem exists_apply_revoke (hs : s.Sound) (r : Revocable) (h : r.revokedAt s = .ok none)
    (moment : Instant) :
    ∃ s', s.apply (r.revoke moment) = .ok s' ∧ r.revokedAt s' = .ok (some moment) := by
  cases r with
  | application id =>
    exact exists_map_snd_amend (Table.exists_amend_of_unrevoked hs.applications.find?_id_iff
      (fun _ => rfl) (fun _ => rfl) h)
  | grant code =>
    exact exists_map_snd_amend (Table.exists_amend_of_unrevoked hs.grants.find?_key_iff
      (fun _ => rfl) (fun _ => rfl) h)
  | accessToken token =>
    exact exists_map_snd_amend (Table.exists_amend_of_unrevoked hs.accessTokens.find?_key_iff
      (fun _ => rfl) (fun _ => rfl) h)
  | refreshToken token =>
    exact exists_map_snd_amend (Table.exists_amend_of_unrevoked hs.refreshTokens.find?_key_iff
      (fun _ => rfl) (fun _ => rfl) h)

/-- **A row that is not there, or has been revoked, is not found** to be revoked. -/
theorem apply_revoke_eq_notFound (hs : s.Sound) (r : Revocable) (h : r.revokedAt s ≠ .ok none)
    (moment : Instant) : s.apply (r.revoke moment) = .error .notFound := by
  cases r with
  | application id =>
    exact (map_snd_amend _ _).trans (congrArg (Except.map _)
      (Table.amend_eq_notFound hs.applications.find?_id_iff h))
  | grant code =>
    exact (map_snd_amend _ _).trans (congrArg (Except.map _)
      (Table.amend_eq_notFound hs.grants.find?_key_iff h))
  | accessToken token =>
    exact (map_snd_amend _ _).trans (congrArg (Except.map _)
      (Table.amend_eq_notFound hs.accessTokens.find?_key_iff h))
  | refreshToken token =>
    exact (map_snd_amend _ _).trans (congrArg (Except.map _)
      (Table.amend_eq_notFound hs.refreshTokens.find?_key_iff h))

/-- Revoking one row leaves the others alone. -/
theorem revokedAt_apply_revoke {r r' : Revocable} (hne : r ≠ r')
    (h : s.apply (r'.revoke moment) = .ok s') : r.revokedAt s' = r.revokedAt s := by
  cases r' with
  | application id' =>
    obtain ⟨_, h⟩ := Store.exists_of_map_snd h
    obtain ⟨rows, hamend, rfl⟩ := Store.revokeApplication_ok h
    cases r with
    | application id =>
      exact Table.revokedAt_amend_of_ne hamend (fun _ => rfl) fun heq => hne (congrArg _ heq)
    | _ => rfl
  | grant code' =>
    obtain ⟨_, h⟩ := Store.exists_of_map_snd h
    obtain ⟨rows, hamend, rfl⟩ := Store.revokeGrant_ok h
    cases r with
    | grant code =>
      exact Table.revokedAt_amend_of_ne hamend (fun _ => rfl) fun heq => hne (congrArg _ heq)
    | _ => rfl
  | accessToken token' =>
    obtain ⟨_, h⟩ := Store.exists_of_map_snd h
    obtain ⟨rows, hamend, rfl⟩ := Store.revokeAccessToken_ok h
    cases r with
    | accessToken token =>
      exact Table.revokedAt_amend_of_ne hamend (fun _ => rfl) fun heq => hne (congrArg _ heq)
    | _ => rfl
  | refreshToken token' =>
    obtain ⟨_, h⟩ := Store.exists_of_map_snd h
    obtain ⟨rows, hamend, rfl⟩ := Store.revokeRefreshToken_ok h
    cases r with
    | refreshToken token =>
      exact Table.revokedAt_amend_of_ne hamend (fun _ => rfl) fun heq => hne (congrArg _ heq)
    | _ => rfl

/-- **Only its own revocation revokes a row**: any other statement leaves it as it is, or adds it,
unrevoked. -/
theorem revokedAt_apply_of_ne {r : Revocable} (h : s.apply statement = .ok s')
    (hne : ∀ moment, statement ≠ r.revoke moment) :
    r.revokedAt s' = r.revokedAt s ∨
      r.revokedAt s = .error .notFound ∧ r.revokedAt s' = .ok none := by
  have hothers (r' : Revocable) {moment : Instant} (hrevoke : statement = r'.revoke moment) :
      r.revokedAt s' = r.revokedAt s :=
    revokedAt_apply_revoke (fun heq => hne moment (heq ▸ hrevoke)) (hrevoke ▸ h)
  cases statement with
  | revokeApplication id moment => exact .inl (hothers (.application id) rfl)
  | revokeGrant code moment => exact .inl (hothers (.grant code) rfl)
  | revokeAccessToken token moment => exact .inl (hothers (.accessToken token) rfl)
  | revokeRefreshToken token moment => exact .inl (hothers (.refreshToken token) rfl)
  | addApplication draft =>
    obtain ⟨_, h⟩ := Store.exists_of_map_snd h
    obtain ⟨-, -, rfl⟩ := Store.addApplication_ok h
    cases r with
    | application => exact Table.revokedAt_append rfl
    | _ => exact .inl rfl
  | updateApplication id changes =>
    obtain ⟨_, h⟩ := Store.exists_of_map_snd h
    obtain ⟨rows, hamend, rfl⟩ := Store.updateApplication_ok h
    cases r with
    | application => exact .inl (Table.revokedAt_amend hamend (fun _ => rfl) fun _ _ _ => rfl)
    | _ => exact .inl rfl
  | addGrant draft =>
    obtain ⟨_, h⟩ := Store.exists_of_map_snd h
    obtain ⟨-, -, rfl⟩ := Store.addGrant_ok h
    cases r with
    | grant => exact Table.revokedAt_append rfl
    | _ => exact .inl rfl
  | addAccessToken draft =>
    obtain ⟨_, h⟩ := Store.exists_of_map_snd h
    obtain ⟨-, -, rfl⟩ := Store.addAccessToken_ok h
    cases r with
    | accessToken => exact Table.revokedAt_append rfl
    | _ => exact .inl rfl
  | addRefreshToken draft =>
    obtain ⟨_, h⟩ := Store.exists_of_map_snd h
    obtain ⟨-, -, rfl⟩ := Store.addRefreshToken_ok h
    cases r with
    | refreshToken => exact Table.revokedAt_append rfl
    | _ => exact .inl rfl

/-- A revocation that is carried out has found the row unrevoked, and revokes it. -/
theorem revokedAt_of_apply_revoke (hs : s.Sound) {r : Revocable}
    (h : s.apply (r.revoke moment) = .ok s') :
    r.revokedAt s = .ok none ∧ r.revokedAt s' = .ok (some moment) := by
  by_cases hlive : r.revokedAt s = .ok none
  · obtain ⟨s₁, happly, hrevoked⟩ := r.exists_apply_revoke hs hlive moment
    cases h.symm.trans happly
    exact ⟨hlive, hrevoked⟩
  · cases h.symm.trans (r.apply_revoke_eq_notFound hs hlive moment)

/-! ### Any number of statements -/

theorem revoke_injective {r : Revocable} {moment' : Instant}
    (h : r.revoke moment = r.revoke moment') : moment = moment' := by
  cases r <;> cases h <;> rfl

theorem revokedAt_empty (r : Revocable) : r.revokedAt .empty = .error .notFound := by
  cases r <;> rfl

variable {statements : List Statement}

/-- **A row has been revoked by its revocation among the statements that made it**, and at the time
that this one gave. -/
theorem revokedAt_made_iff (h : Store.made statements = .ok s) (r : Revocable) (moment : Instant) :
    r.revokedAt s = .ok (some moment) ↔ r.revoke moment ∈ statements := by
  induction statements using List.reverseRecOn generalizing s with
  | nil =>
    cases h
    rw [revokedAt_empty]
    exact ⟨nofun, nofun⟩
  | append_singleton statements statement ih =>
    rw [Store.made_append_singleton] at h
    obtain ⟨s₀, hmade, happly⟩ := exists_of_bind_eq_ok h
    rw [List.mem_append, List.mem_singleton, ← ih hmade]
    by_cases hrevoke : ∃ moment', statement = r.revoke moment'
    · -- the row was unrevoked until now, so this is its first revocation
      obtain ⟨moment', rfl⟩ := hrevoke
      obtain ⟨hlive, hrevoked⟩ :=
        revokedAt_of_apply_revoke ((Store.leads_of_made hmade).sound Store.sound_empty) happly
      rw [hlive, hrevoked]
      constructor
      · intro heq
        cases heq
        exact .inr rfl
      · rintro (heq | heq)
        · cases heq
        · rw [revoke_injective heq]
    · have hne : ∀ moment', statement ≠ r.revoke moment' := not_exists.1 hrevoke
      rw [or_iff_left (hne moment).symm]
      rcases revokedAt_apply_of_ne happly hne with hsame | ⟨hmissing, hadded⟩
      · rw [hsame]
      · rw [hmissing, hadded]
        exact ⟨nofun, nofun⟩

/-- A row is unrevoked if it is there and no statement among those that made it has revoked it. -/
theorem unrevoked_iff (h : Store.made statements = .ok s) (r : Revocable) :
    r.revokedAt s = .ok none ↔ r.IsIn s ∧ ∀ moment, r.revoke moment ∉ statements := by
  constructor
  · intro hlive
    refine ⟨⟨none, hlive⟩, fun moment hrevoke => ?_⟩
    rw [← r.revokedAt_made_iff h, hlive] at hrevoke
    cases hrevoke
  · rintro ⟨⟨_ | moment, hrevoked⟩, hnever⟩
    · exact hrevoked
    · exact absurd ((r.revokedAt_made_iff h moment).1 hrevoked) (hnever moment)

/-- A row that is there stays there. -/
theorem IsIn.apply {r : Revocable} (hr : r.IsIn s) (hs : s.Sound)
    (h : s.apply statement = .ok s') : r.IsIn s' := by
  by_cases hrevoke : ∃ moment, statement = r.revoke moment
  · obtain ⟨moment, rfl⟩ := hrevoke
    exact ⟨_, (revokedAt_of_apply_revoke hs h).2⟩
  · obtain ⟨time, htime⟩ := hr
    rcases revokedAt_apply_of_ne h (not_exists.1 hrevoke) with hsame | ⟨-, hadded⟩
    · exact ⟨time, hsame.trans htime⟩
    · exact ⟨none, hadded⟩

theorem IsIn.made_append {r : Revocable} (hr : r.IsIn s) (hmade : Store.made statements = .ok s)
    {later : List Statement} (h : Store.made (statements ++ later) = .ok s') : r.IsIn s' := by
  induction later using List.reverseRecOn generalizing s' with
  | nil =>
    rw [List.append_nil, hmade] at h
    cases h
    exact hr
  | append_singleton later statement ih =>
    rw [← List.append_assoc, Store.made_append_singleton] at h
    obtain ⟨s₀, hmade₀, happly⟩ := exists_of_bind_eq_ok h
    exact (ih hmade₀).apply ((Store.leads_of_made hmade₀).sound Store.sound_empty) happly

end Revocable

/-! ## Sessions -/

namespace Session

variable (σ : Session) (r : Revocable) (moment : Instant)

/-- The failure that awaits the call of a statement, if one does. -/
def failure (statement : Statement) : Option StoreError := σ.faults σ.database.calls statement.call

/-- The answer to a revocation of the row that comes next. -/
def verdict : Except StoreError Unit := σ.answer (.statement (r.revoke moment))

theorem sound_visible : σ.database.visible.Sound :=
  (Store.leads_of_made σ.tells.visible).sound Store.sound_empty

/-- A revocation is carried out where its call does not fail and the row is unrevoked. -/
theorem exists_attempt_revoke (hcall : σ.failure (r.revoke moment) = none)
    (hlive : r.revokedAt σ.database.visible = .ok none) :
    ∃ s, σ.database.attempt σ.faults (r.revoke moment) = .ok s := by
  obtain ⟨s, happly, -⟩ := r.exists_apply_revoke σ.sound_visible hlive moment
  rw [failure] at hcall
  exact ⟨s, by rw [Database.attempt, hcall, happly]⟩

/-- Elsewhere it ends with the failure of the call, or finds no row. -/
theorem attempt_revoke_eq_error (h : σ.failure (r.revoke moment) = none →
    r.revokedAt σ.database.visible ≠ .ok none) :
    σ.database.attempt σ.faults (r.revoke moment) =
      .error ((σ.failure (r.revoke moment)).getD .notFound) := by
  rw [Database.attempt]
  rw [failure] at h ⊢
  cases hcall : σ.faults σ.database.calls (r.revoke moment).call with
  | some e => rfl
  | none => exact r.apply_revoke_eq_notFound σ.sound_visible (h hcall) moment

/-- **A revocation succeeds** where its call does not fail, and the row is there and the ledger
shows no revocation of it. -/
theorem verdict_eq_ok_iff :
    σ.verdict r moment = .ok () ↔
      σ.failure (r.revoke moment) = none ∧ r.IsIn σ.database.visible ∧
        ∀ earlier, r.revoke earlier ∉ σ.ledger.visible := by
  rw [← r.unrevoked_iff σ.tells.visible, verdict, answer, Database.answer_statement]
  by_cases h : σ.failure (r.revoke moment) = none ∧ r.revokedAt σ.database.visible = .ok none
  · obtain ⟨s, hattempt⟩ := σ.exists_attempt_revoke r moment h.1 h.2
    rw [hattempt]
    exact iff_of_true rfl h
  · rw [σ.attempt_revoke_eq_error r moment (not_and.1 h)]
    exact iff_of_false nofun h

/-- **A revocation that does not succeed** has not found the row, unless its call has failed, and
changes nothing. -/
theorem verdict_of_ne_ok (h : σ.verdict r moment ≠ .ok ()) :
    σ.verdict r moment = .error ((σ.failure (r.revoke moment)).getD .notFound) ∧
      (σ.continued [.statement (r.revoke moment)]).database =
        { σ.database with calls := σ.database.calls + 1 } := by
  rw [Ne, verdict_eq_ok_iff, ← r.unrevoked_iff σ.tells.visible] at h
  have herror := σ.attempt_revoke_eq_error r moment (not_and.1 h)
  rw [verdict, answer, Database.answer_statement, database_continued, Database.after,
    List.foldl_cons, List.foldl_nil, Database.afterCommand, Statement.perform_procedure, herror]
  exact ⟨rfl, rfl⟩

/-- **A revocation that lasts** gives the time of revocation, now and ever after. -/
theorem revokedAt_of_lasting (h : r.revoke moment ∈ σ.ledger.lasting) (later : List Command) :
    r.revokedAt (σ.continued later).database.committed = .ok (some moment) ∧
      r.revokedAt (σ.continued later).database.visible = .ok (some moment) :=
  ⟨(r.revokedAt_made_iff (σ.continued later).tells.committed moment).2
      ((σ.lasting_isPrefix_continued later).subset h),
    (r.revokedAt_made_iff (σ.continued later).tells.visible moment).2
      ((σ.lasting_isPrefix_visible later).subset h)⟩

/-- A row that is committed is seen ever after. -/
theorem isIn_visible_continued (h : r.IsIn σ.database.committed) (later : List Command) :
    r.IsIn (σ.continued later).database.visible := by
  obtain ⟨rest, hrest⟩ := σ.lasting_isPrefix_visible later
  have hvisible := (σ.continued later).tells.visible
  rw [← hrest] at hvisible
  exact h.made_append σ.tells.committed hvisible

/-- **What was revoked in a transaction that is rolled back can be revoked again**, if it was there
before the transaction, or is made anew. -/
theorem verdict_of_undone {inner : List Command} (hbegin : σ.answer .begin = .ok ())
    (hinner : Ledger.Unclosed ((σ.continued [.begin]).log inner))
    (hrevoked : (.statement (r.revoke moment), .ok ()) ∈ (σ.continued [.begin]).log inner)
    {later : List Command}
    (hr : r.IsIn σ.database.committed ∨
      r.IsIn ((σ.undone inner).continued later).database.visible)
    (hlater : ∀ other, (.statement (r.revoke other), .ok ()) ∉ (σ.undone inner).log later)
    {again : Instant} (hcall : ((σ.undone inner).continued later).failure (r.revoke again) = none) :
    ((σ.undone inner).continued later).verdict r again = .ok () := by
  -- when the revocation succeeded, nothing lasting had revoked the row
  obtain ⟨before, -, -, hanswer⟩ := Database.exists_of_mem_log _ _ hrevoked
  have hsuccess : (σ.continued ([.begin] ++ before)).verdict r moment = .ok () := by
    rw [verdict, answer, ← continued_continued, database_continued]
    exact hanswer
  have hlasting : ∀ other, r.revoke other ∉ σ.ledger.lasting := fun other hother =>
    ((verdict_eq_ok_iff _ r moment).1 hsuccess).2.2 other
      ((σ.lasting_isPrefix_visible _).subset hother)
  obtain ⟨hledger, hcommitted, -⟩ := σ.undone_eq hbegin hinner
  have hvisible : r.IsIn ((σ.undone inner).continued later).database.visible :=
    hr.elim (fun hr => (σ.undone inner).isIn_visible_continued r (hcommitted ▸ hr) later) id
  refine (verdict_eq_ok_iff _ r again).2 ⟨hcall, hvisible, fun other hother => ?_⟩
  rw [ledger_continued, hledger] at hother
  rcases Ledger.mem_visible_foldl _ _ hother with hother | hother
  · rw [Ledger.visible, Option.getD_none, List.append_nil] at hother
    exact hlasting other hother
  · exact hlater other hother

/-- **Revoking is a compare-and-swap**, for every row that can be revoked and after any commands.  A
revocation succeeds exactly where its call does not fail, the row is there, and the ledger shows
none before it: none that is lasting, and none in the transaction that is open.  Any other is
answered that the row was not found, unless its call fails, and changes nothing.  Once a revocation
is lasting, the row is revoked at its time for good.  And a transaction that is rolled back leaves
no trace: what was revoked in it is revoked by the next revocation that comes, where the row was
there before or is made anew. -/
theorem revocation_compares_and_swaps :
    (∀ moment, σ.verdict r moment = .ok () ↔
      σ.failure (r.revoke moment) = none ∧ r.IsIn σ.database.visible ∧
        ∀ earlier, r.revoke earlier ∉ σ.ledger.visible) ∧
    (∀ moment, σ.verdict r moment ≠ .ok () →
      σ.verdict r moment = .error ((σ.failure (r.revoke moment)).getD .notFound) ∧
        (σ.continued [.statement (r.revoke moment)]).database =
          { σ.database with calls := σ.database.calls + 1 }) ∧
    (∀ moment, r.revoke moment ∈ σ.ledger.lasting → ∀ later,
      r.revokedAt (σ.continued later).database.committed = .ok (some moment) ∧
        r.revokedAt (σ.continued later).database.visible = .ok (some moment)) ∧
    ∀ inner, σ.answer .begin = .ok () → Ledger.Unclosed ((σ.continued [.begin]).log inner) →
      ((σ.undone inner).ledger = ⟨σ.ledger.lasting, none⟩ ∧
        (σ.undone inner).database.committed = σ.database.committed ∧
        (σ.undone inner).database.pending = none) ∧
      ∀ moment, (.statement (r.revoke moment), .ok ()) ∈ (σ.continued [.begin]).log inner →
        ∀ later, (∀ other, (.statement (r.revoke other), .ok ()) ∉ (σ.undone inner).log later) →
        r.IsIn σ.database.committed ∨ r.IsIn ((σ.undone inner).continued later).database.visible →
        ∀ again, ((σ.undone inner).continued later).failure (r.revoke again) = none →
          ((σ.undone inner).continued later).verdict r again = .ok () :=
  ⟨σ.verdict_eq_ok_iff r, σ.verdict_of_ne_ok r, σ.revokedAt_of_lasting r,
    fun _ hbegin hinner => ⟨σ.undone_eq hbegin hinner,
      fun moment hrevoked _ hlater hr _ hcall =>
        σ.verdict_of_undone r moment hbegin hinner hrevoked hr hlater hcall⟩⟩

end Session

/-! ### A dispute over a code

The code is used in a transaction that cannot be committed and is rolled back; then it is used for
good, and once more. -/

namespace Dispute

/-- The first commit fails. -/
def faults : Faults := fun n call => if call = .commit ∧ n = 4 then some .timeout else none

/-- An application and a code of it are registered. -/
def registered : Session :=
  ⟨faults, [
    .statement (.addApplication ⟨none, .publicClient, none, "read", "client", "secret", .epoch⟩),
    .statement (.addGrant ⟨1, "owner", "read", "code", "app:back", .last, .epoch⟩)]⟩

def code : Revocable := .grant "code"

/-- The time at which the code is used for good. -/
def noon : Instant :=
  { Instant.epoch with
    second := 43200, first_le := by decide, le_last := by decide, ends_minute := by decide }

/-- The code is used, which cannot be committed. -/
def lost : List Command := [.statement (code.revoke .epoch), .commit]

/-- Meanwhile the application is revoked. -/
def meanwhile : List Command := [.statement (.revokeApplication 1 .epoch)]

/-- The code is used for good. -/
def settled : Session :=
  ((registered.undone lost).continued meanwhile).continued [.statement (code.revoke noon)]

end Dispute

namespace Session

/-- The use of the code that was rolled back does not count, the next one does for good, and the one
after it finds no code. -/
theorem revocation_compares_and_swaps_dispute :
    ((Dispute.registered.undone Dispute.lost).continued Dispute.meanwhile).verdict
        Dispute.code Dispute.noon = .ok () ∧
    (∀ later, Dispute.code.revokedAt (Dispute.settled.continued later).database.committed =
      .ok (some Dispute.noon)) ∧
    Dispute.settled.verdict Dispute.code .last = .error .notFound := by
  obtain ⟨-, -, -, hundone⟩ := revocation_compares_and_swaps Dispute.registered Dispute.code
  obtain ⟨-, hrefused, hlasting, -⟩ := revocation_compares_and_swaps Dispute.settled Dispute.code
  have hlost : (Dispute.registered.continued [.begin]).log Dispute.lost =
      [(.statement (Dispute.code.revoke .epoch), .ok ()), (.commit, .error .timeout)] := rfl
  have hmeanwhile : (Dispute.registered.undone Dispute.lost).log Dispute.meanwhile =
      [(.statement (.revokeApplication 1 .epoch), .ok ())] := rfl
  have hsettled : Dispute.settled.ledger.lasting = Dispute.registered.ledger.lasting ++
      [.revokeApplication 1 .epoch, Dispute.code.revoke Dispute.noon] := rfl
  refine ⟨?_, fun later => (hlasting Dispute.noon ?_ later).1, ?_⟩
  · refine (hundone Dispute.lost rfl ⟨?_, ?_⟩).2 .epoch ?_ Dispute.meanwhile ?_ (.inl ⟨none, rfl⟩)
      Dispute.noon rfl
    · rw [hlost]
      simp
    · rw [hlost]
      simp
    · rw [hlost]
      exact List.mem_cons_self
    · rw [hmeanwhile]
      intro other hother
      cases List.mem_singleton.1 hother
  · rw [hsettled]
    simp
  · exact (hrefused .last nofun).1.trans rfl

end Session

end OAuthGateway

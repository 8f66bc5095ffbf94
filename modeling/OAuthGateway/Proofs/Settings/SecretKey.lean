import OAuthGateway.Proofs.Gateway.AdminGuard
import OAuthGateway.Proofs.Text.Decimal
import OAuthGateway.Settings.Source

/-!
# Proofs/Settings/SecretKey — which keys of the environment are used as they are given

The value of a variable is guessed before its use is known, and where a text is meant the guess is
written out again.  `Restated v key` says what comes of it: a truth value loses the case of its
letters, an integer its plus sign and the zeros in front, a real number all but the nearest double.
Every value makes a key (`Settings.load_keyVariable`); it is the value itself exactly when
`IsVerbatim` holds, as it does of every text that states none of the three.

The guard compares with the key and never with what was given, so a key that was restated locks out
whoever presents the value of the variable (`Gateway.opensTo_of_key`).
-/

namespace OAuthGateway

open Http Text

/-! ## What comes of a value

A value from the environment is guessed to be a truth value or a number before it is known what it
is for. -/

/-- The word for a truth value. -/
def Text.truthWord (b : Bool) : String := if b then "true" else "false"

/-- The text that comes of the value of a variable where a text is meant. -/
inductive Restated (v : String) : String → Prop
  /-- A truth value in any case is written in small letters. -/
  | truth (b : Bool) (h : lowered v = truthWord b) : Restated v (truthWord b)
  /-- An integer of a word is written without a plus sign and without zeros in front. -/
  | integer (i : Int) (h : signed? v.toList = some i) : Restated v (String.ofList (Text.integer i))
  /-- Any other number is written as the shortest decimal of its double. -/
  | real (r : Real) (hi : signed? v.toList = none) (h : Real.read? v.toList = some r) :
      Restated v (String.ofList r.write)
  /-- A text that states none of these stays. -/
  | text (hb : ∀ b, lowered v ≠ truthWord b) (hi : signed? v.toList = none)
      (hr : Real.read? v.toList = none) : Restated v v

theorem exists_restated (v : String) : ∃ key, Restated v key := by
  by_cases hb : ∀ b, lowered v ≠ truthWord b
  · cases hi : signed? v.toList with
    | some i => exact ⟨_, .integer i hi⟩
    | none =>
      cases hr : Real.read? v.toList with
      | some r => exact ⟨_, .real r hi hr⟩
      | none => exact ⟨_, .text hb hi hr⟩
  · obtain ⟨b, hb⟩ := not_forall_not.1 hb
    exact ⟨_, .truth b hb⟩

/-- The texts that stay what they are where a text is meant. -/
inductive IsVerbatim (v : String) : Prop
  /-- The words `true` and `false` in small letters. -/
  | truth (b : Bool) (h : v = truthWord b)
  /-- An integer of a word as it is written. -/
  | integer (i : Int) (hfits : fitsWord i = true) (h : v = String.ofList (Text.integer i))
  /-- A real number that is no integer of a word, as it is written. -/
  | real (r : Real) (hi : signed? v.toList = none) (hr : Real.read? v.toList = some r)
      (h : v = String.ofList r.write)
  /-- A text that states neither a truth value nor a number. -/
  | text (hb : ∀ b, lowered v ≠ truthWord b) (hi : signed? v.toList = none)
      (hr : Real.read? v.toList = none)

namespace Datum

/-- A guess is never a table, so it replaces what it is laid over. -/
theorem laidOver_ofVariable (v : String) (under : Option Datum) :
    laidOver under (ofVariable v) = ofVariable v := by
  rw [ofVariable]
  split
  · rfl
  · split
    · rfl
    · split
      · rfl
      · split <;> rfl

theorem ofVariable_of_not_truth {v : String} (hb : ∀ b, lowered v ≠ truthWord b) :
    ofVariable v = match signed? v.toList with
      | some i => .integer i
      | none => match Real.read? v.toList with
        | some r => .real r
        | none => .text v := by
  have htrue : lowered v ≠ "true" := hb true
  have hfalse : lowered v ≠ "false" := hb false
  rw [ofVariable, if_neg htrue, if_neg hfalse]
  cases signed? v.toList <;> rfl

end Datum

/-! ## Values that state no number -/

namespace Text

theorem isAsciiLetter_of_lower {c : Char} (h : isAsciiLetter (lower c) = true) :
    isAsciiLetter c = true := by
  rw [lower] at h
  split at h <;> rename_i hupper
  · rw [isAsciiLetter, hupper, Bool.or_true]
  · exact h

theorem isDigit_of_letter {c : Char} (h : isAsciiLetter c = true) : isDigit c = false := by
  rw [isAsciiLetter_iff] at h
  rw [Bool.eq_false_iff, ne_eq, isDigit_iff]
  omega

/-- A letter is no mark that a number may have. -/
theorem ne_of_letter {c mark : Char} (h : isAsciiLetter c = true)
    (hmark : isAsciiLetter mark = false) : c ≠ mark := by
  rintro rfl
  rw [h] at hmark
  cases hmark

/-- No integer starts with a letter. -/
theorem signed?_of_letter {c : Char} (h : isAsciiLetter c = true) (cs : List Char) :
    signed? (c :: cs) = none := by
  have hnatural : natural? (c :: cs) = none := by simp [natural?, isDigit_of_letter h]
  have hminus : c ≠ '-' := ne_of_letter h (by decide)
  have hplus : c ≠ '+' := ne_of_letter h (by decide)
  unfold signed?
  split
  · exact absurd (List.cons.inj ‹_›).1 hminus
  · exact absurd (List.cons.inj ‹_›).1 hplus
  · rw [hnatural]
    rfl

theorem fitsWord_of_signed? {cs : List Char} {i : Int} (h : signed? cs = some i) :
    fitsWord i = true := by
  unfold signed? at h
  exact (Option.filter_eq_some_iff.1 h).2

end Text

theorem Text.sameFold_toList_iff {v w : String} :
    sameFold v.toList w.toList = true ↔ lowered v = lowered w := by
  rw [sameFold, beq_iff_eq, lowered, lowered, ← String.toList_inj, String.toList_ofList,
    String.toList_ofList]

section Letter

variable {v : String} {c : Char} {cs : List Char}

/-- Of the texts that start with a letter, only infinity and undefined are real numbers. -/
theorem Real.read?_of_letter (hv : v.toList = c :: cs) (h : isAsciiLetter c = true)
    (hword : ∀ word ∈ ["inf", "infinity", "nan"], lowered v ≠ word) :
    Real.read? v.toList = none := by
  have hminus : c ≠ '-' := ne_of_letter h (by decide)
  have hplus : c ≠ '+' := ne_of_letter h (by decide)
  have hpoint : c ≠ '.' := ne_of_letter h (by decide)
  have hdecimal : Real.decimal? false (c :: cs) = none := by
    simp [Real.decimal?, isDigit_of_letter h, hpoint]
  have hother : ∀ word ∈ ["inf", "infinity", "nan"], sameFold (c :: cs) word.toList = false := by
    intro word hmem
    have hsmall : lowered word = word := by
      revert word
      decide
    rw [Bool.eq_false_iff, ne_eq, ← hv, sameFold_toList_iff, hsmall]
    exact hword word hmem
  have hinf : sameFold (c :: cs) "inf".toList = false := hother _ (by simp)
  have hinfinity : sameFold (c :: cs) "infinity".toList = false := hother _ (by simp)
  have hnan : sameFold (c :: cs) "nan".toList = false := hother _ (by simp)
  rw [hv, Real.read?]
  · simp only [hinf, hinfinity, hnan, hdecimal, Bool.or_self, Bool.false_eq_true, if_false]
  · exact fun _ h => hminus (List.cons.inj h).1
  · exact fun _ h => hplus (List.cons.inj h).1

/-- **A value that starts with a letter stays**, unless it is one of five words in any case. -/
theorem isVerbatim_of_letter (hv : v.toList = c :: cs) (h : isAsciiLetter c = true)
    (hword : ∀ word ∈ ["true", "false", "inf", "infinity", "nan"], lowered v ≠ word) :
    IsVerbatim v := by
  have hread : Real.read? v.toList = none := Real.read?_of_letter hv h fun word hmem =>
    hword word (List.mem_cons_of_mem _ (List.mem_cons_of_mem _ hmem))
  refine .text (fun b => ?_) (hv ▸ signed?_of_letter h cs) hread
  cases b
  · exact hword "false" (by simp)
  · exact hword "true" (by simp)

example : IsVerbatim "secret-key" := isVerbatim_of_letter rfl (by decide) (by decide)

end Letter

/-! ## Which values stay

The text comes back unchanged if the guess is printed as the text was written. -/

section Truth

variable {v : String} {b : Bool}

/-- A truth value starts with a letter. -/
theorem exists_letter_of_truth (h : lowered v = truthWord b) :
    ∃ c cs, v.toList = c :: cs ∧ isAsciiLetter c = true := by
  have hchars : v.toList.map lower = (truthWord b).toList := by
    rw [← h, lowered, String.toList_ofList]
  cases hv : v.toList with
  | nil =>
    rw [hv] at hchars
    cases b <;> cases hchars
  | cons c cs =>
    refine ⟨c, cs, rfl, isAsciiLetter_of_lower ?_⟩
    rw [hv] at hchars
    cases b
    · rw [(List.cons.inj hchars).1]
      rfl
    · rw [(List.cons.inj hchars).1]
      rfl

/-- A truth value is no integer. -/
theorem signed?_of_truth (h : lowered v = truthWord b) : signed? v.toList = none := by
  obtain ⟨c, cs, hv, hc⟩ := exists_letter_of_truth h
  rw [hv, signed?_of_letter hc]

/-- Nor is it a real number. -/
theorem Real.read?_of_truth (h : lowered v = truthWord b) : Real.read? v.toList = none := by
  obtain ⟨c, cs, hv, hc⟩ := exists_letter_of_truth h
  refine Real.read?_of_letter hv hc ?_
  rw [h]
  cases b <;> decide

end Truth

/-- The relation says what is done. -/
theorem Restated.toText?_ofVariable {v key : String} (h : Restated v key) :
    (Datum.ofVariable v).toText? = some key := by
  cases h with
  | truth b hb => cases b <;> simp [Datum.ofVariable, hb, truthWord, Datum.toText?]
  | integer i hi =>
    have hb : ∀ b, lowered v ≠ truthWord b := fun b hb => by simp [signed?_of_truth hb] at hi
    rw [Datum.ofVariable_of_not_truth hb, hi]
    rfl
  | real r hi hr =>
    have hb : ∀ b, lowered v ≠ truthWord b := fun b hb => by simp [Real.read?_of_truth hb] at hr
    rw [Datum.ofVariable_of_not_truth hb, hi, hr]
    rfl
  | text hb hi hr =>
    rw [Datum.ofVariable_of_not_truth hb, hi, hr]
    rfl

theorem IsVerbatim.restated {v : String} (h : IsVerbatim v) : Restated v v := by
  rcases h with ⟨b, rfl⟩ | ⟨i, hfits, rfl⟩ | ⟨r, hi, hr, rfl⟩ | ⟨hb, hi, hr⟩
  · exact .truth b (by cases b <;> decide)
  · exact .integer i (by rw [String.toList_ofList, signed?_integer hfits])
  · exact .real r hi hr
  · exact .text hb hi hr

/-- **A value stays exactly when it is verbatim.** -/
theorem Restated.eq_iff {v key : String} (h : Restated v key) : key = v ↔ IsVerbatim v := by
  constructor
  · rintro rfl
    cases h with
    | truth b hb => exact .truth b rfl
    | integer i hi => exact .integer i (fitsWord_of_signed? hi) rfl
    | real r hi hr => exact .real r hi hr rfl
    | text hb hi hr => exact .text hb hi hr
  · intro hv
    have hkey := h.toText?_ofVariable
    rw [hv.restated.toText?_ofVariable] at hkey
    exact (Option.some.inj hkey).symm

/-! ## Loading the key -/

namespace Settings

/-- The variable that holds the key of the administration. -/
def keyVariable : String := "GATEWAY_ADMIN__API_KEY"

/-- The settings when nothing but a key is configured. -/
def keyed (key : String) : Settings := { standard with admin := ⟨some key⟩ }

theorem entryOfVariable?_keyVariable (v : String) :
    Datum.entryOfVariable? keyVariable v = some ("admin.api_key", Datum.ofVariable v) := by
  have hrest : after? variableStart (lowered keyVariable).toList =
      some "admin__api_key".toList := by decide +kernel
  simp only [Datum.entryOfVariable?, hrest, Option.map_some]
  rfl

/-- The entry makes two tables, one in the other. -/
theorem layOver_key (v : String) :
    (Datum.table []).layOver [("admin.api_key", Datum.ofVariable v)] =
      .table [("admin", .table [("api_key", Datum.ofVariable v)])] := by
  have hpath : settingsPath "admin.api_key" = ["admin", "api_key"] := by decide +kernel
  simp [Datum.layOver, hpath, Datum.laidOverAt, Datum.alter, Datum.entries,
    Datum.laidOver_ofVariable]

/-- The guess is put right where the key is known to be a text. -/
theorem coerce_key {d : Datum} {key : String} (hkey : d.toText? = some key) :
    shape.coerce (.table [("admin", .table [("api_key", d)])]) =
      some (.object [("admin", .object [("api_key", .text key)])]) := by
  have hnull : d ≠ .null := by
    rintro rfl
    cases hkey
  simp [shape, Shape.coerce, Shape.coerceField, hkey]

theorem ofValue?_key (key : String) :
    schema.format.ofValue? (.object [("admin", .object [("api_key", .text key)])]) =
      some (keyed key) := rfl

/-- **Every value makes a key**, the text that comes of it. -/
theorem load_keyVariable {v key : String} (h : Restated v key) :
    load [(keyVariable, v)] none = .ok (keyed key) := by
  have hcoerced := coerce_key h.toText?_ofVariable
  have hdatum : ofDatum? (.table [("admin", .table [("api_key", Datum.ofVariable v)])]) =
      some (keyed key) := by
    rw [ofDatum?, hcoerced]
    exact ofValue?_key key
  have hentry := entryOfVariable?_keyVariable v
  simp only [load, List.filterMap_cons, hentry, List.filterMap_nil]
  rw [show (Datum.table []).layOver [] = .table [] from rfl, layOver_key, hdatum]

end Settings

/-! ## Presenting it -/

/-- The value of a header with a key after the scheme. -/
def bearer (key : String) : String := "Bearer " ++ key

/-- Such a value presents the one key. -/
theorem presents_bearer_iff {key presented : String} :
    Presents (bearer presented) key ↔ presented = key := by
  have hbearer : "Bearer ".toList.map lower = keyStart := by decide
  constructor
  · rintro ⟨start, hstart, heq⟩
    have hchars := congrArg String.toList heq
    rw [bearer, String.toList_append, String.toList_append] at hchars
    have hlength : "Bearer ".toList.length = start.toList.length := by
      rw [length_of_map_lower hbearer, length_of_map_lower hstart]
    exact String.toList_inj.1 (List.append_inj_right hchars hlength)
  · rintro rfl
    exact ⟨"Bearer ", hbearer, rfl⟩

/-- The gateway's administration is open to a key and to no other. -/
structure Gateway.OpensTo (g : Gateway) (key : String) : Prop where
  /-- A request with the key is handled as if there were none. -/
  opens : key ≠ "" → (∀ c ∈ key.toList, IsPrintable c) → ∀ (r : Incoming) (resource : Resource),
    Resource.at? r.head.target.path = some resource → resource.isGuarded = true →
    r.head.headers.first? "authorization" = some (bearer key) →
    ∀ now fresh network faults db,
      g.handle now fresh network faults db r = g.withoutKey.handle now fresh network faults db r
  /-- A request with another is denied, and nothing is done. -/
  denies : ∀ presented ≠ key, ∀ (r : Incoming) (resource : Resource),
    Resource.at? r.head.target.path = some resource → resource.isGuarded = true →
    r.head.headers.first? "authorization" = some (bearer presented) →
    ∀ now fresh network faults db, ∃ response : Response, response.status = 401 ∧
      g.handle now fresh network faults db r = (response, db)

/-- A gateway with a key is open to it alone. -/
theorem Gateway.opensTo_of_key {g : Gateway} {key : String}
    (h : g.settings.admin.apiKey = some key) : g.OpensTo key where
  opens hne hprintable r resource hat hguarded hvalue now fresh network faults db := by
    refine handle_of_allowed hat ?_
    rw [guard_of_guarded h hguarded]
    exact guardKey_of_presents hne hprintable hvalue (presents_bearer_iff.2 rfl)
  denies presented hother r resource hat hguarded hvalue now fresh network faults db := by
    have hdenied := (guardKey_ok_or_unauthorized key r.head.headers).resolve_left fun hok => by
      obtain ⟨value, hfirst, hpresents⟩ := presents_of_guardKey_ok hok
      rw [hvalue] at hfirst
      cases hfirst
      exact hother (presents_bearer_iff.1 hpresents)
    obtain ⟨message, hdenied⟩ := hdenied
    rw [← guard_of_guarded h hguarded] at hdenied
    exact ⟨_, status_denial _ _ _, handle_of_denied hat hdenied⟩

/-- **A key of the environment is used as it is given exactly when it is verbatim.**  Whatever the
variable holds, the settings load, with the key that comes of it and all else as when nothing is
configured; the administration is open to that key and to no other.  A value that is not verbatim
locks out whoever presents it. -/
theorem Settings.environment_key_verbatim_iff (v : String) :
    ∃ key, Restated v key ∧ load [(keyVariable, v)] none = .ok (keyed key) ∧
      (key = v ↔ IsVerbatim v) ∧ ∀ g : Gateway, g.settings = keyed key → g.OpensTo key := by
  obtain ⟨key, hkey⟩ := exists_restated v
  refine ⟨key, hkey, load_keyVariable hkey, hkey.eq_iff, fun g hg => ?_⟩
  exact Gateway.opensTo_of_key (by rw [hg]; rfl)

/-- A plain word is used as it is given, and opens a site that is configured with it alone. -/
theorem Settings.environment_key_verbatim_site :
    load [(keyVariable, "secret")] none = .ok (keyed "secret") ∧
      Site.keyed.settings = keyed "secret" ∧ Site.keyed.OpensTo "secret" := by
  obtain ⟨key, -, hload, hiff, hopens⟩ := Settings.environment_key_verbatim_iff "secret"
  obtain rfl := hiff.2 (isVerbatim_of_letter rfl (by decide) (by decide))
  exact ⟨hload, rfl, hopens _ rfl⟩

/-- **A key with zeros in front loses them**: the gateway is open to what is left, and denies the
key that was given. -/
theorem Settings.zeros_in_front_lost :
    load [(keyVariable, "007")] none = .ok (keyed "7") ∧
    load [(keyVariable, "007")] none ≠ .ok (keyed "007") ∧
    ∀ g : Gateway, g.settings = keyed "7" → ∀ now fresh network faults db,
      ∃ response : Response, response.status = 401 ∧
        g.handle now fresh network faults db
          (Site.removal [⟨"authorization", bearer "007"⟩]) = (response, db) := by
  have hload : load [(keyVariable, "007")] none = .ok (keyed "7") :=
    load_keyVariable (.integer 7 (by decide))
  refine ⟨hload, ?_, fun g hg now fresh network faults db => ?_⟩
  · rw [hload]
    decide
  · have hpath : Resource.at? "/oauth/applications/7" = some (.application ['7']) := by
      decide +kernel
    exact (Gateway.opensTo_of_key (by rw [hg]; rfl)).denies "007" (by decide) _ _ hpath rfl
      (by decide) now fresh network faults db

end OAuthGateway

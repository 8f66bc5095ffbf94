import OAuthGateway.Admission.Bearer
import OAuthGateway.Credential

/-!
# Proofs/Admission/Bearer — a drawn token can be presented

A text is `Graphic` when it consists of visible ASCII characters other than the blank, and there is
one.  Such a text is read back from the header value that presents it (`ofHeaders?_of_graphic`).
Texts of base64url are graphic, and every code, token or secret made of random bytes is such a text
(`base64url_ofBytes`).
-/

namespace OAuthGateway

open Http

namespace Text

/-- The character is visible ASCII, and no blank. -/
def IsGraphic (c : Char) : Prop := 33 ≤ c.toNat ∧ c.toNat < 127

instance (c : Char) : Decidable (IsGraphic c) :=
  inferInstanceAs (Decidable (33 ≤ c.toNat ∧ c.toNat < 127))

/-- A text of such characters, and at least one. -/
structure Graphic (s : String) : Prop where
  nonempty : s ≠ ""
  all : ∀ c ∈ s.toList, IsGraphic c

variable {c : Char} {cs : List Char}

theorem IsGraphic.not_isBlank (h : IsGraphic c) : ¬ isBlank c = true := by
  obtain ⟨hlow, hhigh⟩ := h
  simp only [isBlank, Bool.or_eq_true, Bool.and_eq_true, decide_eq_true_eq, beq_iff_eq]
  omega

theorem IsGraphic.ne_space (h : IsGraphic c) : c ≠ ' ' := by
  rintro rfl
  exact absurd h.1 (by decide)

theorem dropWhile_of_forall_not {p : Char → Bool} (h : ∀ c ∈ cs, ¬ p c = true) :
    cs.dropWhile p = cs := by
  cases cs with
  | nil => rfl
  | cons c cs => exact List.dropWhile_cons_of_neg (h c List.mem_cons_self)

theorem trim_of_forall_not (h : ∀ c ∈ cs, ¬ isBlank c = true) : trim cs = cs := by
  have hreverse : ∀ c ∈ cs.reverse, ¬ isBlank c = true := fun c hc => h c (List.mem_reverse.1 hc)
  rw [trim, trimStart, dropWhile_of_forall_not h, dropEndWhile, dropWhile_of_forall_not hreverse,
    List.reverse_reverse]

end Text

/-! ## Presenting a text -/

namespace Bearer

open Text

variable {text : String}

theorem ofValue?_of_graphic (h : Graphic text) :
    ofValue? ("Bearer " ++ text).toList = some text.toList := by
  have hcut : cut? ' ' ("Bearer " ++ text).toList = some ("Bearer".toList, text.toList) := by
    rw [cut?_eq_some_iff, String.toList_append]
    exact ⟨rfl, by decide⟩
  have htrim : trim text.toList = text.toList :=
    trim_of_forall_not fun c hc => (h.all c hc).not_isBlank
  have hscheme : sameFold "Bearer".toList scheme = true := by decide
  have hempty : text.toList.isEmpty = false := by
    rw [List.isEmpty_eq_false_iff]
    exact fun hnil => h.nonempty (String.toList_eq_nil_iff.1 hnil)
  have hspace : text.toList.contains ' ' = false := by
    rw [Bool.eq_false_iff]
    intro hmem
    exact (h.all ' ' (List.contains_iff_mem.1 hmem)).ne_space rfl
  simp only [ofValue?, hcut, htrim, hscheme, hempty, hspace]
  rfl

theorem isVisible_of_graphic (h : Graphic text) : Header.isVisible ("Bearer " ++ text) = true := by
  rw [Header.isVisible, String.toList_append, List.all_append, Bool.and_eq_true]
  refine ⟨by decide, List.all_eq_true.2 fun c hc => ?_⟩
  obtain ⟨hlow, hhigh⟩ := h.all c hc
  rw [decide_eq_true hhigh, decide_eq_true (Nat.le_of_succ_le hlow), Bool.and_true, Bool.or_true]

/-- **A text that is presented is read back.** -/
theorem ofHeaders?_of_graphic {hs : Headers} (h : Graphic text)
    (hpresented : hs.first? headerName = some ("Bearer " ++ text)) : ofHeaders? hs = some text := by
  rw [ofHeaders?, hpresented, Option.bind_eq_bind, Option.bind_some,
    if_pos (isVisible_of_graphic h), ofValue?_of_graphic h, Option.map_some, String.ofList_toList]

end Bearer

/-! ## Drawn texts -/

namespace Credential

/-- The characters of base64url: letters, digits, hyphen and underscore. -/
def IsBase64url (c : Char) : Prop :=
  Text.isAsciiLetter c = true ∨ Text.isDigit c = true ∨ c = '-' ∨ c = '_'

instance (c : Char) : Decidable (IsBase64url c) :=
  inferInstanceAs (Decidable (Text.isAsciiLetter c = true ∨ Text.isDigit c = true ∨ c = '-' ∨
    c = '_'))

/-- A text of such characters, and at least one. -/
structure Base64url (s : String) : Prop where
  nonempty : s ≠ ""
  all : ∀ c ∈ s.toList, IsBase64url c

theorem IsBase64url.isGraphic {c : Char} (h : IsBase64url c) : Text.IsGraphic c := by
  rcases h with hletter | hdigit | rfl | rfl
  · rw [Text.isAsciiLetter_iff] at hletter
    exact ⟨by omega, by omega⟩
  · rw [Text.isDigit_iff] at hdigit
    exact ⟨by omega, by omega⟩
  · decide
  · decide

/-- A text of base64url can stand in a header. -/
theorem Base64url.graphic {s : String} (h : Base64url s) : Text.Graphic s :=
  ⟨h.nonempty, fun c hc => (h.all c hc).isGraphic⟩

theorem isBase64url_digit (n : Nat) : IsBase64url (digit n) := by
  have hvalue : ∀ n < 64, IsBase64url (digit n) := by decide +kernel
  by_cases hn : n < 64
  · exact hvalue n hn
  · have hdigit : digit n = '_' := by
      rw [digit, if_neg (by omega), if_neg (by omega), if_neg (by omega), if_neg (by omega)]
    rw [hdigit]
    decide

theorem exists_digit_of_mem {bytes : List UInt8} {c : Char} (h : c ∈ base64url bytes) :
    ∃ n, c = digit n := by
  fun_induction base64url bytes with
  | case1 a b d rest n ih =>
    simp only [List.mem_cons] at h
    rcases h with rfl | rfl | rfl | rfl | h
    · exact ⟨_, rfl⟩
    · exact ⟨_, rfl⟩
    · exact ⟨_, rfl⟩
    · exact ⟨_, rfl⟩
    · exact ih h
  | case2 a b n =>
    simp only [List.mem_cons, List.not_mem_nil, or_false] at h
    rcases h with rfl | rfl | rfl <;> exact ⟨_, rfl⟩
  | case3 a n =>
    simp only [List.mem_cons, List.not_mem_nil, or_false] at h
    rcases h with rfl | rfl <;> exact ⟨_, rfl⟩
  | case4 => cases h

/-- **Whatever is drawn is a text of base64url.** -/
theorem base64url_ofBytes {bytes : List UInt8} (h : bytes.length = byteCount) :
    Base64url (ofBytes bytes) where
  nonempty hempty := by
    have hlength := length_ofBytes h
    rw [hempty] at hlength
    cases hlength
  all c hc := by
    rw [ofBytes, String.toList_ofList] at hc
    obtain ⟨n, rfl⟩ := exists_digit_of_mem hc
    exact isBase64url_digit n

end Credential

end OAuthGateway

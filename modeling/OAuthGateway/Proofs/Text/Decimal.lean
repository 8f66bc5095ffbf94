import Mathlib.Data.Nat.Digits.Defs
import OAuthGateway.Text.Decimal

/-!
# Proofs/Text/Decimal — numbers are read back from their digits

`natural n` is a non-empty run of digits, none in front that could be left out, and `ofDigits` is
its inverse; zeros in front change nothing.  So what `integer` and `padded` write is read back.
-/

namespace OAuthGateway.Text

/-! ## The digits of a number -/

theorem isDigit_eq (c : Char) : isDigit c = c.isDigit := rfl

/-- A number is written in digits. -/
theorem isDigit_of_mem_natural {n : Nat} {c : Char} (h : c ∈ natural n) : isDigit c = true := by
  rw [isDigit_eq]
  exact Nat.isDigit_of_mem_toDigits (by decide) (by decide) h

theorem natural_ne_nil (n : Nat) : natural n ≠ [] := Nat.toDigits_ne_nil

/-- A positive number has no zero in front. -/
theorem head?_natural_ne_zero {n : Nat} (h : 0 < n) : (natural n).head? ≠ some '0' := by
  induction n using Nat.strong_induction_on with
  | _ n ih =>
    rw [natural, Nat.toDigits_eq_if (by decide)]
    split
    · simp
      omega
    · -- the first digit is that of the number without its last one
      have hrest : (natural (n / 10)).head? ≠ some '0' := ih (n / 10) (by omega) (by omega)
      obtain ⟨d, ds, hds⟩ := List.exists_cons_of_ne_nil (natural_ne_nil (n / 10))
      rw [hds] at hrest
      rw [← natural, hds]
      exact hrest

/-- The first digit of a positive number is not zero. -/
theorem exists_natural_eq_cons {n : Nat} (h : 0 < n) :
    ∃ d ds, natural n = d :: ds ∧ isDigit d = true ∧ d ≠ '0' ∧ ∀ c ∈ ds, isDigit c = true := by
  obtain ⟨d, ds, hds⟩ := List.exists_cons_of_ne_nil (natural_ne_nil n)
  have hdigits : ∀ c ∈ d :: ds, isDigit c = true := fun c hc =>
    isDigit_of_mem_natural (n := n) (hds ▸ hc)
  refine ⟨d, ds, hds, hdigits d List.mem_cons_self, ?_,
    fun c hc => hdigits c (List.mem_cons_of_mem _ hc)⟩
  rintro rfl
  exact head?_natural_ne_zero h (by rw [hds]; rfl)

/-! ## Reading them back -/

/-- Digits are read as the library reads them. -/
theorem ofDigits_eq (acc : Nat) (ds : List Char) :
    ofDigits acc ds = Nat.ofDigitChars 10 ds acc := by
  rw [Nat.ofDigitChars_eq_foldl, ofDigits]
  simp only [digitValue, Nat.mul_comm]

/-- **A number is read back from its digits.** -/
@[simp] theorem ofDigits_natural (n : Nat) : ofDigits 0 (natural n) = n := by
  rw [ofDigits_eq]
  exact Nat.ofDigitChars_ten_toDigits

/-- Digits, one at least, are a number. -/
theorem natural?_of_digits {ds : List Char} (hne : ds ≠ []) (h : ∀ c ∈ ds, isDigit c = true) :
    natural? ds = some (ofDigits 0 ds) := by
  have hall : ds.all isDigit = true := List.all_eq_true.2 h
  simp [natural?, hne, hall]

@[simp] theorem natural?_natural (n : Nat) : natural? (natural n) = some n := by
  rw [natural?_of_digits (natural_ne_nil n) fun _ => isDigit_of_mem_natural, ofDigits_natural]

/-- Where the digits of a number begin there is no sign. -/
theorem head_natural_ne {n : Nat} {c : Char} (h : isDigit c = false) (cs : List Char) :
    natural n ≠ c :: cs := by
  intro hn
  have hdigit := isDigit_of_mem_natural (n := n) (c := c) (by rw [hn]; exact List.mem_cons_self)
  simp [h] at hdigit

/-- **An integer of a word is read back from its text.** -/
theorem signed?_integer {i : Int} (h : fitsWord i = true) : signed? (integer i) = some i := by
  cases i with
  | ofNat n =>
    simp only [integer, signed?]
    split
    · exact absurd ‹_› (head_natural_ne (by decide) _)
    · exact absurd ‹_› (head_natural_ne (by decide) _)
    · rw [natural?_natural]
      exact Option.filter_some_pos h
  | negSucc n =>
    simp only [integer, signed?, natural?_natural]
    exact Option.filter_some_pos h

/-! ## Zeros in front -/

/-- Zeros in front change nothing. -/
@[simp] theorem ofDigits_padded (width n : Nat) : ofDigits 0 (padded width n) = n := by
  rw [padded, ofDigits_eq, Nat.ofDigitChars_append, Nat.ofDigitChars_replicate_zero, Nat.mul_zero,
    ← ofDigits_eq, ofDigits_natural]

/-- The zeros in front are digits, too. -/
theorem isDigit_of_mem_padded {width n : Nat} {c : Char} (h : c ∈ padded width n) :
    isDigit c = true := by
  rw [padded, List.mem_append, List.mem_replicate] at h
  rcases h with ⟨-, rfl⟩ | h
  · decide
  · exact isDigit_of_mem_natural h

theorem padded_ne_nil (width n : Nat) : padded width n ≠ [] := by
  simp [padded, natural_ne_nil]

theorem exists_padded_eq_cons (width n : Nat) :
    ∃ d ds, padded width n = d :: ds ∧ isDigit d = true := by
  obtain ⟨d, ds, hds⟩ := List.exists_cons_of_ne_nil (padded_ne_nil width n)
  have hd : d ∈ padded width n := by simp [hds]
  exact ⟨d, ds, hds, isDigit_of_mem_padded hd⟩

/-- A number with no more digits than the width takes up exactly the width. -/
theorem length_padded {width n : Nat} (hwidth : 0 < width) (h : n < 10 ^ width) :
    (padded width n).length = width := by
  have hle : (natural n).length ≤ width := (Nat.length_toDigits_le_iff (by decide) hwidth).2 h
  simp [padded, Nat.sub_add_cancel hle]

/-! ## Where a run of digits ends

Digits are taken as long as there are any, so what comes behind them must be none. -/

section Run

variable {ds rest : List Char}

/-- The longest run of digits at the front of a text. -/
theorem takeWhile_isDigit_append (hds : ∀ c ∈ ds, isDigit c = true)
    (hrest : ∀ c ∈ rest.head?, isDigit c = false) : (ds ++ rest).takeWhile isDigit = ds := by
  rw [List.takeWhile_append_of_pos hds]
  cases rest with
  | nil => simp
  | cons c cs => simp [hrest c rfl]

/-- A mark that is no digit ends the run before it. -/
theorem head?_cons_not_digit {mark : Char} (h : isDigit mark = false) :
    ∀ c ∈ (mark :: rest).head?, isDigit c = false := by
  intro c hc
  cases hc
  exact h

end Run

end OAuthGateway.Text

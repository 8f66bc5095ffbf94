import Mathlib.Data.List.Basic
import OAuthGateway.Text.Percent

/-!
# Proofs/Text/Percent — what decoding leaves at the end

Bytes that are a text are its encoding (`eq_utf8Encode_of_pieces`).  A character that is no
hexadecimal digit is part of no escape that starts before it (`percentBytes_append_cons`), so the
bytes of a text that ends in it end in its own.  In ASCII that is one byte, and it ends no other
character; so it is the last character that is decoded, too (`mem_of_percentDecoded?`).
-/

namespace OAuthGateway.Text

/-! ## Bytes as text -/

/-- What is decoded at a place stands there in bytes. -/
theorem extract_of_utf8DecodeChar? {bytes : ByteArray} {i : ℕ} {c : Char}
    (h : bytes.utf8DecodeChar? i = some c) :
    bytes.extract i bytes.size =
      [c].utf8Encode ++ bytes.extract (i + c.utf8Size) bytes.size := by
  rw [ByteArray.utf8DecodeChar?_eq_utf8DecodeChar?_extract] at h
  obtain ⟨rest, hrest⟩ := ByteArray.exists_of_utf8DecodeChar?_eq_some h
  rw [← List.utf8Encode_singleton] at hrest
  have hsize : [c].utf8Encode.size = c.utf8Size := by
    rw [List.utf8Encode_singleton, List.size_toByteArray, String.length_utf8EncodeChar]
  have hbehind : (bytes.extract i bytes.size).extract c.utf8Size (bytes.size - i) = rest := by
    rw [hrest]
    refine ByteArray.extract_append_eq_right hsize.symm ?_
    rw [← ByteArray.size_append, ← hrest, ByteArray.size_extract, Nat.min_self]
  rw [ByteArray.extract_extract] at hbehind
  rw [hrest, ← hbehind]
  congr 2
  omega

/-- From a place on, the characters that are found are those that the bytes encode. -/
theorem extract_eq_of_piecesFrom {bytes : ByteArray} {i : ℕ} {acc : List (Option Char)}
    {cs : List Char} (h : piecesFrom bytes i acc = cs.map some) :
    ∃ before behind, cs = before ++ behind ∧ acc.reverse = before.map some ∧
      bytes.extract i bytes.size = behind.utf8Encode := by
  induction i, acc using piecesFrom.induct bytes with
  | case1 i acc hi c hc ih =>
    rw [piecesFrom, dif_pos hi, hc] at h
    obtain ⟨before, behind, rfl, hacc, hbytes⟩ := ih h
    rw [List.reverse_cons] at hacc
    obtain ⟨before, last, rfl, hbefore, hlast⟩ := List.map_eq_append_iff.1 hacc.symm
    obtain ⟨c', rfl, hc'⟩ := List.map_eq_singleton_iff.1 hlast
    obtain rfl : c' = c := Option.some.inj hc'
    refine ⟨before, c' :: behind, by simp, hbefore.symm, ?_⟩
    rw [extract_of_utf8DecodeChar? hc, hbytes, ← List.utf8Encode_cons]
  | case2 i acc hi hc ih =>
    rw [piecesFrom, dif_pos hi, hc] at h
    obtain ⟨before, behind, -, hacc, -⟩ := ih h
    have hgap : none ∈ before.map some := hacc ▸ by simp
    simp at hgap
  | case3 i acc hi =>
    rw [piecesFrom, dif_neg hi] at h
    refine ⟨cs, [], (List.append_nil cs).symm, h, ?_⟩
    rw [List.utf8Encode_nil, ByteArray.extract_eq_empty_iff]
    omega

/-- **Bytes that are a text are its encoding.** -/
theorem eq_utf8Encode_of_pieces {bytes : ByteArray} {cs : List Char}
    (h : pieces bytes = cs.map some) : bytes = cs.utf8Encode := by
  obtain ⟨before, behind, rfl, hbefore, hbytes⟩ := extract_eq_of_piecesFrom h
  obtain rfl : before = [] := List.map_eq_nil_iff.1 hbefore.symm
  rwa [ByteArray.extract_zero_size] at hbytes

/-- The last byte of a character is in ASCII only if it is the character. -/
theorem toNat_of_getLast?_utf8EncodeChar {c : Char} {b : UInt8}
    (h : (String.utf8EncodeChar c).getLast? = some b) (hascii : b.toNat < 128) :
    c.toNat = b.toNat := by
  simp only [String.utf8EncodeChar] at h
  change c.val.toNat = b.toNat
  split at h
  · rename_i hsmall
    have hsingle : b = UInt8.ofNat c.val.toNat := (Option.some.inj h).symm
    rw [hsingle, UInt8.toNat_ofNat']
    omega
  · -- otherwise it is a continuation byte
    have hcontinues : b = UInt8.ofNat (c.val.toNat % 64 + 128) := by
      split at h
      · exact (Option.some.inj h).symm
      · split at h <;> exact (Option.some.inj h).symm
    rw [hcontinues, UInt8.toNat_ofNat'] at hascii
    omega

/-- A text whose bytes end in an ASCII character ends in it. -/
theorem getLast?_of_utf8Encode_eq {cs : List Char} {g : Char} (hascii : g.toNat < 128)
    (front : List UInt8) (h : cs.utf8Encode = (front ++ String.utf8EncodeChar g).toByteArray) :
    cs.getLast? = some g := by
  have hbytes : cs.flatMap String.utf8EncodeChar = front ++ String.utf8EncodeChar g :=
    List.toByteArray_inj.1 h
  have hsingle : String.utf8EncodeChar g = [UInt8.ofNat g.toNat] :=
    if_pos (Nat.le_of_lt_succ hascii)
  rcases List.eq_nil_or_concat cs with rfl | ⟨init, c, rfl⟩
  · rw [List.flatMap_nil, hsingle] at hbytes
    simp at hbytes
  · have hlast : (String.utf8EncodeChar c).getLast? = some (UInt8.ofNat g.toNat) := by
      have hends := congrArg List.getLast? hbytes
      rw [List.concat_eq_append, List.flatMap_append, List.flatMap_singleton, hsingle,
        List.getLast?_concat, List.getLast?_append_of_ne_nil _ String.utf8EncodeChar_ne_nil]
        at hends
      exact hends
    have hbyte : (UInt8.ofNat g.toNat).toNat = g.toNat := by
      rw [UInt8.toNat_ofNat']
      omega
    have hsame := toNat_of_getLast?_utf8EncodeChar hlast (by omega)
    rw [List.concat_eq_append, List.getLast?_concat, Char.toNat_inj.1 (hsame.trans hbyte)]

/-! ## Escapes -/

theorem escapedByte?_eq_some_iff {cs rest : List Char} {b : UInt8} :
    escapedByte? cs = some (b, rest) ↔ ∃ x y high low, cs = '%' :: x :: y :: rest ∧
      hexValue? x = some high ∧ hexValue? y = some low ∧ b = UInt8.ofNat (high * 16 + low) := by
  constructor
  · intro h
    unfold escapedByte? at h
    split at h
    · split at h
      · rename_i high low hhigh hlow
        cases h
        exact ⟨_, _, high, low, rfl, hhigh, hlow, rfl⟩
      · cases h
    · cases h
  · rintro ⟨x, y, high, low, rfl, hhigh, hlow, rfl⟩
    simp only [escapedByte?, hhigh, hlow]

/-- An escape stays one, whatever stands behind it. -/
theorem escapedByte?_append {cs rest : List Char} {b : UInt8} (h : escapedByte? cs = some (b, rest))
    (behind : List Char) : escapedByte? (cs ++ behind) = some (b, rest ++ behind) := by
  obtain ⟨x, y, high, low, rfl, hdigits⟩ := escapedByte?_eq_some_iff.1 h
  exact escapedByte?_eq_some_iff.2 ⟨x, y, high, low, rfl, hdigits⟩

/-- What starts no escape starts none with a character behind it that is no digit. -/
theorem escapedByte?_append_cons {c g : Char} {cs : List Char} (hg : hexValue? g = none)
    (h : escapedByte? (c :: cs) = none) (behind : List Char) :
    escapedByte? (c :: (cs ++ g :: behind)) = none := by
  rw [Option.eq_none_iff_forall_ne_some] at h ⊢
  rintro ⟨b, rest⟩ hescape
  obtain ⟨x, y, high, low, htext, hhigh, hlow, rfl⟩ := escapedByte?_eq_some_iff.1 hescape
  obtain ⟨rfl, hbehind⟩ := List.cons.inj htext
  rcases cs with _ | ⟨x', _ | ⟨y', cs⟩⟩ <;>
    simp only [List.nil_append, List.cons_append, List.cons.injEq] at hbehind
  · obtain ⟨rfl, -⟩ := hbehind
    simp [hg] at hhigh
  · obtain ⟨rfl, rfl, -⟩ := hbehind
    simp [hg] at hlow
  · obtain ⟨rfl, rfl, -⟩ := hbehind
    exact h _ (escapedByte?_eq_some_iff.2 ⟨x', y', high, low, rfl, hhigh, hlow, rfl⟩)

theorem percentBytes_of_escape {cs rest : List Char} {b : UInt8}
    (h : escapedByte? cs = some (b, rest)) : percentBytes cs = b :: percentBytes rest := by
  rw [percentBytes]
  split <;> rename_i hescape <;> rw [h] at hescape <;> cases hescape
  rfl

theorem percentBytes_of_no_escape {c : Char} {cs : List Char} (h : escapedByte? (c :: cs) = none) :
    percentBytes (c :: cs) = String.utf8EncodeChar c ++ percentBytes cs := by
  rw [percentBytes]
  split <;> rename_i hescape
  · rw [h] at hescape
    cases hescape
  · rfl

theorem percentBytes_nil : percentBytes [] = [] := by
  rw [percentBytes]
  rfl

/-- **A character that is no digit is part of no escape before it.** -/
theorem percentBytes_append_cons {g : Char} (hg : hexValue? g = none) (cs behind : List Char) :
    percentBytes (cs ++ g :: behind) = percentBytes cs ++ percentBytes (g :: behind) := by
  induction cs using percentBytes.induct with
  | case1 cs b rest hescape ih =>
    rw [percentBytes_of_escape (escapedByte?_append hescape _), ih, percentBytes_of_escape hescape,
      List.cons_append]
  | case2 hescape => rw [percentBytes_nil, List.nil_append, List.nil_append]
  | case3 c rest hescape ih =>
    rw [List.cons_append, percentBytes_of_no_escape (escapedByte?_append_cons hg hescape behind),
      ih, percentBytes_of_no_escape hescape, List.append_assoc]

/-! ## The last character -/

/-- A text without gaps is its pieces. -/
theorem eq_map_some_of_mapM {ps : List (Option Char)} {cs : List Char} (h : ps.mapM id = some cs) :
    ps = cs.map some := by
  induction ps generalizing cs with
  | nil =>
    obtain rfl := Option.some.inj h
    rfl
  | cons p ps ih =>
    rw [List.mapM_cons, id_eq] at h
    obtain ⟨c, rfl, hrest⟩ := Option.bind_eq_some_iff.1 h
    obtain ⟨rest, hps, hcs⟩ := Option.bind_eq_some_iff.1 hrest
    obtain rfl := Option.some.inj hcs
    rw [ih hps, List.map_cons]

/-- **A text that ends in an ASCII character that is no digit still ends in it when it is
decoded.** -/
theorem getLast?_of_percentDecoded? {g : Char} {cs decoded : List Char} (hg : hexValue? g = none)
    (hascii : g.toNat < 128) (h : percentDecoded? (cs ++ [g]) = some decoded) :
    decoded.getLast? = some g := by
  have hbytes := eq_utf8Encode_of_pieces (eq_map_some_of_mapM h)
  refine getLast?_of_utf8Encode_eq hascii (percentBytes cs) ?_
  have hescape : escapedByte? [g] = none := by
    rw [Option.eq_none_iff_forall_ne_some]
    rintro ⟨b, rest⟩ hsome
    obtain ⟨x, y, high, low, htext, -⟩ := escapedByte?_eq_some_iff.1 hsome
    simp at htext
  rw [← hbytes, percentBytes_append_cons hg, percentBytes_of_no_escape hescape, percentBytes_nil,
    List.append_nil]
  exact ByteArray.ext List.data_toByteArray.symm

end OAuthGateway.Text

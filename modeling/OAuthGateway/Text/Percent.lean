import OAuthGateway.Text.Ascii
import OAuthGateway.Text.Utf8

/-!
# Text/Percent — text in which bytes are escaped

A percent sign and two hexadecimal digits stand for a byte. `percentBytes` writes these bytes out; a
percent sign without two digits behind it stands for itself. The bytes need not be those of a text:
`percentDecoded?` refuses them then, `percentReplaced` puts a replacement character in every gap.
-/

namespace OAuthGateway.Text

/-- The byte that an escape at the start of a text stands for, and the text behind it. -/
def escapedByte? : List Char → Option (UInt8 × List Char)
  | '%' :: a :: b :: rest =>
    match hexValue? a, hexValue? b with
    | some high, some low => some (UInt8.ofNat (high * 16 + low), rest)
    | _, _ => none
  | _ => none

theorem length_of_escapedByte? {cs rest : List Char} {b : UInt8}
    (h : escapedByte? cs = some (b, rest)) :
    rest.length < cs.length := by
  unfold escapedByte? at h
  split at h
  · split at h
    · simp only [Option.some.injEq, Prod.mk.injEq] at h
      simp only [← h.2, List.length_cons]
      omega
    · simp at h
  · simp at h

/-- The bytes of a text with its escapes written out. -/
def percentBytes (cs : List Char) : List UInt8 :=
  match _h : escapedByte? cs with
  | some (b, rest) => b :: percentBytes rest
  | none =>
    match cs with
    | [] => []
    | c :: rest => String.utf8EncodeChar c ++ percentBytes rest
termination_by cs.length
decreasing_by
  · exact length_of_escapedByte? _h
  · simp

/-- The text that an escaped text stands for, if its bytes are those of one. -/
def percentDecoded? (cs : List Char) : Option (List Char) :=
  (pieces (ByteArray.mk (percentBytes cs).toArray)).mapM id

/-- The text that an escaped text stands for, with a replacement character where there is none. -/
def percentReplaced (cs : List Char) : List Char :=
  (pieces (ByteArray.mk (percentBytes cs).toArray)).map (·.getD '\uFFFD')

end OAuthGateway.Text

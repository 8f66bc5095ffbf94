/-!
# Text/Utf8 — bytes as characters, with gaps where they are none

`pieces` decodes bytes character by character. A byte that starts no well-formed character is a gap,
written `none`, and decoding goes on after it: what a reader does with a gap is the reader's rule.
-/

namespace OAuthGateway.Text

/-- The characters of some bytes; `none` stands for a byte that is no part of a character. -/
def piecesFrom (bytes : ByteArray) (i : Nat) (acc : List (Option Char)) : List (Option Char) :=
  if _h : i < bytes.size then
    match bytes.utf8DecodeChar? i with
    | some c => piecesFrom bytes (i + c.utf8Size) (some c :: acc)
    | none => piecesFrom bytes (i + 1) (none :: acc)
  else acc.reverse
termination_by bytes.size - i
decreasing_by
  · have := c.utf8Size_pos
    omega
  · omega

/-- The characters of some bytes, in order. -/
def pieces (bytes : ByteArray) : List (Option Char) := piecesFrom bytes 0 []

/-- The pieces of a text: its characters, without a gap. -/
def piecesOf (s : String) : List (Option Char) := s.toList.map some

end OAuthGateway.Text

/-!
# Text/Blank — white space, and the words it separates

`isBlank` is the Unicode property `White_Space`; `words` are the maximal runs of other characters,
and `trim` removes the blanks at both ends. A blank ends a word, and no word is empty
(`ne_nil_of_mem_words`).
-/

namespace OAuthGateway.Text

/-- The code points with the property `White_Space`, wider than core's `Char.isWhitespace`. -/
def isBlank (c : Char) : Bool :=
  let n := c.toNat
  (0x09 ≤ n && n ≤ 0x0D) || n == 0x20 || n == 0x85 || n == 0xA0 || n == 0x1680 ||
    (0x2000 ≤ n && n ≤ 0x200A) || n == 0x2028 || n == 0x2029 || n == 0x202F || n == 0x205F ||
    n == 0x3000

/-- The maximal runs of characters that are not blank, in the order of the text. -/
def words (cs : List Char) : List (List Char) :=
  (cs.splitOnP isBlank).filter fun w => !w.isEmpty

theorem ne_nil_of_mem_words {w cs : List Char} (h : w ∈ words cs) : w ≠ [] := by
  simpa [words] using (List.mem_filter.1 h).2

/-- Drops the longest ending whose characters satisfy `p`. -/
def dropEndWhile (p : Char → Bool) (cs : List Char) : List Char :=
  (cs.reverse.dropWhile p).reverse

/-- The text without the blanks it starts with. -/
def trimStart (cs : List Char) : List Char := cs.dropWhile isBlank

/-- The text without the blanks at either end. -/
def trim (cs : List Char) : List Char := dropEndWhile isBlank (trimStart cs)

end OAuthGateway.Text

import Mathlib.Data.List.TakeWhile
import OAuthGateway.Json.Token
import OAuthGateway.Proofs.Text.Decimal

/-!
# Proofs/Json/Scan — what is written is scanned as it is meant

`Value.tokens` says which tokens a value consists of, and `scan_render` that its text is scanned
into just these.  The scanner is followed from the front: after each part it is idle again, with the
tokens of the part found (`Yields`).  Only a number has to see what comes behind it; in the text of
a value that is a comma, a closing bracket or the end (`Ends`).
-/

namespace OAuthGateway.Json

open Text

/-! ## The tokens of a value -/

mutual

/-- The tokens a value consists of. A number is what its text denotes. -/
def Value.tokens : Value → List Token
  | .null => [.null]
  | .bool b => [.bool b]
  | .number n => [.number (Number.ofText? n.render)]
  | .text s => [.text (some s)]
  | .list items => .openBracket :: ([.comma].intercalate (itemTokens items) ++ [.closeBracket])
  | .object fields => .openBrace :: ([.comma].intercalate (fieldTokens fields) ++ [.closeBrace])

/-- The tokens of some values. -/
def itemTokens : List Value → List (List Token)
  | [] => []
  | v :: vs => v.tokens :: itemTokens vs

/-- The tokens of some fields. -/
def fieldTokens : List (String × Value) → List (List Token)
  | [] => []
  | (name, v) :: fs => (.text (some name) :: .colon :: v.tokens) :: fieldTokens fs

end

/-! ## Following the scanner

The scanner is a machine that reads characters and collects tokens.  A part of a text yields its
tokens if the machine starts idle on it and ends so. -/

/-- The tokens of a text that begins where the scanner stands. -/
def tokensFrom (m : Mode × List Token) (cs : List Char) : List Token :=
  finish ((cs.map some).foldl step m)

theorem scan_map_some (cs : List Char) : scan (cs.map some) = tokensFrom (.idle, []) cs := rfl

theorem tokensFrom_cons (m : Mode × List Token) (c : Char) (cs : List Char) :
    tokensFrom m (c :: cs) = tokensFrom (step m (some c)) cs := rfl

/-- A text that may come right behind a part of the text of a value. -/
def Ends (tail : List Char) : Prop := ∀ c ∈ tail.head?, c = ',' ∨ c = ':' ∨ c = ']' ∨ c = '\x7d'

/-- From the front of a text an idle scanner finds the tokens, whatever may come after. -/
def Yields (cs : List Char) (ts : List Token) : Prop :=
  ∀ found tail, Ends tail →
    tokensFrom (.idle, found) (cs ++ tail) = tokensFrom (.idle, ts.reverse ++ found) tail

/-- A text that yields tokens is scanned into them. -/
theorem Yields.scan {cs : List Char} {ts : List Token} (h : Yields cs ts) :
    scan (cs.map some) = ts := by
  have hscan := h [] [] nofun
  rw [List.append_nil, List.append_nil] at hscan
  rw [scan_map_some, hscan]
  simp [tokensFrom, finish]

/-! ## Words and quoted texts

Words stand for themselves.  In a quoted text each character is escaped in a way that is undone for
it alone. -/

theorem yields_null : Yields (Value.render .null) [.null] := fun _ _ _ => rfl

/-- The words of truth values yield them. -/
theorem yields_bool (b : Bool) : Yields (Value.bool b).render [.bool b] := by
  intro found tail _
  cases b <;> rfl

/-- How a character is written inside quotes. -/
inductive Escaped (c : Char) : List Char → Prop
  /-- Behind a backslash stands the letter of the character. -/
  | short (e : Char) (h : shortEscape? e = some c) (hu : e ≠ 'u') : Escaped c ['\\', e]
  /-- Behind a backslash and `u` stand the digits of a control character. -/
  | control (a b : Char) (ha : a ≠ '"' ∧ a ≠ '\\') (hb : b ≠ '"' ∧ b ≠ '\\')
      (h : hex4? (some '0') (some '0') (some a) (some b) = some c.toNat) (hc : c.toNat < 32) :
      Escaped c ['\\', 'u', '0', '0', a, b]
  /-- Any other character stands for itself. -/
  | plain (hquote : c ≠ '"') (hslash : c ≠ '\\') (hc : 32 ≤ c.toNat) : Escaped c [c]

/-- Every character is escaped in one of the ways that are undone. -/
theorem escaped_spec (c : Char) : Escaped c (escaped c) := by
  rw [escaped]
  by_cases hquote : c = '"'
  · rw [if_pos hquote]
    exact .short _ (by rw [hquote]; rfl) (by decide)
  by_cases hslash : c = '\\'
  · rw [if_neg hquote, if_pos hslash]
    exact .short _ (by rw [hslash]; rfl) (by decide)
  rw [if_neg hquote, if_neg hslash]
  split
  · exact .short _ (by rw [‹c = _›]; rfl) (by decide)
  split
  · exact .short _ (by rw [‹c = _›]; rfl) (by decide)
  split
  · exact .short _ (by rw [‹c = _›]; rfl) (by decide)
  split
  · exact .short _ (by rw [‹c = _›]; rfl) (by decide)
  split
  · exact .short _ (by rw [‹c = _›]; rfl) (by decide)
  split
  · have hdigit : ∀ n < 16, hexDigit n ≠ '"' ∧ hexDigit n ≠ '\\' := by decide
    have hvalue : ∀ n < 32, hex4? (some '0') (some '0') (some (hexDigit (n / 16)))
        (some (hexDigit (n % 16))) = some n := by
      decide
    exact .control _ _ (hdigit _ (by omega)) (hdigit _ (by omega)) (hvalue _ ‹_›) ‹_›
  · exact .plain hquote hslash (by omega)

/-- What stands for one character leaves the scanner inside the quotes. -/
theorem tokensFrom_escaped (raw : List (Option Char)) (found : List Token) (c : Char)
    (cs : List Char) : tokensFrom (.quoted raw false, found) (escaped c ++ cs) =
      tokensFrom (.quoted (((escaped c).map some).reverse ++ raw) false, found) cs := by
  have h := escaped_spec c
  generalize escaped c = es at h
  cases h with
  | short e => simp [tokensFrom_cons, step]
  | control a b ha hb => simp [tokensFrom_cons, step, ha, hb]
  | plain hquote hslash => simp [tokensFrom_cons, step, hquote, hslash]

/-- So does what stands for some. -/
theorem tokensFrom_flatMap_escaped (raw : List (Option Char)) (found : List Token)
    (text cs : List Char) : tokensFrom (.quoted raw false, found) (text.flatMap escaped ++ cs) =
      tokensFrom (.quoted (((text.flatMap escaped).map some).reverse ++ raw) false, found) cs := by
  induction text generalizing raw with
  | nil => rfl
  | cons c text ih =>
    rw [List.flatMap_cons, List.append_assoc, tokensFrom_escaped, ih]
    simp

/-- It stands for the character. -/
theorem unquote_escaped (acc : List Char) (c : Char) (rest : List (Option Char)) :
    unquote true none acc ((escaped c).map some ++ rest) = unquote true none (c :: acc) rest := by
  have h := escaped_spec c
  generalize escaped c = es at h
  cases h with
  | short e h hu => simp [unquote, h, hu]
  | control a b _ _ h hc =>
    have hlow : ¬ (0xD800 ≤ c.toNat ∧ c.toNat < 0xDC00) := by omega
    have hhigh : ¬ (0xDC00 ≤ c.toNat ∧ c.toNat < 0xE000) := by omega
    simp [unquote, h, hlow, hhigh]
  | plain hquote hslash hc =>
    have hc' : ¬ c.toNat < 32 := by omega
    simp [unquote, hslash, hc']

/-- **An escaped text is unquoted to itself.** -/
theorem unquote_flatMap_escaped (acc text : List Char) :
    unquote true none acc ((text.flatMap escaped).map some) =
      .text (some (String.ofList (acc.reverse ++ text))) := by
  induction text generalizing acc with
  | nil => simp [unquote]
  | cons c text ih =>
    rw [List.flatMap_cons, List.map_append, unquote_escaped, ih]
    simp

/-- **A text in quotes is scanned into the text.** -/
theorem yields_quoted (s : String) : Yields (quoted s) [.text (some s)] := by
  intro found tail _
  have hinside := unquote_flatMap_escaped [] s.toList
  rw [List.reverse_nil, List.nil_append, String.ofList_toList] at hinside
  calc tokensFrom (.idle, found) (quoted s ++ tail)
    _ = tokensFrom (.quoted [] false, found) (s.toList.flatMap escaped ++ '"' :: tail) := by
        rw [quoted, List.cons_append, List.append_assoc, tokensFrom_cons]
        rfl
    _ = tokensFrom (.quoted ((s.toList.flatMap escaped).map some).reverse false, found)
          ('"' :: tail) := by
        rw [tokensFrom_flatMap_escaped, List.append_nil]
    _ = tokensFrom (.idle, [.text (some s)].reverse ++ found) tail := by
        rw [tokensFrom_cons]
        simp [step, hinside]

/-! ## Numbers

A numeral is a machine of its own, which has to be told that the number ends. -/

namespace Numeral

/-- The state after some more characters, if all belong to the number. -/
def run? (state : Numeral) (cs : List Char) : Option Numeral := cs.foldlM next? state

/-- A numeral runs over one part and then over the next. -/
theorem run?_append (state : Numeral) (cs cs' : List Char) :
    state.run? (cs ++ cs') = (state.run? cs).bind fun state' => state'.run? cs' :=
  List.foldlM_append

/-- Digits keep a number whole, and continue the digits of an exponent. -/
theorem run?_digits {state : Numeral} (hstate : state = whole ∨ state = exponentDigits)
    {ds : List Char} (h : ∀ c ∈ ds, isDigit c = true) : run? state ds = some state := by
  have hstays : ∀ d, isDigit d = true → state.next? d = some state := by
    intro d hd
    rcases hstate with rfl | rfl <;> simp [next?, hd]
  induction ds with
  | nil => rfl
  | cons d ds ih =>
    obtain ⟨hd, hds⟩ := List.forall_mem_cons.1 h
    rw [run?, List.foldlM_cons, hstays d hd]
    exact ih hds

/-- No number goes on with what may stand behind it. -/
theorem next?_of_ends (state : Numeral) {c : Char}
    (hc : c = ',' ∨ c = ':' ∨ c = ']' ∨ c = '\x7d') : state.next? c = none := by
  rcases hc with rfl | rfl | rfl | rfl <;> cases state <;> rfl

end Numeral

/-- The scanner follows the states of a number. -/
theorem tokensFrom_numeral {state state' : Numeral} {cs : List Char}
    (h : state.run? cs = some state') (text : List Char) (found : List Token) (tail : List Char) :
    tokensFrom (.numeral text state, found) (cs ++ tail) =
      tokensFrom (.numeral (cs.reverse ++ text) state', found) tail := by
  induction cs generalizing text state with
  | nil =>
    cases h
    rfl
  | cons c cs ih =>
    rw [Numeral.run?, List.foldlM_cons] at h
    obtain ⟨next, hnext, hrest⟩ := Option.bind_eq_some_iff.1 h
    rw [List.cons_append, tokensFrom_cons, step, hnext]
    simpa using ih hrest (c :: text)

/-- A number that may end is found where it ends. -/
theorem tokensFrom_accepting {state : Numeral} (h : state.accepting = true) (text : List Char)
    (found : List Token) {tail : List Char} (htail : Ends tail) :
    tokensFrom (.numeral text state, found) tail =
      tokensFrom (.idle, .number (Number.ofText? text.reverse) :: found) tail := by
  cases tail with
  | nil => simp [tokensFrom, finish, numeralToken, h]
  | cons c tail =>
    have hnext := state.next?_of_ends (htail c rfl)
    rw [tokensFrom_cons, tokensFrom_cons]
    simp [step, hnext, numeralToken, h]

/-- A number is found if its characters lead from its start to where it may end. -/
theorem yields_numeral {c : Char} {cs : List Char} {first last : Numeral}
    (hstart : ∀ found, start found c = (.numeral [c] first, found))
    (hrun : first.run? cs = some last) (hlast : last.accepting = true) :
    Yields (c :: cs) [.number (Number.ofText? (c :: cs))] := by
  intro found tail htail
  rw [List.cons_append, tokensFrom_cons, step, hstart, tokensFrom_numeral hrun,
    tokensFrom_accepting hlast _ _ htail]
  simp

/-- A digit other than zero starts a whole number. -/
theorem start_of_digit {d : Char} (h : isDigit d = true) (hzero : d ≠ '0') (found : List Token) :
    start found d = (.numeral [d] .whole, found) := by
  have hmark : ∀ mark, isDigit mark = false → d ≠ mark := by
    rintro mark hmark rfl
    rw [h] at hmark
    cases hmark
  have hblank : isJsonBlank d = false := by
    simp [isJsonBlank, hmark ' ' rfl, hmark '\n' rfl, hmark '\t' rfl, hmark '\r' rfl]
  simp [start, hblank, hmark '\x7b' rfl, hmark '\x7d' rfl, hmark '[' rfl, hmark ']' rfl,
    hmark ':' rfl, hmark ',' rfl, hmark '"' rfl, hmark '-' rfl, hzero, h]

/-- The text of an integer leads from its start to the end of a whole number. -/
theorem exists_integer_run (i : Int) : ∃ c cs first last, integer i = c :: cs ∧
    (∀ found, start found c = (.numeral [c] first, found)) ∧ first.run? cs = some last ∧
    (last = .zero ∨ last = .whole) := by
  cases i with
  | ofNat n =>
    rcases Nat.eq_zero_or_pos n with rfl | hpos
    · exact ⟨'0', [], .zero, .zero, rfl, fun _ => rfl, rfl, .inl rfl⟩
    · obtain ⟨d, ds, hds, hd, hzero, hdigits⟩ := exists_natural_eq_cons hpos
      exact ⟨d, ds, .whole, .whole, hds, start_of_digit hd hzero,
        Numeral.run?_digits (.inl rfl) hdigits, .inr rfl⟩
  | negSucc n =>
    obtain ⟨d, ds, hds, hd, hzero, hdigits⟩ := exists_natural_eq_cons n.succ_pos
    refine ⟨'-', d :: ds, .minus, .whole, congrArg _ hds, fun _ => rfl, ?_, .inr rfl⟩
    rw [Numeral.run?, List.foldlM_cons, Numeral.next?, if_neg hzero, if_pos hd]
    exact Numeral.run?_digits (.inl rfl) hdigits

/-- The text of an integer is an exponent. -/
theorem Numeral.run?_exponent (i : Int) : run? exponent (integer i) = some exponentDigits := by
  have hdigits : ∀ {state}, (∀ d, isDigit d = true → state.next? d = some exponentDigits) →
      ∀ n, run? state (natural n) = some exponentDigits := by
    intro state hnext n
    obtain ⟨d, ds, hds⟩ := List.exists_cons_of_ne_nil (natural_ne_nil n)
    have h : ∀ c ∈ d :: ds, isDigit c = true := fun c hc => isDigit_of_mem_natural (hds ▸ hc)
    obtain ⟨hd, hds'⟩ := List.forall_mem_cons.1 h
    rw [hds, run?, List.foldlM_cons, hnext d hd]
    exact run?_digits (.inr rfl) hds'
  cases i with
  | ofNat n =>
    refine hdigits (fun d hd => ?_) n
    have hplus : d ≠ '+' := by
      rintro rfl
      cases hd
    have hminus : d ≠ '-' := by
      rintro rfl
      cases hd
    simp [next?, hplus, hminus, hd]
  | negSucc n => exact hdigits (fun d hd => by rw [next?, if_pos hd]) (n + 1)

/-- **A number is scanned into what its text denotes.** -/
theorem yields_number (n : Number) : Yields n.render [.number (Number.ofText? n.render)] := by
  cases n with
  | integer i =>
    obtain ⟨c, cs, first, last, hi, hstart, hrun, hlast⟩ := exists_integer_run i
    rw [Number.render, hi]
    exact yields_numeral hstart hrun (by rcases hlast with rfl | rfl <;> rfl)
  | decimal m e =>
    obtain ⟨c, cs, first, last, hi, hstart, hrun, hlast⟩ := exists_integer_run m
    rw [Number.render, hi, List.cons_append]
    have hexponent : last.next? 'e' = some .exponent := by rcases hlast with rfl | rfl <;> rfl
    have hdecimal : first.run? (cs ++ 'e' :: integer e) = some .exponentDigits := by
      rw [Numeral.run?_append, hrun, Option.bind_some, Numeral.run?, List.foldlM_cons, hexponent]
      exact Numeral.run?_exponent e
    exact yields_numeral hstart hdecimal rfl

/-- An integer of a word, signed or unsigned, denotes itself. -/
theorem ofText?_integer {i : Int} (hmin : wordMin ≤ i) (hmax : i < wordSize) :
    Number.ofText? (integer i) = some (.integer i) := by
  have hrun : ∀ n, (natural n).takeWhile isDigit = natural n := fun n =>
    List.takeWhile_eq_self_iff.2 fun _ => isDigit_of_mem_natural
  have hrest : ∀ n, (natural n).dropWhile isDigit = [] := fun n =>
    List.dropWhile_eq_nil_iff.2 fun _ => isDigit_of_mem_natural
  cases i with
  | ofNat n =>
    have hhead : ((natural n).head? == some '-') = false := by
      obtain ⟨d, ds, hds⟩ := List.exists_cons_of_ne_nil (natural_ne_nil n)
      have hd : d ≠ '-' := by
        rintro rfl
        exact head_natural_ne (by decide) ds hds
      simp [hds, hd]
    have hbounds : wordMin ≤ (n : Int) ∧ n < wordSize := ⟨hmin, Int.ofNat_lt.1 hmax⟩
    simp [Number.ofText?, integer, hhead, hrun, hrest, hbounds]
  | negSucc n =>
    have hvalue : Int.negSucc n = -1 + -(n : Int) := by omega
    have hbounds : wordMin + n ≤ -1 ∧ (-1 : Int) < wordSize + n := by omega
    simp [Number.ofText?, integer, hrun, hrest, hbounds, hvalue]

/-! ## Values -/

/-- Behind a part comes a mark, and behind that the rest. -/
theorem tokensFrom_mark {cs rest : List Char} {ts : List Token} {c : Char} {t : Token}
    (h : Yields cs ts) (hc : c = ',' ∨ c = ':' ∨ c = ']' ∨ c = '\x7d')
    (hmark : ∀ found, start found c = (.idle, t :: found)) (found : List Token) :
    tokensFrom (.idle, found) (cs ++ c :: rest) =
      tokensFrom (.idle, t :: (ts.reverse ++ found)) rest := by
  have hends : Ends (c :: rest) := by
    intro c' hc'
    cases hc'
    exact hc
  rw [h _ _ hends, tokensFrom_cons, step, hmark]

/-- Parts with commas between them. -/
theorem yields_joined {parts : List (List Char)} {tss : List (List Token)}
    (h : List.Forall₂ Yields parts tss) : Yields (joined ',' parts) ([.comma].intercalate tss) := by
  induction h with
  | nil => exact fun _ _ _ => rfl
  | @cons part ts parts tss hpart hparts ih =>
    cases hparts with
    | nil => simpa [joined] using hpart
    | @cons part' ts' parts tss _ _ =>
      intro found tail htail
      rw [joined, List.append_assoc, List.cons_append,
        tokensFrom_mark hpart (.inl rfl) (fun _ => rfl), ih _ _ htail, List.intercalate_cons_cons]
      · simp
      · nofun

/-- A field is its name, a colon and its value. -/
theorem yields_field {name : String} {v : Value} (h : Yields v.render v.tokens) :
    Yields (quoted name ++ ':' :: v.render) (.text (some name) :: .colon :: v.tokens) := by
  intro found tail htail
  rw [List.append_assoc, List.cons_append,
    tokensFrom_mark (yields_quoted name) (.inr (.inl rfl)) (fun _ => rfl), h _ _ htail]
  simp

mutual

/-- **What is written of a value is scanned into its tokens.** -/
theorem yields_render : ∀ v : Value, Yields v.render v.tokens
  | .null => yields_null
  | .bool b => yields_bool b
  | .number n => yields_number n
  | .text s => yields_quoted s
  | .list items => by
    intro found tail _
    rw [Value.render, List.cons_append, tokensFrom_cons, List.append_assoc, List.singleton_append]
    rw [show step (.idle, found) (some '[') = (.idle, .openBracket :: found) from rfl,
      tokensFrom_mark (yields_joined (yields_renderItems items)) (.inr (.inr (.inl rfl)))
        (fun _ => rfl)]
    simp [Value.tokens]
  | .object fields => by
    intro found tail _
    rw [Value.render, List.cons_append, tokensFrom_cons, List.append_assoc, List.singleton_append]
    rw [show step (.idle, found) (some '\x7b') = (.idle, .openBrace :: found) from rfl,
      tokensFrom_mark (yields_joined (yields_renderFields fields)) (.inr (.inr (.inr rfl)))
        (fun _ => rfl)]
    simp [Value.tokens]

theorem yields_renderItems : ∀ vs : List Value,
    List.Forall₂ Yields (renderItems vs) (itemTokens vs)
  | [] => .nil
  | v :: vs => .cons (yields_render v) (yields_renderItems vs)

theorem yields_renderFields : ∀ fields : List (String × Value),
    List.Forall₂ Yields (renderFields fields) (fieldTokens fields)
  | [] => .nil
  | (_, v) :: fs => .cons (yields_field (yields_render v)) (yields_renderFields fs)

end

end OAuthGateway.Json

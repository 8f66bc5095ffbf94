import OAuthGateway.Json.Value
import OAuthGateway.Text.Utf8

/-!
# Json/Token — the tokens of a JSON text

`scan` is a fold over the characters. Whatever is no token ends the list with `bad`, and so does a
token that the text breaks off; nothing behind it is looked at. Two tokens carry a judgement that
only matters if the token is read and not skipped: a text whose escapes or bytes denote no
characters is `text none`, and a number beyond the finite floating-point numbers is `number none`.
-/

namespace OAuthGateway.Json

/-- A token of JSON. -/
inductive Token where
  | openBrace | closeBrace | openBracket | closeBracket | colon | comma
  | null
  | bool (value : Bool)
  | number (value : Option Number)
  | text (value : Option String)
  | bad
deriving DecidableEq, Repr

/-! ## Numbers -/

/-- How far the characters of a number have come. -/
inductive Numeral where
  | minus | zero | whole | point | fraction | exponent | exponentSign | exponentDigits | malformed
deriving DecidableEq, Repr

namespace Numeral

/-- The state after one more character; `none` if the character belongs to the next token. A digit
after a leading zero belongs to this one and spoils it. -/
def next? (state : Numeral) (c : Char) : Option Numeral :=
  match state with
  | minus => if c = '0' then some zero else if Text.isDigit c then some whole else none
  | zero =>
    if Text.isDigit c then some malformed
    else if c = '.' then some point
    else if c = 'e' || c = 'E' then some exponent else none
  | whole =>
    if Text.isDigit c then some whole
    else if c = '.' then some point
    else if c = 'e' || c = 'E' then some exponent else none
  | point => if Text.isDigit c then some fraction else none
  | fraction =>
    if Text.isDigit c then some fraction
    else if c = 'e' || c = 'E' then some exponent else none
  | exponent =>
    if c = '+' || c = '-' then some exponentSign
    else if Text.isDigit c then some exponentDigits else none
  | exponentSign => if Text.isDigit c then some exponentDigits else none
  | exponentDigits => if Text.isDigit c then some exponentDigits else none
  | malformed => none

/-- The number may end here. -/
def accepting : Numeral → Bool
  | zero | whole | fraction | exponentDigits => true
  | _ => false

end Numeral

/-- The least magnitude that rounds to infinity in double precision. -/
def overflowBound : Nat := Nat.pow 2 1024 - Nat.pow 2 970

/-- A coefficient times a power of ten rounds to a finite number. The count of digits decides all
but the cases near the bound, so no large power is computed. -/
def isFinite (coefficient : Nat) (exponent : Int) : Bool :=
  let size : Int := (Nat.toDigits 10 coefficient).length + exponent
  if coefficient = 0 || size < 300 then true
  else if 320 < size then false
  else if exponent < 0 then coefficient < overflowBound * Nat.pow 10 exponent.natAbs
  else coefficient * Nat.pow 10 exponent.toNat < overflowBound

/-- The number a well-formed text denotes; `none` if it is beyond every finite floating-point
number. An integer has to fit a 64-bit word, signed or unsigned, and minus zero is none. -/
def Number.ofText? (cs : List Char) : Option Number :=
  let negative := cs.head? == some '-'
  let magnitude := if negative then cs.drop 1 else cs
  let whole := magnitude.takeWhile Text.isDigit
  let afterWhole := magnitude.dropWhile Text.isDigit
  let (fraction, afterFraction) := match afterWhole with
    | '.' :: rest => (rest.takeWhile Text.isDigit, rest.dropWhile Text.isDigit)
    | rest => ([], rest)
  let exponent : Int := match afterFraction with
    | _ :: '-' :: ds => -(Text.ofDigits 0 ds : Int)
    | _ :: '+' :: ds => (Text.ofDigits 0 ds : Int)
    | _ :: ds => (Text.ofDigits 0 ds : Int)
    | [] => 0
  let coefficient := Text.ofDigits 0 (whole ++ fraction)
  let signed : Int := if negative then -(coefficient : Int) else coefficient
  if afterWhole.isEmpty && Text.wordMin ≤ signed && signed < (Text.wordSize : Int) &&
      !(negative && coefficient == 0) then
    some (.integer signed)
  else
    let scale := exponent - fraction.length
    if isFinite coefficient scale then some (.decimal signed scale) else none

/-! ## Quoted texts -/

/-- The value of four hexadecimal digits. -/
def hex4? (a b c d : Option Char) : Option Nat := do
  let a ← a >>= Text.hexValue?
  let b ← b >>= Text.hexValue?
  let c ← c >>= Text.hexValue?
  let d ← d >>= Text.hexValue?
  return ((a * 16 + b) * 16 + c) * 16 + d

/-- The character a one-letter escape stands for. -/
def shortEscape? (c : Char) : Option Char :=
  if c = '"' || c = '\\' || c = '/' then some c
  else if c = 'b' then some '\x08'
  else if c = 'f' then some '\x0c'
  else if c = 'n' then some '\n'
  else if c = 'r' then some '\r'
  else if c = 't' then some '\t' else none

/-- The token of a quoted text, from what stands between its quotes. Characters outside the basic
plane are escaped as a pair of surrogates, of which `half` holds the first; half a pair makes the
text unreadable, as a gap does. A control character or an unknown escape is no token at all. -/
def unquote (readable : Bool) (half : Option Nat) (acc : List Char) : List (Option Char) → Token
  | [] => .text (if readable && half.isNone then some (String.ofList acc.reverse) else none)
  | some '\\' :: some 'u' :: a :: b :: c :: d :: rest =>
    match hex4? a b c d, half with
    | none, _ => .bad
    | some n, none =>
      if 0xD800 ≤ n && n < 0xDC00 then unquote readable (some n) acc rest
      else if 0xDC00 ≤ n && n < 0xE000 then unquote false none acc rest
      else unquote readable none (Char.ofNat n :: acc) rest
    | some n, some first =>
      if 0xDC00 ≤ n && n < 0xE000 then
        let point := 0x10000 + (first - 0xD800) * 0x400 + (n - 0xDC00)
        unquote readable none (Char.ofNat point :: acc) rest
      else unquote false none acc rest
  | some '\\' :: some e :: rest =>
    match shortEscape? e with
    | some c => unquote (readable && half.isNone) none (c :: acc) rest
    | none => .bad
  | some '\\' :: _ => .bad
  | some c :: rest =>
    if c.toNat < 32 then .bad else unquote (readable && half.isNone) none (c :: acc) rest
  | none :: rest => unquote false none acc rest

/-! ## Scanning -/

/-- What the scanner is in the middle of. -/
inductive Mode where
  | idle
  | quoted (raw : List (Option Char)) (escape : Bool)
  | numeral (text : List Char) (state : Numeral)
  | word (rest : List Char) (token : Token)
  | stopped
deriving DecidableEq, Repr

/-- The blanks of JSON. -/
def isJsonBlank (c : Char) : Bool := c = ' ' || c = '\n' || c = '\t' || c = '\r'

/-- The token of a number, from its characters. -/
def numeralToken (text : List Char) (state : Numeral) : Token :=
  if state.accepting then .number (Number.ofText? text) else .bad

/-- Starts a token. The tokens found so far are kept in reverse. -/
def start (found : List Token) (c : Char) : Mode × List Token :=
  if isJsonBlank c then (.idle, found)
  else if c = '\x7b' then (.idle, .openBrace :: found)
  else if c = '\x7d' then (.idle, .closeBrace :: found)
  else if c = '[' then (.idle, .openBracket :: found)
  else if c = ']' then (.idle, .closeBracket :: found)
  else if c = ':' then (.idle, .colon :: found)
  else if c = ',' then (.idle, .comma :: found)
  else if c = '"' then (.quoted [] false, found)
  else if c = '-' then (.numeral [c] .minus, found)
  else if c = '0' then (.numeral [c] .zero, found)
  else if Text.isDigit c then (.numeral [c] .whole, found)
  else if c = 't' then (.word ['r', 'u', 'e'] (.bool true), found)
  else if c = 'f' then (.word ['a', 'l', 's', 'e'] (.bool false), found)
  else if c = 'n' then (.word ['u', 'l', 'l'] .null, found)
  else (.stopped, .bad :: found)

/-- Takes one piece of the text into account. -/
def step : Mode × List Token → Option Char → Mode × List Token
  | (.stopped, found), _ => (.stopped, found)
  | (.quoted raw true, found), piece => (.quoted (piece :: raw) false, found)
  | (.quoted raw false, found), piece =>
    if piece = some '"' then
      match unquote true none [] raw.reverse with
      | .bad => (.stopped, .bad :: found)
      | token => (.idle, token :: found)
    else (.quoted (piece :: raw) (piece = some '\\'), found)
  | (.idle, found), some c => start found c
  | (.numeral text state, found), some c =>
    match state.next? c with
    | some state => (.numeral (c :: text) state, found)
    | none =>
      match numeralToken text.reverse state with
      | .bad => (.stopped, .bad :: found)
      | token => start (token :: found) c
  | (.word (r :: rest) token, found), some c =>
    if c ≠ r then (.stopped, .bad :: found)
    else if rest.isEmpty then (.idle, token :: found)
    else (.word rest token, found)
  | (_, found), _ => (.stopped, .bad :: found)

/-- Ends the text. -/
def finish : Mode × List Token → List Token
  | (.idle, found) | (.stopped, found) => found.reverse
  | (.numeral text state, found) => (numeralToken text.reverse state :: found).reverse
  | (_, found) => (.bad :: found).reverse

/-- The tokens of a text, up to the first place where there is none. -/
def scan (text : List (Option Char)) : List Token := finish (text.foldl step (.idle, []))

end OAuthGateway.Json

import OAuthGateway.Text.Blank
import OAuthGateway.Text.Decimal
import OAuthGateway.Time.Calendar
import OAuthGateway.Time.Instant

/-!
# Time/Rfc3339 — timestamps as text

`write` gives the one canonical form: UTC with `Z`, and a fraction of no, three, six or nine digits,
the fewest that lose nothing; a year outside 0 to 9999 carries its sign. `read?` accepts more:
blanks between the parts, offsets, `T`, `t` or a blank before the time, and further digits of the
fraction, which it drops. A second 60 is the leap second at the end of its minute.
-/

namespace OAuthGateway.Time.Rfc3339

open Text

/-! ## Writing -/

/-- A year: four digits, or its sign and at least four. -/
def year (y : Int) : List Char :=
  if 0 ≤ y ∧ y ≤ 9999 then padded 4 y.toNat
  else (if y < 0 then '-' else '+') :: padded 4 y.natAbs

/-- A fraction of a second in the fewest of no, three, six or nine digits that lose nothing. -/
def fraction (nanos : Nat) : List Char :=
  if nanos = 0 then []
  else if nanos % 1000000 = 0 then '.' :: padded 3 (nanos / 1000000)
  else if nanos % 1000 = 0 then '.' :: padded 6 (nanos / 1000)
  else '.' :: padded 9 nanos

/-- The canonical text of a second and the nanoseconds from its start; those of a leap second count
as a second more. -/
def writeFields (second : Int) (nanosecond : Nat) : List Char :=
  let days := second.fdiv perDay
  let time := (second - days * perDay).toNat
  let date := Date.ofDays days
  year date.year ++ '-' :: padded 2 date.month ++ '-' :: padded 2 date.day ++
    'T' :: padded 2 (time / 3600) ++ ':' :: padded 2 (time / 60 % 60) ++
    ':' :: padded 2 (time % 60 + nanosecond / 1000000000) ++
    fraction (nanosecond % 1000000000) ++ ['Z']

/-- The canonical text of an instant. -/
def writeChars (t : Instant) : List Char := writeFields t.second t.nanosecond

/-- The canonical text of an instant, as a string. -/
def write (t : Instant) : String := String.ofList (writeChars t)

/-! ## Reading -/

/-- Reads between one and `most` digits and returns the rest. -/
def digits? (most : Nat) (cs : List Char) : Option (Nat × List Char) :=
  let ds := (cs.take most).takeWhile isDigit
  if ds.isEmpty then none else some (ofDigits 0 ds, cs.drop ds.length)

/-- Reads a number of at most two digits after any blanks. -/
def pair? (cs : List Char) : Option (Nat × List Char) := digits? 2 (trimStart cs)

/-- Skips blanks, then expects the character. -/
def mark? (c : Char) (cs : List Char) : Option (List Char) :=
  match trimStart cs with
  | d :: rest => if d = c then some rest else none
  | [] => none

/-- Reads a year: at most four digits, or a sign and any number of them. -/
def year? (cs : List Char) : Option (Int × List Char) :=
  match trimStart cs with
  | '-' :: rest => (digits? rest.length rest).map fun (n, r) => (-(n : Int), r)
  | '+' :: rest => (digits? rest.length rest).map fun (n, r) => ((n : Int), r)
  | rest => (digits? 4 rest).map fun (n, r) => ((n : Int), r)

/-- Reads an optional fraction as nanoseconds, dropping the digits after the ninth. -/
def fraction? (cs : List Char) : Option (Nat × List Char) :=
  match cs with
  | '.' :: rest =>
    let ds := rest.takeWhile isDigit
    let kept := ds.take 9
    if ds.isEmpty then none
    else some (ofDigits 0 kept * Nat.pow 10 (9 - kept.length), rest.drop ds.length)
  | _ => some (0, cs)

/-- Reads the digits of an offset's hours or minutes: exactly two. -/
def twoDigits? (cs : List Char) : Option (Nat × List Char) :=
  match cs with
  | a :: b :: rest => if isDigit a && isDigit b then some (ofDigits 0 [a, b], rest) else none
  | _ => none

/-- Reads an offset from UTC in seconds: `Z`, `UTC`, or a sign, hours and minutes. -/
def offset? (cs : List Char) : Option (Int × List Char) :=
  if sameFold (cs.take 3) ['u', 't', 'c'] then some (0, cs.drop 3)
  else match cs with
    | 'Z' :: rest | 'z' :: rest => some (0, rest)
    | sign :: rest =>
      if sign = '+' || sign = '-' || sign = '−' then do
        let (hours, rest) ← twoDigits? rest
        let (minutes, rest) ← twoDigits? (rest.dropWhile fun c => c = ':' || isBlank c)
        if 60 ≤ minutes then none
        let seconds : Int := hours * 3600 + minutes * 60
        if 86400 ≤ seconds then none
        return (if sign = '+' then seconds else -seconds, rest)
      else none
    | [] => none

/-- The first and last year whose dates can be stated. -/
def yearRange (y : Int) : Bool := -262143 ≤ y && y ≤ 262142

/-- Reads a timestamp. -/
def read? (text : List Char) : Option Instant := do
  let (year, rest) ← year? text
  let (month, rest) ← mark? '-' rest >>= pair?
  let (day, rest) ← mark? '-' rest >>= pair?
  let rest ← match rest with
    | 'T' :: r | 't' :: r | ' ' :: r => some r
    | _ => none
  let (hour, rest) ← pair? rest
  let (minute, rest) ← mark? ':' rest >>= pair?
  let (second, rest) ← mark? ':' rest >>= pair?
  let (nanos, rest) ← fraction? rest
  let (offset, rest) ← offset? (trimStart rest)
  if !(trimStart rest).isEmpty then none
  let date : Date := ⟨year, month, day⟩
  if !(date.isValid && yearRange year && hour < 24 && minute < 60 && second ≤ 60) then none
  let seconds := date.toDays * 86400 + (hour * 3600 + minute * 60 + min second 59 : Nat) - offset
  Instant.of? seconds (if second = 60 then 1000000000 + nanos else nanos)

end OAuthGateway.Time.Rfc3339

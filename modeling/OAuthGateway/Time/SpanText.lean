import OAuthGateway.Text.Blank
import OAuthGateway.Text.Decimal
import OAuthGateway.Time.Instant

/-!
# Time/SpanText — lengths of time written with units

A span is written as a sum of numbers with units, such as `1h 30m`, or as `0` alone. Blanks may
stand around the terms and inside the digits. A number is a 64-bit word and may have a decimal
fraction, which has to come out exact: in nanoseconds for the units up to minutes, in whole seconds
above. The reader walks the text once with its byte offset, because faults are reported by place.
-/

namespace OAuthGateway.Time

open Text

/-- Why a text is no span; places are byte offsets. -/
inductive SpanFault where
  | empty
  | numberOverflow
  | invalidCharacter (offset : Nat)
  | numberExpected (offset : Nat)
  | unknownUnit (start stop : Nat) (unit : String) (value : Nat)
deriving DecidableEq, Repr

/-- The worth of one unit. Fractions are exact in nanoseconds or in seconds, and nanoseconds have
none. -/
inductive SpanUnit where
  | nanosecond
  | fine (nanos : Nat)
  | seconds (secs : Nat)
  | coarse (secs : Nat)
deriving DecidableEq, Repr

/-- The unit a name stands for: `seconds` for seconds and minutes, `coarse` from hours up. -/
def SpanUnit.ofName? (name : String) : Option SpanUnit :=
  match name with
  | "ns" | "nsec" | "nanos" => some .nanosecond
  | "us" | "µs" | "usec" => some (.fine 1000)
  | "ms" | "msec" | "millis" => some (.fine 1000000)
  | "s" | "sec" | "secs" | "second" | "seconds" => some (.seconds 1)
  | "m" | "min" | "mins" | "minute" | "minutes" => some (.seconds 60)
  | "h" | "hr" | "hrs" | "hour" | "hours" => some (.coarse 3600)
  | "d" | "day" | "days" => some (.coarse 86400)
  | "w" | "wk" | "wks" | "week" | "weeks" => some (.coarse 604800)
  | "M" | "month" | "months" => some (.coarse 2630016)
  | "y" | "yr" | "yrs" | "year" | "years" => some (.coarse 31557600)
  | _ => none

namespace SpanText

/-- A number of a 64-bit word. -/
def word (n : Nat) : Except SpanFault Nat :=
  if n < wordSize then .ok n else .error .numberOverflow

/-- The sum so far: whole seconds, and nanoseconds below one second. -/
structure Sum where
  secs : Nat := 0
  nanos : Nat := 0

/-- Adds seconds and nanoseconds, each a word, to the sum. -/
def Sum.add (sum : Sum) (secs nanos : Nat) : Except SpanFault Sum := do
  let nanos ← word (sum.nanos + nanos)
  let secs ← word (sum.secs + secs + nanos / 1000000000)
  return ⟨secs, nanos % 1000000000⟩

/-- A decimal fraction: digits read as a number, over a power of ten. -/
structure Fraction where
  numerator : Nat
  denominator : Nat

/-- The fraction of so many parts, if it is a whole number of them. -/
def Fraction.of (f : Fraction) (parts : Nat) : Except SpanFault Nat := do
  let n ← word (f.numerator * parts)
  if n % f.denominator = 0 then return n / f.denominator else throw .numberOverflow

/-- Adds a number with its fraction, counted in the unit. -/
def Sum.addTerm (sum : Sum) (n : Nat) (fraction : Option Fraction) (unit : SpanUnit) :
    Except SpanFault Sum := do
  let sum ← match unit with
    | .nanosecond => sum.add 0 n
    | .fine k => do sum.add 0 (← word (n * k))
    | .seconds k | .coarse k => do sum.add (← word (n * k)) 0
  match fraction, unit with
  | none, _ => return sum
  | some _, .nanosecond => throw .numberOverflow
  | some f, .fine k => do sum.add 0 (← f.of k)
  | some f, .seconds k => do sum.add 0 (← f.of (k * 1000000000))
  | some f, .coarse k => do sum.add (← f.of k) 0

/-- Letters a unit name may consist of. -/
def isUnitLetter (c : Char) : Bool := isAsciiLetter c || c = 'µ'

/-- Where the reader is: before a number (since the offset `gap`), in its digits, in the digits of
its fraction (`mark` is where a fault would be reported), or in the letters of its unit, kept
reversed. -/
inductive Place where
  | before (gap : Nat) (any : Bool)
  | digits (n : Nat)
  | fraction (n : Nat) (f : Fraction) (mark : Nat)
  | unit (n : Nat) (f : Option Fraction) (start : Nat) (letters : List Char)

/-- Ends a term at the offset `stop`. -/
def finish (sum : Sum) (n : Nat) (f : Option Fraction) (start stop : Nat) (letters : List Char) :
    Except SpanFault Sum :=
  let name := String.ofList letters.reverse
  match SpanUnit.ofName? name with
  | some unit => sum.addTerm n f unit
  | none => .error (.unknownUnit start stop name n)

/-- Walks the text from a place at a byte offset. -/
def walk (place : Place) (sum : Sum) (offset : Nat) : List Char → Except SpanFault Sum
  | [] => match place with
    | .before _ any => if any then .ok sum else .error .empty
    | .digits n => finish sum n none offset offset []
    | .fraction n f mark =>
      if f.denominator = 1 then .error (.invalidCharacter mark)
      else finish sum n (some f) mark mark []
    | .unit n f start letters => finish sum n f start offset letters
  | c :: cs => do
    let next := offset + c.utf8Size
    match place with
    | .before gap any =>
      if isDigit c then walk (.digits (digitValue c)) sum next cs
      else if isBlank c then walk (.before gap any) sum next cs
      else throw (.numberExpected gap)
    | .digits n =>
      if isDigit c then
        let n ← word (n * 10 + digitValue c)
        walk (.digits n) sum next cs
      else if isBlank c then walk (.digits n) sum next cs
      else if isUnitLetter c then walk (.unit n none offset [c]) sum next cs
      else if c = '.' then walk (.fraction n ⟨0, 1⟩ offset) sum next cs
      else throw (.invalidCharacter offset)
    | .fraction n f mark =>
      if isDigit c then
        let denominator ← word (f.denominator * 10)
        let numerator ← word (f.numerator * 10 + digitValue c)
        walk (.fraction n ⟨numerator, denominator⟩ next) sum next cs
      else if isBlank c then walk (.fraction n f next) sum next cs
      else if isUnitLetter c && f.denominator != 1 then walk (.unit n (some f) mark [c]) sum next cs
      else throw (.invalidCharacter mark)
    | .unit n f start letters =>
      if isUnitLetter c then walk (.unit n f start (c :: letters)) sum next cs
      else if isDigit c then
        let sum ← finish sum n f start offset letters
        walk (.digits (digitValue c)) sum next cs
      else if isBlank c then
        let sum ← finish sum n f start offset letters
        walk (.before next true) sum next cs
      else throw (.invalidCharacter offset)

end SpanText

/-- Reads a span. -/
def Span.read (text : String) : Except SpanFault Span :=
  if text = "0" then .ok ⟨0, 0, by decide, by decide⟩
  else do
    let sum ← SpanText.walk (.before 0 false) {} 0 text.toList
    match Span.of? sum.secs sum.nanos with
    | some span => return span
    | none => throw .numberOverflow

end OAuthGateway.Time

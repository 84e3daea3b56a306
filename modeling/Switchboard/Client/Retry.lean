-- SUMMARY: How long to wait before connecting again.
import Switchboard.Client.Backoff
import Switchboard.Text.Numeral

/-!
# Retrying

After a failed attempt the client waits. The wait starts at `initialDelay`, is
multiplied with every further failure if the policy is exponential, and never
exceeds `maxDelay`. A positive jitter adds a random part of the wait on top, again
up to `maxDelay`. All times are whole milliseconds: a policy that waits for a part
of one, as `Backoff` can reckon it, cannot be written.
-/

namespace Switchboard

structure RetryPolicy where
  /-- Attempts before giving up. -/
  maxAttempts : Nat := 3
  initialDelay : Nat := 1000
  maxDelay : Nat := 30000
  multiplier : Float := 2.0
  jitter : Float := 0.1
  exponential : Bool := true

namespace RetryPolicy

/-- How the policy backs off. -/
def backoff (p : RetryPolicy) : Backoff Float where
  initial := p.initialDelay * Backoff.milli
  cap := p.maxDelay * Backoff.milli
  multiplier := p.multiplier
  jitter := p.jitter
  exponential := p.exponential

/-- The wait before an attempt, when chance adds `chance` milliseconds of those
that the jitter allows. -/
def delay (p : RetryPolicy) (attempt chance : Nat) : Nat :=
  p.backoff.delay attempt chance / Backoff.milli

/-- One more attempt is allowed after so many failures. -/
def allows (p : RetryPolicy) (failures : Nat) : Bool := failures < p.maxAttempts

end RetryPolicy

end Switchboard

/-
# When to try again

Delays between attempts double until they reach an upper bound, and attempts may be limited
in number.  Doubling stops to count after 31 times.
-/
import GroupCall.Duration

namespace GroupCall

/-- How often and how soon to try again. -/
structure RetryPolicy where
  /-- The delay before the first retry. -/
  first : Duration
  /-- The upper bound of every delay. -/
  longest : Duration
  /-- How many retries there are, if they are limited. -/
  maxAttempts : Option Nat
deriving DecidableEq, Repr

/-- One second, then up to half a minute, for ever. -/
def RetryPolicy.standard : RetryPolicy := ⟨.ofMillis 1000, .ofMillis 30000, none⟩

/-- Failures in a row, counted against a policy. -/
structure Backoff where
  /-- The policy. -/
  policy : RetryPolicy
  /-- The delays given out since the last success. -/
  attempts : Nat
deriving DecidableEq, Repr

namespace Backoff

/-- Nothing has failed yet. -/
def new (policy : RetryPolicy) : Backoff := ⟨policy, 0⟩

/-- Whether no delay is left. -/
def isExhausted (b : Backoff) : Bool :=
  match b.policy.maxAttempts with
  | some limit => decide (limit ≤ b.attempts)
  | none => false

/-- The delay that the attempts so far lead to. -/
def delay (b : Backoff) : Duration :=
  ((b.policy.first.times? (1 <<< min b.attempts 31)).getD b.policy.longest).shorter b.policy.longest

/-- The next delay, unless the attempts are exhausted. -/
def next (b : Backoff) : Option Duration × Backoff :=
  if b.isExhausted then (none, b) else (some b.delay, { b with attempts := b.attempts + 1 })

/-- Forgets the failures, after a success. -/
def reset (b : Backoff) : Backoff := { b with attempts := 0 }

end Backoff
end GroupCall

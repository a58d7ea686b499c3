/-
# Delays in a row

The delay that a backoff gives out depends only on how many were asked for since it was last
reset: it is the first one, doubled as often, but at most thirty-one times, and cut at the upper
bound.  A product that is too long for a length of time is above every bound, so leaving it out
makes no difference.  Once the attempts are used up, nothing is given out until the next reset.
-/
import GroupCall.Relay.Backoff
import Mathlib.Algebra.Group.Nat.Defs
import Mathlib.Data.List.Induction
import Mathlib.Logic.Function.Iterate

namespace GroupCall

/-- A product that is no length of time any more is longer than every one. -/
theorem Duration.nanos_times? (d bound : Duration) (factor : Nat) :
    (((d.times? factor).getD bound).shorter bound).nanos =
      min (d.nanos * factor) bound.nanos := by
  have hbound := bound.bounded
  rw [nanos_shorter, times?]
  split
  · rfl
  · rename_i hlong
    rw [Option.getD_none]
    omega

namespace Backoff

/-! ## One delay -/

/-- A delay is the first one, doubled as often as the attempts say, up to the bound. -/
theorem nanos_delay (b : Backoff) :
    b.delay.nanos = min (b.policy.first.nanos * 2 ^ min b.attempts 31) b.policy.longest.nanos := by
  rw [delay, Duration.nanos_times?, Nat.one_shiftLeft]

theorem isExhausted_iff {b : Backoff} :
    b.isExhausted = true ↔ ∃ limit, b.policy.maxAttempts = some limit ∧ limit ≤ b.attempts := by
  rw [isExhausted]
  cases b.policy.maxAttempts <;> simp

theorem next_of_exhausted {b : Backoff} (h : b.isExhausted = true) : b.next = (none, b) :=
  if_pos h

theorem next_of_not_exhausted {b : Backoff} (h : b.isExhausted = false) :
    b.next = (some b.delay, { b with attempts := b.attempts + 1 }) := by
  rw [next, h]
  rfl

/-- A backoff that gives nothing out has reached its limit. -/
theorem limit_of_next {b : Backoff} (h : b.next.1 = none) :
    ∃ limit, b.policy.maxAttempts = some limit ∧ limit ≤ b.attempts ∧ b.next.2 = b := by
  cases hexhausted : b.isExhausted with
  | true =>
    obtain ⟨limit, hlimit, hle⟩ := isExhausted_iff.1 hexhausted
    exact ⟨limit, hlimit, hle, by rw [next_of_exhausted hexhausted]⟩
  | false =>
    rw [next_of_not_exhausted hexhausted] at h
    cases h

/-- One that gives a delay out counts it, and has not gone beyond its limit. -/
theorem next_of_some {b : Backoff} {delay : Duration} (h : b.next.1 = some delay) :
    b.next = (some delay, { b with attempts := b.attempts + 1 }) ∧
      ∀ limit, b.policy.maxAttempts = some limit → b.attempts + 1 ≤ limit := by
  cases hexhausted : b.isExhausted with
  | true =>
    rw [next_of_exhausted hexhausted] at h
    cases h
  | false =>
    have hnext := next_of_not_exhausted hexhausted
    rw [hnext] at h
    cases h
    refine ⟨hnext, fun limit hlimit => Nat.lt_of_not_le fun hle => ?_⟩
    exact absurd (isExhausted_iff.2 ⟨limit, hlimit, hle⟩) (by simp [hexhausted])

theorem policy_next (b : Backoff) : b.next.2.policy = b.policy := by
  rw [next]
  split <;> rfl

theorem attempts_next_le (b : Backoff) : b.next.2.attempts ≤ b.attempts + 1 := by
  rw [next]
  split
  · exact Nat.le_succ _
  · exact Nat.le_refl _

/-! ## One delay after the other -/

/-- The delay that a backoff gives out after a number of others, unless it is exhausted. -/
def nth (b : Backoff) : Nat → Option Duration
  | 0 => b.next.1
  | k + 1 => b.next.2.nth k

/-- A limit that is reached remains so. -/
theorem isExhausted_succ {b : Backoff} (h : b.isExhausted = true) :
    ({ b with attempts := b.attempts + 1 } : Backoff).isExhausted = true := by
  obtain ⟨limit, hlimit, hle⟩ := isExhausted_iff.1 h
  exact isExhausted_iff.2 ⟨limit, hlimit, Nat.le_succ_of_le hle⟩

/-- Counting goes on where it stands. -/
theorem nth_add (b : Backoff) (k : Nat) :
    b.nth k = ({ b with attempts := b.attempts + k } : Backoff).next.1 := by
  induction k generalizing b with
  | zero => rfl
  | succ k ih =>
    rw [nth]
    cases h : b.isExhausted with
    | true =>
      -- nothing is given out any more, so the count makes no difference
      rw [next_of_exhausted h, ih]
      have hlater : ∀ n, ({ b with attempts := b.attempts + n } : Backoff).isExhausted = true := by
        intro n
        induction n with
        | zero => exact h
        | succ n ihn => exact isExhausted_succ ihn
      rw [next_of_exhausted (hlater k), next_of_exhausted (hlater (k + 1))]
    | false =>
      rw [next_of_not_exhausted h, ih]
      simp only [Nat.add_assoc, Nat.add_comm 1]

/-- The delays of a fresh backoff are those that it gives out at each count. -/
theorem nth_new (policy : RetryPolicy) (k : Nat) :
    (new policy).nth k = (Backoff.mk policy k).next.1 := by
  rw [nth_add, new, Nat.zero_add]

/-- A fresh backoff gives out as many delays as its limit allows, each twice the one before it
until there were thirty-two, and none above the bound. -/
theorem nanos_nth_new (policy : RetryPolicy) (k : Nat) :
    ((new policy).nth k).map Duration.nanos =
      if ∀ limit ∈ policy.maxAttempts, k < limit then
        some (min (policy.first.nanos * 2 ^ min k 31) policy.longest.nanos)
      else none := by
  rw [nth_new]
  split
  · rename_i hleft
    have hgoing : (Backoff.mk policy k).isExhausted = false := by
      refine Bool.eq_false_iff.2 fun hexhausted => ?_
      obtain ⟨limit, hlimit, hle⟩ := isExhausted_iff.1 hexhausted
      exact absurd (hleft limit hlimit) (Nat.not_lt.2 hle)
    rw [next_of_not_exhausted hgoing, Option.map_some, nanos_delay]
  · rename_i hleft
    simp only [not_forall, Nat.not_lt, exists_prop] at hleft
    have hexhausted : (Backoff.mk policy k).isExhausted = true := isExhausted_iff.2 hleft
    rw [next_of_exhausted hexhausted, Option.map_none]

/-- A delay is counted from the backoff as it is after those before it. -/
theorem nth_eq_iterate (b : Backoff) (k : Nat) :
    b.nth k = ((fun b : Backoff => b.next.2)^[k] b).next.1 := by
  induction k generalizing b with
  | zero => rfl
  | succ k ih => rw [nth, ih, Function.iterate_succ_apply]

end Backoff

/-! ## Runs -/

/-- Something that is done to a backoff. -/
inductive BackoffStep where
  /-- A delay is asked for. -/
  | next
  /-- The failures are forgotten. -/
  | reset
deriving DecidableEq, Repr

namespace Backoff

/-- How many delays were asked for since the last reset. -/
def inARow (steps : List BackoffStep) : Nat :=
  steps.foldl (fun n step => match step with | .next => n + 1 | .reset => 0) 0

/-- The backoff after a step. -/
def take (b : Backoff) : BackoffStep → Backoff
  | .next => b.next.2
  | .reset => b.reset

/-- The backoff after a run. -/
def run (b : Backoff) (steps : List BackoffStep) : Backoff := steps.foldl take b

variable {policy : RetryPolicy} {steps more : List BackoffStep}

theorem run_append (b : Backoff) (steps more : List BackoffStep) :
    b.run (steps ++ more) = (b.run steps).run more := by
  simp [run]

theorem inARow_concat (steps : List BackoffStep) (step : BackoffStep) :
    inARow (steps ++ [step]) = match step with | .next => inARow steps + 1 | .reset => 0 := by
  simp [inARow]

/-- Without a reset, every step asks for a delay. -/
theorem inARow_append (h : .reset ∉ more) :
    inARow (steps ++ more) = inARow steps + more.length := by
  induction more using List.reverseRecOn with
  | nil => simp
  | append_singleton more step ih =>
    rw [List.mem_append, not_or] at h
    cases step with
    | next => rw [← List.append_assoc, inARow_concat, ih h.1, List.length_append]; rfl
    | reset => simp at h

theorem policy_run (policy : RetryPolicy) (steps : List BackoffStep) :
    ((new policy).run steps).policy = policy := by
  induction steps using List.reverseRecOn with
  | nil => rfl
  | append_singleton steps step ih =>
    rw [run_append]
    cases step with
    | next => exact (policy_next _).trans ih
    | reset => exact ih

/-- A reset makes a backoff as it was in the beginning. -/
theorem reset_run (policy : RetryPolicy) (steps : List BackoffStep) :
    ((new policy).run steps).reset = new policy := by
  rw [reset, policy_run, new]

/-- What was before the last reset does not matter. -/
theorem run_eq_iterate (policy : RetryPolicy) (steps : List BackoffStep) :
    (new policy).run steps = (fun b : Backoff => b.next.2)^[inARow steps] (new policy) := by
  induction steps using List.reverseRecOn with
  | nil => rfl
  | append_singleton steps step ih =>
    rw [run_append, inARow_concat]
    cases step with
    | next =>
      rw [Function.iterate_succ_apply', ← ih]
      rfl
    | reset => exact reset_run policy steps

theorem next_run (policy : RetryPolicy) (steps : List BackoffStep) :
    ((new policy).run steps).next.1 = (new policy).nth (inARow steps) := by
  rw [nth_eq_iterate, run_eq_iterate]

/-- No more delays are counted than were asked for. -/
theorem attempts_run_le (policy : RetryPolicy) (steps : List BackoffStep) :
    ((new policy).run steps).attempts ≤ inARow steps := by
  induction steps using List.reverseRecOn with
  | nil => exact Nat.le_refl _
  | append_singleton steps step ih =>
    rw [run_append, inARow_concat]
    cases step with
    | next => exact Nat.le_trans (attempts_next_le _) (Nat.succ_le_succ ih)
    | reset => exact Nat.le_refl _

theorem nanos_of_nth {k : Nat} {delay : Duration} (h : (new policy).nth k = some delay) :
    delay.nanos = min (policy.first.nanos * 2 ^ min k 31) policy.longest.nanos := by
  have hnanos := nanos_nth_new policy k
  rw [h, Option.map_some] at hnanos
  split at hnanos
  · exact Option.some.inj hnanos
  · cases hnanos

/-- Delays grow with their number. -/
theorem nanos_le_nanos {k n : Nat} {delay later : Duration} (hle : k ≤ n)
    (hk : (new policy).nth k = some delay) (hn : (new policy).nth n = some later) :
    delay.nanos ≤ later.nanos := by
  have hpow : 2 ^ min k 31 ≤ 2 ^ min n 31 := Nat.pow_le_pow_right (by decide) (by omega)
  have hmul := Nat.mul_le_mul_left policy.first.nanos hpow
  rw [nanos_of_nth hk, nanos_of_nth hn]
  omega

/-- Once nothing is given out, nothing is given out later. -/
theorem nth_eq_none_of_le {k n : Nat} (hle : k ≤ n) (hk : (new policy).nth k = none) :
    (new policy).nth n = none := by
  obtain ⟨limit, hlimit, hreached, -⟩ := limit_of_next (nth_new policy k ▸ hk)
  have hexhausted : (Backoff.mk policy n).isExhausted = true :=
    isExhausted_iff.2 ⟨limit, hlimit, Nat.le_trans hreached hle⟩
  rw [nth_new, next_of_exhausted hexhausted]

/-- **The law of delays.**  Whatever was done to a backoff, the delay that it gives out next is
told by how many were asked for since the last reset: it is the first one, doubled as often, but
at most thirty-one times, and cut at the bound, as exact numbers; and there is none once as many
were asked for as the policy allows.  So no delay is above the bound, and until the next reset
delays never get shorter, and there is none any more after there was none.  A reset brings back
the beginning.  No more failures are counted than delays were asked for. -/
theorem delays_along_runs (policy : RetryPolicy) (steps : List BackoffStep) :
    let b := (new policy).run steps
    let n := inARow steps
    (b.next.1.map Duration.nanos =
      if ∀ limit ∈ policy.maxAttempts, n < limit then
        some (min (policy.first.nanos * 2 ^ min n 31) policy.longest.nanos)
      else none) ∧
    b.attempts ≤ n ∧
    (∀ delay, b.next.1 = some delay → delay.nanos ≤ policy.longest.nanos) ∧
    (∀ more, .reset ∉ more →
      (∀ delay later, b.next.1 = some delay → (b.run more).next.1 = some later →
        delay.nanos ≤ later.nanos) ∧
      (b.next.1 = none → (b.run more).next.1 = none)) ∧
    b.take .reset = new policy := by
  intro b n
  have hnext : b.next.1 = (new policy).nth n := next_run policy steps
  refine ⟨?_, attempts_run_le policy steps, fun delay hdelay => ?_, fun more hmore => ?_,
    reset_run policy steps⟩
  · rw [hnext, nanos_nth_new]
  · rw [hnext] at hdelay
    rw [nanos_of_nth hdelay]
    exact Nat.min_le_right _ _
  · have hlater : (b.run more).next.1 = (new policy).nth (n + more.length) := by
      rw [← run_append, next_run, inARow_append hmore]
    have hle : n ≤ n + more.length := Nat.le_add_right _ _
    rw [hnext, hlater]
    exact ⟨fun delay later => nanos_le_nanos hle, nth_eq_none_of_le hle⟩

/-- The first delay may be above the bound, and doubling it may lead beyond all lengths of time. -/
example : ((new ⟨.ofMillis (2 ^ 63), .ofMillis 5, some 40⟩).run (.replicate 12 .next)).next.1 =
    some (.ofMillis 5) := by
  decide +kernel

end Backoff
end GroupCall

/-
# Every request is answered

A call that goes on taking requests answers all of them, where the URL of the relay is known or
known to be missing: each round takes the oldest one, and one that waits for the URL is answered
in the next round.
-/
import GroupCall.Proofs.Calls.Requests

namespace GroupCall

theorem length_numbered {α : Type} (first : Nat) (l : List α) :
    (numbered first l).length = l.length := by
  rw [numbered, List.length_map, List.length_zipIdx]

/-- What a call does in a round: it goes on with joining, takes a request, and closes if it was
destroyed. -/
def TaskStep.round (w : Surroundings) : List TaskStep := [.resume w, .takeRequest w, .settle]

/-- So many rounds. -/
def TaskStep.rounds (w : Surroundings) : Nat → List TaskStep
  | 0 => []
  | count + 1 => round w ++ rounds w count

namespace CallTask

open Call

variable {t : CallTask} {base : Call} {w : Surroundings} {count : Nat}
  {asked : List CallRequest}

/-! ## One step after the other -/

theorem joining_resume (hurl : w.url.isSome = true) (t : CallTask) :
    (t.resume w).joining = none := by
  cases hjoining : t.joining with
  | none =>
    rw [resume, hjoining]
    exact hjoining
  | some number =>
    obtain ⟨answer, hanswer⟩ := Option.isSome_iff_exists.1 hurl
    rw [resume, hjoining, hanswer]
    rfl

theorem waiting_resume (t : CallTask) (w : Surroundings) : (t.resume w).waiting = t.waiting := by
  cases hjoining : t.joining with
  | none => rw [resume, hjoining]
  | some number =>
    obtain heq | ⟨answer, -, heq⟩ | ⟨-, heq⟩ := resume_cases hjoining w <;> rw [heq] <;> rfl

/-- Where nothing is going on the oldest request is taken. -/
theorem waiting_takeRequest (hs : t.call.state ≠ .destroyed) (hidle : t.joining = none)
    (w : Surroundings) : (t.takeRequest w).waiting = t.waiting.tail := by
  obtain ⟨call, made, waiting, events, joining, closed, replies⟩ := t
  obtain rfl : joining = none := hidle
  rw [takeRequest, isDestroyed_of_ne hs]
  cases waiting with
  | nil => rfl
  | cons r rest =>
    obtain ⟨av, -, -, heq⟩ | heq :=
      carryOut_cases ⟨call, made, rest, events, none, closed, replies⟩ w r.1 r.2 <;>
      exact congrArg CallTask.waiting heq

theorem length_waiting_settle (t : CallTask) : t.settle.waiting.length ≤ t.waiting.length := by
  rw [settle]
  split
  · rw [turnAway_eq]
    exact Nat.zero_le _
  · exact Nat.le_refl _

theorem takeRequest_of_no_waiting (hnone : t.waiting = []) (w : Surroundings) :
    t.takeRequest w = t := by
  obtain ⟨call, made, waiting, events, joining, closed, replies⟩ := t
  obtain rfl : waiting = [] := hnone
  rw [takeRequest]
  cases call.state.isDestroyed <;> cases joining <;> rfl

/-! ## Rounds -/

namespace Serves

variable (hbase : Lifecycle base count) (hs : base.state ≠ .destroyed)

include hbase hs

/-- In each round there is one less that waits. -/
theorem length_waiting_round (h : Serves base asked t) (hurl : w.url.isSome = true) :
    (t.run (TaskStep.round w)).waiting.length ≤ t.waiting.length - 1 := by
  have hresumed : Serves base asked (t.resume w) :=
    List.append_nil asked ▸ h.take hbase hs (.resume w)
  change ((t.resume w).takeRequest w).settle.waiting.length ≤ _
  rw [← waiting_resume t w]
  by_cases hdestroyed : (t.resume w).call.state = .destroyed
  · obtain ⟨requests, replies, rest, -, -, hfinished⟩ := hresumed.ends hbase hs hdestroyed
    obtain ⟨events, heq⟩ := hfinished.settle_eq hdestroyed
    rw [takeRequest_of_destroyed hdestroyed, heq]
    exact Nat.zero_le _
  · have htaken := waiting_takeRequest hdestroyed (joining_resume hurl t) w
    calc ((t.resume w).takeRequest w).settle.waiting.length
        ≤ ((t.resume w).takeRequest w).waiting.length := length_waiting_settle _
      _ = (t.resume w).waiting.length - 1 := by rw [htaken, List.length_tail]

/-- Where nothing waits, a round answers what is still open. -/
theorem length_replies_round (h : Serves base asked t) (hurl : w.url.isSome = true)
    (hnone : t.waiting = []) : (t.run (TaskStep.round w)).replies.length = asked.length := by
  have hresumed : Serves base asked (t.resume w) :=
    List.append_nil asked ▸ h.take hbase hs (.resume w)
  have hidle := joining_resume hurl t
  have hwaiting : (t.resume w).waiting = [] := (waiting_resume t w).trans hnone
  change ((t.resume w).takeRequest w).settle.replies.length = _
  rw [takeRequest_of_no_waiting hwaiting]
  generalize t.resume w = t' at hresumed hidle hwaiting
  cases hresumed with
  | going history rest events hasked hgoing =>
    have hrest : rest = [] := by
      have hlength := length_numbered (carried history).length rest
      rw [show numbered (carried history).length rest = [] from hwaiting] at hlength
      exact List.length_eq_zero_iff.1 hlength.symm
    rw [settle_of_going (state_run_ne_destroyed hbase hs hgoing), hasked, hrest, List.append_nil]
    exact (length_numbered 0 _).trans (length_answers base history)
  | joining history av rest events hasked hgoing hjoins => cases hidle
  | ended rest hasked hends h =>
    obtain ⟨events, heq⟩ := h.settle_eq hends.destroyed
    rw [heq, hasked, List.length_append, ← hends.length]
    exact (length_numbered 0 _).trans (by rw [List.length_append, List.length_map])

/-- A call that goes on for as many rounds as requests wait, and one more, has answered all. -/
theorem length_replies_rounds (h : Serves base asked t) (hurl : w.url.isSome = true) :
    (t.run (TaskStep.rounds w (t.waiting.length + 1))).replies.length = asked.length := by
  -- the number of requests that wait bounds the rounds but the last one
  have hrounds : ∀ count t, Serves base asked t → t.waiting.length ≤ count →
      (t.run (TaskStep.rounds w (count + 1))).replies.length = asked.length := by
    intro count
    induction count with
    | zero =>
      intro t h hcount
      have hnone : t.waiting = [] := List.length_eq_zero_iff.1 (Nat.le_zero.1 hcount)
      exact h.length_replies_round hbase hs hurl hnone
    | succ count ih =>
      intro t h hcount
      have hround := h.length_waiting_round hbase hs hurl
      have hlater : Serves base asked (t.run (TaskStep.round w)) :=
        List.append_nil asked ▸ h.run hbase hs (TaskStep.round w)
      rw [TaskStep.rounds, run_append]
      exact ih _ hlater (by omega)
  exact hrounds _ t h (Nat.le_refl _)

end Serves

/-! ## Every run -/

/-- What can be relied on with a call that runs on its own, and with the requests to it. -/
structure Dependable (base : Call) (asked : List CallRequest) (t : CallTask) : Prop where
  /-- Its name. -/
  id : t.call.id = base.id
  /-- It carries out the requests one at a time, in order. -/
  serves : Serves base asked t
  /-- It answers all of them, if it only goes on and the URL of the relay does not stay away. -/
  answers : ∀ w, w.url.isSome = true →
    (t.run (TaskStep.rounds w (t.waiting.length + 1))).replies.length = asked.length
  /-- Once it is destroyed nothing more is carried out and nothing happens to it.  The requests
  behind are turned away as it closes, and those that are made later as well. -/
  refuses : t.call.state = .destroyed → ∃ requests replies rest, asked = requests ++ rest ∧
    Ends base requests replies t.call ∧ ∀ later, (t.run later).call = t.call ∧
      Finished t.call replies (rest ++ TaskStep.asked later) (t.run later) ∧
      (t.run later).settle.closed = true ∧ (t.run later).settle.replies =
        numbered 0 (replies ++ (rest ++ TaskStep.asked later).map refusal)

theorem dependable_run (hbase : Lifecycle base count) (hs : base.state ≠ .destroyed)
    (steps : List TaskStep) :
    Dependable base (TaskStep.asked steps) ((new base).run steps) := by
  have hserves := (serves_new base).run hbase hs steps
  refine ⟨hserves.id hbase, hserves, fun w hurl => hserves.length_replies_rounds hbase hs hurl,
    fun hdestroyed => ?_⟩
  obtain ⟨requests, replies, rest, hasked, hends, hfinished⟩ := hserves.ends hbase hs hdestroyed
  refine ⟨requests, replies, rest, hasked, hends, fun later => ?_⟩
  have hlater := hfinished.run (hends.take_eq hbase) hdestroyed later
  obtain ⟨events, heq⟩ := hlater.settle_eq hdestroyed
  exact ⟨hlater.call, hlater, by rw [heq], by rw [heq]⟩

end CallTask
end GroupCall

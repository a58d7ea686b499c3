/-
# Frames leave in the order in which they came

Beside a queue a log is kept of what has happened since the queue was last cleared: the frames
that it accepted, those that it released, and how many of these were acknowledged.  Whatever is
done to the queue, the accepted frames are those that were released and behind them those that
wait.

If nothing is acknowledged that was not released, then at most one frame is on its way, and the
frames that were released are the first ones that were accepted, one more than acknowledgements.
-/
import GroupCall.Proofs.Histories
import GroupCall.Relay.SendQueue

namespace GroupCall

variable {φ : Type}

/-! ## Single operations -/

namespace SendQueue

variable {q : SendQueue φ}

/-- Whether a frame finds room: it is sent at once, or may wait. -/
def hasRoom (q : SendQueue φ) : Bool := !q.inFlight || decide (q.waiting.length < q.capacity)

theorem hasRoom_eq_false_iff :
    q.hasRoom = false ↔ q.inFlight = true ∧ q.capacity ≤ q.waiting.length := by
  simp [hasRoom]

theorem hasRoom_of_idle (h : q.inFlight = false) : q.hasRoom = true := by
  simp [hasRoom, h]

theorem hasRoom_of_lt (h : q.waiting.length < q.capacity) : q.hasRoom = true := by
  simp [hasRoom, h]

/-- A frame is sent at once if none is in flight. -/
theorem push_of_idle (h : q.inFlight = false) (frame : φ) :
    q.push frame = .ok ({ q with inFlight := true }, some frame) := by
  simp [push, h]

/-- Behind a frame in flight it waits, if it finds room. -/
theorem push_of_room (h : q.inFlight = true) (hroom : q.waiting.length < q.capacity) (frame : φ) :
    q.push frame = .ok ({ q with waiting := q.waiting ++ [frame] }, none) := by
  simp [push, h, Nat.not_le.2 hroom]

/-- A frame that finds no room is refused. -/
theorem push_of_full (h : q.inFlight = true) (hfull : q.capacity ≤ q.waiting.length) (frame : φ) :
    q.push frame = .error (.queueFull q.capacity) := by
  simp [push, h, hfull]

/-- A frame is refused exactly if it finds no room. -/
theorem push_eq_error_iff {frame : φ} {e : RelayError} :
    q.push frame = .error e ↔ e = .queueFull q.capacity ∧ q.hasRoom = false := by
  rw [hasRoom_eq_false_iff]
  cases hflight : q.inFlight with
  | false => simp [push_of_idle hflight]
  | true =>
    by_cases hfull : q.capacity ≤ q.waiting.length
    · simp [push_of_full hflight hfull, hfull, eq_comm]
    · simp [push_of_room hflight (Nat.lt_of_not_le hfull), hfull]

/-- With none waiting, an acknowledgement leaves the queue idle. -/
theorem acknowledge_of_nil (h : q.waiting = []) :
    q.acknowledge = ({ q with inFlight := false }, none) := by
  simp [acknowledge, h]

/-- Otherwise it releases the one that waited longest. -/
theorem acknowledge_of_cons {frame : φ} {rest : List φ} (h : q.waiting = frame :: rest) :
    q.acknowledge = ({ q with waiting := rest, inFlight := true }, some frame) := by
  simp [acknowledge, h]

theorem capacity_push {q' : SendQueue φ} {frame : φ} {now : Option φ}
    (h : q.push frame = .ok (q', now)) : q'.capacity = q.capacity := by
  cases hflight : q.inFlight with
  | false =>
    rw [push_of_idle hflight] at h
    cases h
    rfl
  | true =>
    by_cases hfull : q.capacity ≤ q.waiting.length
    · rw [push_of_full hflight hfull] at h
      cases h
    · rw [push_of_room hflight (Nat.lt_of_not_le hfull)] at h
      cases h
      rfl

theorem capacity_acknowledge (q : SendQueue φ) : q.acknowledge.1.capacity = q.capacity := by
  rw [acknowledge]
  split <;> rfl

end SendQueue

/-! ## What went through a queue -/

/-- Something that is done to a queue. -/
inductive QueueStep (φ : Type) where
  /-- A frame is to be sent. -/
  | push (frame : φ)
  /-- A frame was sent. -/
  | acknowledge
  /-- The queue is cleared. -/
  | clear
deriving DecidableEq, Repr

/-- Whether a step is an acknowledgement. -/
def QueueStep.isAcknowledgement : QueueStep φ → Bool
  | .acknowledge => true
  | _ => false

/-- A queue, and what went through it since it was last cleared. -/
structure QueueLog (φ : Type) where
  /-- The queue. -/
  queue : SendQueue φ
  /-- The frames that were accepted, oldest first. -/
  accepted : List φ
  /-- The frames that were released, at once or by an acknowledgement, oldest first. -/
  released : List φ
  /-- How often a frame was acknowledged. -/
  acknowledged : Nat
deriving DecidableEq, Repr

namespace QueueLog

/-- A queue without frames, and nothing in its log. -/
def new (capacity : Nat) : QueueLog φ := ⟨.new capacity, [], [], 0⟩

/-- The log after a step. -/
def take (t : QueueLog φ) : QueueStep φ → QueueLog φ
  | .push frame =>
    match t.queue.push frame with
    | .ok (queue, now) =>
      { t with
        queue := queue
        accepted := t.accepted ++ [frame]
        released := t.released ++ now.toList }
    | .error _ => t
  | .acknowledge =>
    { t with
      queue := t.queue.acknowledge.1
      released := t.released ++ t.queue.acknowledge.2.toList
      acknowledged := t.acknowledged + 1 }
  | .clear => ⟨t.queue.clear, [], [], 0⟩

/-- The log after a run. -/
def run (t : QueueLog φ) (steps : List (QueueStep φ)) : QueueLog φ := steps.foldl take t

theorem run_concat (t : QueueLog φ) (steps : List (QueueStep φ)) (step : QueueStep φ) :
    t.run (steps ++ [step]) = (t.run steps).take step := by
  simp [run]

section Steps

variable {t : QueueLog φ}

theorem take_push_of_idle (h : t.queue.inFlight = false) (frame : φ) :
    t.take (.push frame) =
      { t with
        queue := { t.queue with inFlight := true }
        accepted := t.accepted ++ [frame]
        released := t.released ++ [frame] } := by
  rw [take, SendQueue.push_of_idle h]
  rfl

theorem take_push_of_room (h : t.queue.inFlight = true)
    (hroom : t.queue.waiting.length < t.queue.capacity) (frame : φ) :
    t.take (.push frame) =
      { t with
        queue := { t.queue with waiting := t.queue.waiting ++ [frame] }
        accepted := t.accepted ++ [frame] } := by
  simp [take, SendQueue.push_of_room h hroom]

theorem take_push_of_error {frame : φ} {e : RelayError} (h : t.queue.push frame = .error e) :
    t.take (.push frame) = t := by
  rw [take, h]

theorem take_acknowledge_of_nil (h : t.queue.waiting = []) :
    t.take .acknowledge =
      { t with
        queue := { t.queue with inFlight := false }
        acknowledged := t.acknowledged + 1 } := by
  simp [take, SendQueue.acknowledge_of_nil h]

theorem take_acknowledge_of_cons {frame : φ} {rest : List φ} (h : t.queue.waiting = frame :: rest) :
    t.take .acknowledge =
      { t with
        queue := { t.queue with waiting := rest, inFlight := true }
        released := t.released ++ [frame]
        acknowledged := t.acknowledged + 1 } := by
  simp [take, SendQueue.acknowledge_of_cons h]

end Steps

/-- A frame was released and is not acknowledged yet. -/
def Underway (t : QueueLog φ) : Prop := t.acknowledged < t.released.length

/-- Only frames that are on their way are acknowledged in a run. -/
def Orderly (t : QueueLog φ) (steps : List (QueueStep φ)) : Prop :=
  Throughout (fun before step => step = .acknowledge → (t.run before).Underway) steps

variable {t : QueueLog φ} {steps : List (QueueStep φ)} {step : QueueStep φ}

/-! ## Nothing is lost -/

/-- What holds of a queue whatever is done to it. -/
structure Sound (capacity : Nat) (t : QueueLog φ) : Prop where
  /-- The capacity stays. -/
  capacity_eq : t.queue.capacity = capacity
  /-- Accepted frames were released or wait. -/
  accepted_eq : t.accepted = t.released ++ t.queue.waiting
  /-- No more frames wait than may. -/
  length_le : t.queue.waiting.length ≤ capacity
  /-- None waits for nothing. -/
  idle : t.queue.inFlight = false → t.queue.waiting = []

theorem sound_new (capacity : Nat) : Sound capacity (new capacity : QueueLog φ) :=
  ⟨rfl, rfl, Nat.zero_le _, fun _ => rfl⟩

theorem Sound.push {capacity : Nat} (h : t.Sound capacity) (frame : φ) :
    (t.take (.push frame)).Sound capacity := by
  cases hflight : t.queue.inFlight with
  | false =>
    rw [take_push_of_idle hflight]
    have hidle := h.idle hflight
    exact ⟨h.capacity_eq, by simp [h.accepted_eq, hidle], h.length_le, fun _ => hidle⟩
  | true =>
    by_cases hfull : t.queue.capacity ≤ t.queue.waiting.length
    · rw [take_push_of_error (SendQueue.push_of_full hflight hfull frame)]
      exact h
    · have hroom := Nat.lt_of_not_le hfull
      rw [take_push_of_room hflight hroom]
      rw [h.capacity_eq] at hroom
      refine ⟨h.capacity_eq, by simp [h.accepted_eq], ?_, fun hidle => ?_⟩
      · rwa [List.length_append, List.length_singleton]
      · cases hflight.symm.trans hidle

theorem Sound.acknowledge {capacity : Nat} (h : t.Sound capacity) :
    (t.take .acknowledge).Sound capacity := by
  cases hwaiting : t.queue.waiting with
  | nil =>
    rw [take_acknowledge_of_nil hwaiting]
    exact ⟨h.capacity_eq, by simp [h.accepted_eq], h.length_le, fun _ => hwaiting⟩
  | cons frame rest =>
    have hlength := h.length_le
    rw [hwaiting, List.length_cons] at hlength
    rw [take_acknowledge_of_cons hwaiting]
    exact ⟨h.capacity_eq, by simp [h.accepted_eq, hwaiting], Nat.le_of_succ_le hlength,
      fun hidle => by cases hidle⟩

/-- A queue that is cleared is like a new one. -/
theorem Sound.take_clear {capacity : Nat} (h : t.Sound capacity) :
    t.take .clear = new capacity := by
  rw [QueueLog.take, SendQueue.clear, h.capacity_eq]
  rfl

theorem Sound.take {capacity : Nat} (h : t.Sound capacity) (step : QueueStep φ) :
    (t.take step).Sound capacity := by
  cases step with
  | push frame => exact h.push frame
  | acknowledge => exact h.acknowledge
  | clear =>
    rw [h.take_clear]
    exact sound_new capacity

theorem Sound.run {capacity : Nat} (h : t.Sound capacity) (steps : List (QueueStep φ)) :
    (t.run steps).Sound capacity := by
  induction steps generalizing t with
  | nil => exact h
  | cons step rest ih => exact ih (h.take step)

/-- A frame is refused exactly if one is in flight and as many wait as may. -/
theorem Sound.push_eq_error_iff {capacity : Nat} (h : t.Sound capacity) {frame : φ}
    {e : RelayError} :
    t.queue.push frame = .error e ↔
      e = .queueFull capacity ∧ t.queue.inFlight = true ∧ t.queue.waiting.length = capacity := by
  have hle := h.length_le
  rw [SendQueue.push_eq_error_iff, SendQueue.hasRoom_eq_false_iff, h.capacity_eq]
  refine and_congr_right fun _ => and_congr_right fun _ => ?_
  omega

/-! ## One frame at a time -/

/-- At most one frame is on its way, and the queue knows whether one is. -/
structure Paced (t : QueueLog φ) : Prop where
  /-- Only frames that were released were acknowledged. -/
  acknowledged_le : t.acknowledged ≤ t.released.length
  /-- At most one of them is not. -/
  length_le : t.released.length ≤ t.acknowledged + 1
  /-- The queue knows whether one is not. -/
  inFlight_iff : t.queue.inFlight = true ↔ t.Underway

theorem paced_new (capacity : Nat) : (new capacity : QueueLog φ).Paced :=
  ⟨Nat.le_refl _, Nat.zero_le _, by simp [new, SendQueue.new, Underway]⟩

theorem Paced.push (h : t.Paced) (frame : φ) : (t.take (.push frame)).Paced := by
  have hle := h.acknowledged_le
  have hiff := h.inFlight_iff
  cases hflight : t.queue.inFlight with
  | false =>
    have hnone : t.released.length = t.acknowledged := by
      rw [hflight, Underway] at hiff
      simp only [Bool.false_eq_true, false_iff, Nat.not_lt] at hiff
      omega
    rw [take_push_of_idle hflight]
    refine ⟨?_, ?_, ?_⟩ <;> simp [Underway, hnone]
  | true =>
    by_cases hfull : t.queue.capacity ≤ t.queue.waiting.length
    · rw [take_push_of_error (SendQueue.push_of_full hflight hfull frame)]
      exact h
    · rw [take_push_of_room hflight (Nat.lt_of_not_le hfull)]
      exact ⟨hle, h.length_le, hiff⟩

/-- An acknowledgement of the frame on its way makes room for the next one. -/
theorem Paced.acknowledge (h : t.Paced) (hdue : t.Underway) : (t.take .acknowledge).Paced := by
  have hone : t.released.length = t.acknowledged + 1 := by
    have := h.length_le
    rw [Underway] at hdue
    omega
  cases hwaiting : t.queue.waiting with
  | nil =>
    rw [take_acknowledge_of_nil hwaiting]
    refine ⟨?_, ?_, ?_⟩ <;> simp [Underway, hone]
  | cons frame rest =>
    rw [take_acknowledge_of_cons hwaiting]
    refine ⟨?_, ?_, ?_⟩ <;> simp [Underway, hone]

theorem Paced.take (h : t.Paced) (hdue : step = .acknowledge → t.Underway) :
    (t.take step).Paced := by
  cases step with
  | push frame => exact h.push frame
  | acknowledge => exact h.acknowledge (hdue rfl)
  | clear =>
    refine ⟨Nat.le_refl _, Nat.zero_le _, ?_⟩
    simp [QueueLog.take, SendQueue.clear, Underway]

theorem Paced.run (h : t.Paced) (horderly : t.Orderly steps) : (t.run steps).Paced := by
  induction steps using List.reverseRecOn with
  | nil => exact h
  | append_singleton steps step ih =>
    obtain ⟨hbefore, hdue⟩ := throughout_concat.1 horderly
    rw [run_concat]
    exact (ih hbefore).take hdue

/-- The first frames that were accepted were released, one more than acknowledgements. -/
theorem Sound.released_eq {capacity : Nat} (h : t.Sound capacity) (hpaced : t.Paced) :
    t.released = t.accepted.take (t.acknowledged + 1) := by
  rw [h.accepted_eq]
  cases hflight : t.queue.inFlight with
  | false =>
    rw [h.idle hflight, List.append_nil, List.take_of_length_le hpaced.length_le]
  | true =>
    have hdue : t.acknowledged + 1 ≤ t.released.length := hpaced.inFlight_iff.1 hflight
    rw [Nat.le_antisymm hdue hpaced.length_le, List.take_left]

/-! ## Frames that wait are released -/

/-- To push a frame withdraws nothing. -/
theorem released_push (t : QueueLog φ) (frame : φ) :
    t.accepted <+: (t.take (.push frame)).accepted ∧
      t.released.length ≤ (t.take (.push frame)).released.length := by
  rw [take]
  split
  · exact ⟨List.prefix_append _ _, by simp⟩
  · exact ⟨List.prefix_rfl, Nat.le_refl _⟩

/-- While the queue is not cleared, every acknowledgement releases one more of the frames that
were accepted. -/
theorem Sound.released_run {capacity : Nat} (h : t.Sound capacity) {more : List (QueueStep φ)}
    (hkept : .clear ∉ more) :
    t.accepted <+: (t.run more).accepted ∧
      min t.accepted.length (t.released.length + more.countP QueueStep.isAcknowledgement) ≤
        (t.run more).released.length := by
  induction more using List.reverseRecOn with
  | nil => exact ⟨List.prefix_rfl, Nat.min_le_right _ _⟩
  | append_singleton more step ih =>
    rw [List.mem_append, not_or] at hkept
    obtain ⟨hgrown, hreleased⟩ := ih hkept.1
    rw [run_concat, List.countP_append]
    cases step with
    | push frame =>
      obtain ⟨haccepted, hlength⟩ := released_push (t.run more) frame
      exact ⟨hgrown.trans haccepted, Nat.le_trans hreleased hlength⟩
    | acknowledge =>
      have hparts := congrArg List.length (h.run more).accepted_eq
      have hlength := hgrown.length_le
      rw [List.length_append] at hparts
      refine ⟨hgrown, ?_⟩
      cases hwaiting : (t.run more).queue.waiting with
      | nil =>
        -- all that was accepted is released already
        rw [hwaiting, List.length_nil] at hparts
        rw [take_acknowledge_of_nil hwaiting]
        dsimp only
        omega
      | cons frame rest =>
        rw [take_acknowledge_of_cons hwaiting]
        simp only [List.length_append, List.countP_singleton, List.length_singleton,
          QueueStep.isAcknowledgement, if_true]
        omega
    | clear => simp at hkept

/-- After as many acknowledgements as frames waited, all that was accepted is released. -/
theorem Sound.accepted_released {capacity : Nat} (h : t.Sound capacity)
    {more : List (QueueStep φ)} (hkept : .clear ∉ more)
    (henough : t.queue.waiting.length ≤ more.countP QueueStep.isAcknowledgement) :
    t.accepted <+: (t.run more).released := by
  obtain ⟨hgrown, hreleased⟩ := h.released_run hkept
  have hlater : (t.run more).released <+: (t.run more).accepted := by
    rw [(h.run more).accepted_eq]
    exact List.prefix_append _ _
  have hparts := congrArg List.length h.accepted_eq
  rw [List.length_append] at hparts
  refine List.prefix_of_prefix_length_le hgrown hlater ?_
  omega

/-- **A bounded queue, first in, first out.**  Whatever was done to a queue, the frames that it
has accepted since it was cleared are those that it released, in order, and behind them those
that wait; no more wait than may, and none while nothing is in flight.  A frame is refused exactly
if one is in flight and as many wait as may, and then nothing changes.  A queue that is cleared is
like a new one.  After as many acknowledgements as frames waited, all that was accepted is
released.  If nothing was acknowledged that was not on its way, then at most one frame is on its
way, the queue knows whether one is, and one more of the accepted frames was released than
acknowledged, as far as there are any. -/
theorem fifo_along_runs (capacity : Nat) (steps : List (QueueStep φ)) :
    let t := (new capacity).run steps
    t.accepted = t.released ++ t.queue.waiting ∧
    t.queue.waiting.length ≤ capacity ∧
    (t.queue.waiting ≠ [] → t.queue.inFlight = true) ∧
    (∀ frame e, t.queue.push frame = .error e ↔
      e = .queueFull capacity ∧ t.queue.inFlight = true ∧ t.queue.waiting.length = capacity) ∧
    (∀ frame e, t.queue.push frame = .error e → t.take (.push frame) = t) ∧
    t.take .clear = new capacity ∧
    (∀ more, .clear ∉ more →
      t.queue.waiting.length ≤ more.countP QueueStep.isAcknowledgement →
      t.accepted <+: (t.run more).released) ∧
    ((new capacity).Orderly steps →
      t.acknowledged ≤ t.released.length ∧ t.released.length ≤ t.acknowledged + 1 ∧
      (t.queue.inFlight = true ↔ t.acknowledged < t.released.length) ∧
      t.released = t.accepted.take (t.acknowledged + 1)) := by
  intro t
  have h : t.Sound capacity := (sound_new capacity).run steps
  refine ⟨h.accepted_eq, h.length_le, fun hwaiting => ?_, fun frame e => h.push_eq_error_iff,
    fun frame e hrefused => take_push_of_error hrefused, h.take_clear,
    fun more hkept henough => h.accepted_released hkept henough, fun horderly => ?_⟩
  · by_contra hidle
    exact hwaiting (h.idle (Bool.eq_false_iff.2 hidle))
  · have hpaced : t.Paced := (paced_new capacity).run horderly
    exact ⟨hpaced.acknowledged_le, hpaced.length_le, hpaced.inFlight_iff, h.released_eq hpaced⟩

/-- With room for one, the third frame is refused and the second one waits its turn. -/
example :
    ((new 1).run [.push 'a', .push 'b', .push 'c', .acknowledge]).released = ['a', 'b'] := by
  decide

end QueueLog
end GroupCall

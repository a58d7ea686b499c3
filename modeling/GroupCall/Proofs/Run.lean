/-
# Runs of a call

A call is taken through requests of the application, events of relay connections, its
cancellation and frames of its tracks, in any order.  What surrounds it may be different at
every step, so a run also says which keys are known, which random values are drawn and what
fails.  What every step keeps holds along all runs.
-/
import GroupCall.Call.Delivery
import GroupCall.Call.Media
import GroupCall.Proofs.Operations

namespace GroupCall

/-- Something that happens to a call. -/
inductive CallStep where
  /-- The application asks for something. -/
  | request (request : CallRequest)
  /-- A relay connection has news. -/
  | event (event : RelayEvent)
  /-- What the call still does is given up. -/
  | cancel
  /-- A frame passes through the track at a place. -/
  | frame (place : Nat) (bytes : List UInt8)
deriving DecidableEq, Repr

namespace Call

/-- The call after a step. -/
def take (c : Call) (w : Surroundings) : CallStep → Call
  | .request request => (c.perform w request).1
  | .event event => c.onRelayEvent w event
  | .cancel => c.cancel
  | .frame place bytes => (c.handleFrame place bytes).1

/-- The call after a run. -/
def run (c : Call) (steps : List (Surroundings × CallStep)) : Call :=
  steps.foldl (fun c step => c.take step.1 step.2) c

@[simp] theorem run_nil (c : Call) : c.run [] = c := rfl

theorem run_append (c : Call) (first second : List (Surroundings × CallStep)) :
    c.run (first ++ second) = (c.run first).run second := by
  simp [run]

/-- What every step keeps holds after every run. -/
theorem run_invariant {P : Call → Prop} (hstep : ∀ c w step, P c → P (c.take w step)) {c : Call}
    (h : P c) (steps : List (Surroundings × CallStep)) : P (c.run steps) := by
  induction steps generalizing c with
  | nil => exact h
  | cons step rest ih => exact ih (hstep c step.1 step.2 h)

end Call
end GroupCall

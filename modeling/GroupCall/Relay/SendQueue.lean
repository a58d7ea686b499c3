/-
# Frames that wait for the socket

At most one frame is handed to the socket at a time.  The others wait, up to a capacity, and
each is released by the acknowledgement of the one before it.
-/
import GroupCall.Relay.Error

namespace GroupCall

/-- Frames that wait behind the one that is being sent. -/
structure SendQueue (φ : Type) where
  /-- The frames that wait, oldest first. -/
  waiting : List φ
  /-- Whether a frame is being sent. -/
  inFlight : Bool
  /-- How many frames may wait. -/
  capacity : Nat
deriving DecidableEq, Repr

namespace SendQueue

variable {φ : Type}

/-- A queue without frames. -/
def new (capacity : Nat) : SendQueue φ := ⟨[], false, capacity⟩

/-- Adds a frame; gives it back if it can be sent at once. -/
def push (q : SendQueue φ) (frame : φ) : Except RelayError (SendQueue φ × Option φ) :=
  if q.inFlight then
    if q.capacity ≤ q.waiting.length then .error (.queueFull q.capacity)
    else .ok ({ q with waiting := q.waiting ++ [frame] }, none)
  else .ok ({ q with inFlight := true }, some frame)

/-- Takes note that the frame was sent; gives the next one to send. -/
def acknowledge (q : SendQueue φ) : SendQueue φ × Option φ :=
  match q.waiting with
  | [] => ({ q with inFlight := false }, none)
  | frame :: rest => ({ q with waiting := rest, inFlight := true }, some frame)

/-- How many frames wait. -/
def size (q : SendQueue φ) : Nat := q.waiting.length

/-- Whether no frame waits or is being sent. -/
def isEmpty (q : SendQueue φ) : Bool := q.waiting.isEmpty && !q.inFlight

/-- Forgets every frame, also the one that is being sent. -/
def clear (q : SendQueue φ) : SendQueue φ := { q with waiting := [], inFlight := false }

end SendQueue
end GroupCall

/-
# Operations

What is asked of a call is done step by step, and every step may fail.  Then nothing more is done,
and what the steps before have changed stays changed.  Handing a request to the relay connection
is one of these steps: whether it is accepted shows only as it is handed over.
-/
import GroupCall.Call.Basic

namespace GroupCall

/-- Something that is done to a call and may fail. -/
abbrev Operation (α : Type) := ExceptT CallError (StateM Call) α

namespace Operation

variable {α : Type}

/-- Demands something of the call, which stays as it is. -/
def demand (condition : Call → Except CallError α) : Operation α := do
  MonadExcept.ofExcept (condition (← get))

/-- Does what may fail as a whole. -/
def step (f : Call → Call × Except CallError α) : Operation α :=
  ExceptT.mk fun c => (f c).swap

/-- Hands a request to a relay connection, which has to accept it. -/
def handTo (w : Surroundings) (relay : Nat) (request : RelayRequest) : Operation Unit :=
  match w.answer request with
  | .ok () => modify fun c => c.post relay request
  | .error e => throw (.connection e)

/-- Hands a request to our relay connection. -/
def hand (w : Surroundings) (request : RelayRequest) : Operation Unit := do
  let relay ← demand Call.requireRelay
  handTo w relay request

end Operation

namespace Call

variable {α β : Type}

/-- The call after an operation, and its outcome. -/
def attempt (c : Call) (operation : Operation α) : Call × Except CallError α :=
  (operation.run.run c).swap

@[simp] theorem attempt_pure (c : Call) (a : α) : c.attempt (pure a) = (c, .ok a) := rfl

@[simp] theorem attempt_throw (c : Call) (e : CallError) :
    c.attempt (throw e : Operation α) = (c, .error e) := rfl

@[simp] theorem attempt_get (c : Call) : c.attempt get = (c, .ok c) := rfl

@[simp] theorem attempt_modify (c : Call) (f : Call → Call) :
    c.attempt (modify f) = (f c, .ok ()) := rfl

/-- What comes next is done only if nothing failed before. -/
theorem attempt_bind (c : Call) (operation : Operation α) (next : α → Operation β) :
    c.attempt (operation >>= next) =
      match c.attempt operation with
      | (d, .ok a) => d.attempt (next a)
      | (d, .error e) => (d, .error e) := by
  simp only [attempt, ExceptT.run_bind, StateT.run_bind]
  cases StateT.run (ExceptT.run operation) c with
  | mk outcome d => cases outcome <;> rfl

@[simp] theorem attempt_demand (c : Call) (condition : Call → Except CallError α) :
    c.attempt (Operation.demand condition) = (c, condition c) := by
  rw [Operation.demand, attempt_bind, attempt_get]
  dsimp only
  cases condition c <;> rfl

@[simp] theorem attempt_step (c : Call) (f : Call → Call × Except CallError α) :
    c.attempt (Operation.step f) = f c := rfl

theorem attempt_handTo (c : Call) (w : Surroundings) (relay : Nat) (request : RelayRequest) :
    c.attempt (Operation.handTo w relay request) =
      match w.answer request with
      | .ok () => (c.post relay request, .ok ())
      | .error e => (c, .error (.connection e)) := by
  rw [Operation.handTo]
  split <;> rfl

end Call
end GroupCall

/-
# The stages of a call

Where our participation in a call stands, and how it may move on.  Stages are passed forward
only, with two exceptions: a participation may end early, and it may fall back to waiting
for the relay while the link is set up again.
-/

namespace GroupCall

/-- Where our participation in a call stands. -/
inductive CallState where
  /-- The call is known, and nothing has been done. -/
  | initial
  /-- The call exists, and we are not in it. -/
  | clientNotParticipating
  /-- We wait for the relay connection. -/
  | connecting
  /-- We have asked to join and wait for the answer. -/
  | joining
  /-- We are in the call. -/
  | inProgress
  /-- We are leaving. -/
  | terminatingParticipation
  /-- Everything is released, for good. -/
  | destroyed
deriving DecidableEq, Repr, Inhabited

/-- A step between stages that does not exist. -/
structure InvalidTransition where
  /-- The stage to leave. -/
  source : CallState
  /-- The stage to enter. -/
  target : CallState
deriving DecidableEq, Repr

namespace CallState

/-- The name of a stage. -/
def name : CallState → String
  | .initial => "Initial"
  | .clientNotParticipating => "ClientNotParticipating"
  | .connecting => "Connecting"
  | .joining => "Joining"
  | .inProgress => "InProgress"
  | .terminatingParticipation => "TerminatingParticipation"
  | .destroyed => "Destroyed"

/-- All stages. -/
def all : List CallState :=
  [.initial, .clientNotParticipating, .connecting, .joining, .inProgress,
    .terminatingParticipation, .destroyed]

/-- The stage of a name. -/
def ofName? (name : String) : Option CallState := all.find? fun s => s.name = name

/-- Whether we take part or are about to. -/
def isParticipating : CallState → Bool
  | .connecting => true
  | .joining => true
  | .inProgress => true
  | _ => false

/-- Whether we can join. -/
def canJoin : CallState → Bool
  | .initial => true
  | .clientNotParticipating => true
  | _ => false

/-- Whether everything is released. -/
def isDestroyed : CallState → Bool
  | .destroyed => true
  | _ => false

/-- The steps that exist. -/
def canTransition : CallState → CallState → Bool
  | .destroyed, _ => false
  | _, .destroyed => true
  | .initial, .clientNotParticipating => true
  | .initial, .connecting => true
  | .clientNotParticipating, .connecting => true
  | .connecting, .joining => true
  | .connecting, .clientNotParticipating => true
  | .connecting, .terminatingParticipation => true
  | .joining, .inProgress => true
  | .joining, .connecting => true
  | .joining, .clientNotParticipating => true
  | .joining, .terminatingParticipation => true
  | .inProgress, .connecting => true
  | .inProgress, .clientNotParticipating => true
  | .inProgress, .terminatingParticipation => true
  | .terminatingParticipation, .clientNotParticipating => true
  | _, _ => false

/-- Goes to another stage. -/
def transition (s next : CallState) : Except InvalidTransition CallState :=
  if s.canTransition next then .ok next else .error ⟨s, next⟩

end CallState

/-- A refused step in words. -/
def InvalidTransition.message (t : InvalidTransition) : String :=
  "invalid transition " ++ t.source.name ++ " -> " ++ t.target.name

end GroupCall

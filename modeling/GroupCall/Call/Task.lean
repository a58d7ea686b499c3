/-
# A call that runs on its own

Requests and the news of relay connections wait for a call in two queues, and the call takes
them one at a time.  Requests are numbered in the order in which they are accepted, and
every answer goes to the number of its request.  A request to join waits for the URL of the
relay, and nothing else is taken meanwhile; giving up the call ends the waiting.  Once a call
is destroyed it takes nothing any more.  What it was asked before it closes still waits then,
and is turned away as it closes.
-/
import GroupCall.Call.Delivery

namespace GroupCall

/-- A call with what waits for it. -/
structure CallTask where
  /-- The call. -/
  call : Call
  /-- How many requests were made. -/
  made : Nat
  /-- The requests that wait, with their numbers, oldest first. -/
  waiting : List (Nat × CallRequest)
  /-- The events of relay connections that wait, oldest first. -/
  events : List RelayEvent
  /-- The request to join that waits for the URL of the relay. -/
  joining : Option Nat
  /-- Whether requests are turned away. -/
  closed : Bool
  /-- The answers, first one first. -/
  replies : List (Nat × Except CallError CallReply)

namespace CallTask

/-- A call that begins to run. -/
def new (call : Call) : CallTask := ⟨call, 0, [], [], none, false, []⟩

/-- Answers a request. -/
def answer (t : CallTask) (number : Nat) (reply : Except CallError CallReply) : CallTask :=
  { t with replies := t.replies ++ [(number, reply)] }

/-- The answer of a request, if there is one. -/
def reply? (t : CallTask) (number : Nat) : Option (Except CallError CallReply) :=
  (t.replies.find? fun r => r.1 = number).map Prod.snd

/-- What a request is answered that comes too late. -/
def refusal : CallRequest → Except CallError CallReply
  | .destroy => .ok .done
  | _ => .error .closed

/-- Turns away every request that waits. -/
def turnAway (t : CallTask) : CallTask :=
  t.waiting.foldl (fun t r => t.answer r.1 (refusal r.2)) { t with waiting := [] }

/-- Closes a call that was destroyed. -/
def settle (t : CallTask) : CallTask :=
  if t.call.state.isDestroyed && !t.closed then { t with closed := true }.turnAway else t

/-- Whether a request gives up what the call still does. -/
def interrupts : CallRequest → Bool
  | .destroy => true
  | _ => false

/-- Takes a request in, or turns it away; its number is how many were made before. -/
def accept (t : CallTask) (request : CallRequest) : CallTask :=
  let number := t.made
  let t := { t with made := number + 1 }
  if t.closed then t.answer number (refusal request)
  else { t with waiting := t.waiting ++ [(number, request)] }

/-- Makes a request. -/
def submit (t : CallTask) (request : CallRequest) : CallTask :=
  (if interrupts request then { t with call := t.call.cancel } else t).accept request

/-- Delivers an event of a relay connection. -/
def deliver (t : CallTask) (event : RelayEvent) : CallTask :=
  if t.closed then t else { t with events := t.events ++ [event] }

/-- Replaces the call after something was done to it, and answers the request for it. -/
def conclude (t : CallTask) (number : Nat) (outcome : Call × Except CallError CallReply) :
    CallTask :=
  { t with call := outcome.1 }.answer number outcome.2

/-- Carries out a request.  A request to join only begins to. -/
def carryOut (t : CallTask) (w : Surroundings) (number : Nat) : CallRequest → CallTask
  | .join av =>
    match t.call.beginJoin av with
    | (call, .ok ()) => { t with call := call, joining := some number }
    | (call, .error e) => t.conclude number (call, .error e)
  | request => t.conclude number (t.call.perform w request)

/-- Takes the oldest request. -/
def takeRequest (t : CallTask) (w : Surroundings) : CallTask :=
  match t.call.state.isDestroyed, t.joining, t.waiting with
  | false, none, (number, request) :: rest =>
    { t with waiting := rest }.carryOut w number request
  | _, _, _ => t

/-- Takes the oldest event. -/
def takeEvent (t : CallTask) (w : Surroundings) : CallTask :=
  match t.call.state.isDestroyed, t.joining, t.events with
  | false, none, event :: rest => { t with call := t.call.onRelayEvent w event, events := rest }
  | _, _, _ => t

/-- Destroys a call that nobody can make requests to any more, once none waits. -/
def abandon (t : CallTask) : CallTask :=
  match t.call.state.isDestroyed, t.joining, t.waiting with
  | false, none, [] => { t with call := t.call.destroy }
  | _, _, _ => t

/-- Goes on with joining, if the URL of the relay is known or the call was given up. -/
def resume (t : CallTask) (w : Surroundings) : CallTask :=
  match t.joining with
  | none => t
  | some number =>
    let t' := { t with joining := none }
    match w.url with
    | some answer => t'.conclude number (Call.answered (t.call.connect w answer) fun _ => .done)
    | none => if t.call.cancelled then t'.conclude number (t.call, .error .closed) else t

end CallTask
end GroupCall

/-
# The calls of a client

A registry of running calls by name.  A name has at most one running call: whoever creates a
call that runs already is given that one.  A call that has ended is taken out of the
registry later on, and only if no newer call of the same name is registered by then.
-/
import GroupCall.Call.Task

namespace GroupCall

/-- The calls of a client. -/
structure CallManager where
  /-- Our user. -/
  us : UserId
  /-- Our long-term secret. -/
  secret : IdentitySecret
  /-- How calls are set up. -/
  config : CallConfig
  /-- Every call that was ever started, by the place that is its handle. -/
  tasks : List CallTask
  /-- The handles of the registered calls. -/
  registry : Table CallId Nat

namespace CallManager

/-- A client without calls. -/
def new (us : UserId) (secret : IdentitySecret) (config : CallConfig) : CallManager :=
  ⟨us, secret, config, [], .empty⟩

/-- The call of a handle. -/
def task? (m : CallManager) (handle : Nat) : Option CallTask := m.tasks[handle]?

/-- Changes the call of a handle. -/
def modify (m : CallManager) (handle : Nat) (f : CallTask → CallTask) : CallManager :=
  { m with tasks := m.tasks.modify handle f }

/-- Whether the call of a handle turns requests away. -/
def isClosed (m : CallManager) (handle : Nat) : Bool :=
  match m.task? handle with
  | some task => task.closed
  | none => true

/-- The handle of a name. -/
def get? (m : CallManager) (id : CallId) : Option Nat := m.registry.get? id

/-- The names of the registered calls, ascending. -/
def ids (m : CallManager) : List CallId := m.registry.keys

/-- The handle of a registered call that still runs. -/
def running? (m : CallManager) (id : CallId) : Option Nat :=
  (m.get? id).filter fun handle => !m.isClosed handle

/-- Creates a call and gives its handle, or the handle of the one that runs. -/
def create (m : CallManager) (id : CallId) (chat : ChatId) (callKey : Option MediaKey) :
    CallManager × Nat :=
  match m.running? id with
  | some handle => (m, handle)
  | none =>
    let task := CallTask.new (.new id chat m.us m.config m.secret callKey)
    let handle := m.tasks.length
    ({ m with tasks := m.tasks ++ [task], registry := m.registry.insert id handle }, handle)

/-- Makes a request to a call. -/
def submit (m : CallManager) (handle : Nat) (request : CallRequest) : CallManager :=
  m.modify handle fun task => task.submit request

/-- Takes a call out of the registry and destroys it; gives its handle. -/
def destroyCall (m : CallManager) (id : CallId) : CallManager × Except CallError Nat :=
  match m.get? id with
  | none => (m, .error (.notFound ("call " ++ id.name)))
  | some handle => ({ m with registry := m.registry.erase id }.submit handle .destroy, .ok handle)

/-- Takes every call out of the registry and destroys it. -/
def shutdown (m : CallManager) : CallManager :=
  m.registry.values.foldl (fun m handle => m.submit handle .destroy)
    { m with registry := .empty }

/-- Takes a call that has ended out of the registry, unless its name has a newer one that
runs. -/
def sweep (m : CallManager) (handle : Nat) : CallManager :=
  match m.task? handle with
  | none => m
  | some task =>
    match m.get? task.call.id with
    | none => m
    | some registered =>
      if task.closed && m.isClosed registered then
        { m with registry := m.registry.erase task.call.id }
      else m

end CallManager
end GroupCall

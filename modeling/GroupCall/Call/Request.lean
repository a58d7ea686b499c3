/-
# What the application asks of a call

Every request is answered by a value or by an error.  Except for joining and for a change of
our own flags, everything that can refuse a request comes before anything that it changes,
so a refused request leaves the call as it was.
-/
import GroupCall.Call.Distribution
import GroupCall.Call.Participation

namespace GroupCall

/-- What the application asks of a call. -/
inductive CallRequest where
  /-- Take part, sending what the flags say. -/
  | join (av : AvFlags)
  /-- Leave. -/
  | hangup
  /-- Stop reconnecting. -/
  | abortReconnect
  /-- Ask to speak, or withdraw that. -/
  | requestSpeaker (add : Bool)
  /-- Grant or deny what a participant asks for. -/
  | approveSpeakRequest (cid : Cid) (allow : Bool)
  /-- Stop a speaker; zero stands for us. -/
  | stopSpeak (cid : Cid)
  /-- Ask for a high resolution stream. -/
  | getHires (cid : Cid) (quality : UInt8)
  /-- Give up high resolution streams. -/
  | delHires (cids : List Cid)
  /-- Ask for low resolution streams. -/
  | getVthumbs (cids : List Cid)
  /-- Give up low resolution streams. -/
  | delVthumbs (cids : List Cid)
  /-- Ask for another quality of a high resolution stream. -/
  | setHiresQuality (cid : Cid) (quality : UInt8)
  /-- Ask for other layers. -/
  | setLayer (spatial temporal screenTemporal : UInt8)
  /-- Change what we send. -/
  | updateAv (av : AvFlags)
  /-- Make a new media key. -/
  | rotateKey
  /-- A user takes part. -/
  | addParticipant (user : UserId)
  /-- A user no longer takes part. -/
  | removeParticipant (user : UserId)
  /-- Show the call. -/
  | snapshot
  /-- Release everything, for good. -/
  | destroy
deriving DecidableEq, Repr

/-- What a request is answered. -/
inductive CallReply where
  /-- It was carried out. -/
  | done
  /-- A new media key has this number. -/
  | newKey (id : KeyId)
  /-- Whether anything changed. -/
  | changed (b : Bool)
  /-- The call as it is. -/
  | seen (snapshot : CallSnapshot)
deriving DecidableEq, Repr

namespace Call

open Operation (demand hand)

/-! ## Commands to the relay -/

/-- Finds a command and sends it, while we are in the call, and does something then. -/
def command (w : Surroundings) (operation : String)
    (find : Call → Except CallError OutboundCommand) (follow : Call → Call) : Operation Unit := do
  demand (·.require operation .inProgress)
  let command ← demand find
  hand w (.send command)
  modify follow

/-- Finds a command and sends it, if we are a moderator, and does something then. -/
def moderate (w : Surroundings) (operation : String)
    (find : Call → Except CallError OutboundCommand) (follow : Call → Call) : Operation Unit := do
  demand requireModerator
  command w operation find follow

/-! ## Speaking -/

/-- Asks to speak, or withdraws that. -/
def requestSpeaker (c : Call) (w : Surroundings) (add : Bool) : Call × Except CallError Unit :=
  c.attempt <|
    if add then
      command w "request_speaker" (fun _ => .ok (.speakRequest none)) fun c =>
        if c.speaker = .none then c.setSpeaker .pending else c
    else
      command w "request_speaker" (fun _ => .ok (.speakRequestDel none)) fun c =>
        if c.speaker = .pending then c.setSpeaker .none else c

/-- Grants or denies what a participant asks for. -/
def approveSpeakRequest (c : Call) (w : Surroundings) (cid : Cid) (allow : Bool) :
    Call × Except CallError Unit :=
  let granted := if allow then .speakRequest (some cid) else .speakRequestDel (some cid)
  c.attempt <|
    moderate w "approve_speak_request" (fun c => (c.requireSession cid).map fun _ => granted)
      fun c => c.setSpeakRequested cid false

/-- Stops a speaker: us, if the number is zero or ours.  Stopping others is for moderators. -/
def stopSpeak (c : Call) (w : Surroundings) (cid : Cid) : Call × Except CallError Unit :=
  c.attempt <|
    if cid = 0 ∨ c.isUs cid then
      command w "stop_speak" (fun _ => .ok (.speakerDel none)) fun c =>
        (c.setSpeaker .none).applyLocalAv
    else
      moderate w "stop_speak" (fun c => (c.requireSession cid).map fun _ => .speakerDel (some cid))
        fun c => c

/-! ## Watching -/

/-- Asks for a high resolution stream; a participant that we already see may keep its
track. -/
def getHires (c : Call) (w : Surroundings) (cid : Cid) (quality : UInt8) :
    Call × Except CallError Unit :=
  c.attempt <|
    command w "request_high_resolution_video" (fun c => (c.requireSession cid).map fun session =>
      .getHires cid session.vthumbSlot.isSome quality) fun c => c

/-- Takes a role from participants. -/
def releaseRoles (c : Call) (role : SlotRole) (cids : List Cid) : Call :=
  cids.foldl (fun c cid => (c.releaseRole cid role).1) c

/-- Gives up high resolution streams. -/
def delHires (c : Call) (w : Surroundings) (cids : List Cid) : Call × Except CallError Unit :=
  c.attempt <|
    command w "stop_high_resolution_video" (fun _ => .ok (.delHires cids)) fun c =>
      c.releaseRoles .hires cids

/-- Asks for low resolution streams. -/
def getVthumbs (c : Call) (w : Surroundings) (cids : List Cid) : Call × Except CallError Unit :=
  c.attempt <|
    command w "request_low_resolution_video" (fun _ => .ok (.getVthumbs cids)) fun c => c

/-- Gives up low resolution streams. -/
def delVthumbs (c : Call) (w : Surroundings) (cids : List Cid) : Call × Except CallError Unit :=
  c.attempt <|
    command w "stop_low_resolution_video" (fun _ => .ok (.delVthumbs cids)) fun c =>
      c.releaseRoles .vthumb cids

/-- Asks for another quality of a high resolution stream. -/
def setHiresQuality (c : Call) (w : Surroundings) (cid : Cid) (quality : UInt8) :
    Call × Except CallError Unit :=
  c.attempt <|
    command w "request_hires_quality" (fun _ => .ok (.hiresSetLo cid quality)) fun c => c

/-- Asks for other layers. -/
def setLayer (c : Call) (w : Surroundings) (spatial temporal screenTemporal : UInt8) :
    Call × Except CallError Unit :=
  c.attempt <|
    command w "set_layer" (fun _ => .ok (.layer spatial temporal screenTemporal)) fun c => c

/-! ## Ourselves and the users -/

/-- Demands that the call is not over. -/
def requireOpen (c : Call) : Except CallError Unit :=
  if c.state.isDestroyed then .error .closed else .ok ()

/-- Changes what we send.  The relay is told while we are in the call. -/
def updateAv (c : Call) (w : Surroundings) (av : AvFlags) : Call × Except CallError Unit :=
  c.attempt do
    demand requireOpen
    modify fun c => { c with av := av }.applyLocalAv
    if (← get).state = .inProgress then hand w (.send (.av av))

/-- Adds a user; says whether it is new. -/
def addParticipant (c : Call) (user : UserId) : Call × Except CallError Bool :=
  c.attempt do
    demand requireOpen
    if (← get).participants.contains user then return false
    else
      modify fun c =>
        { c with participants := c.participants.insert user () }.tell (.participantAdded user)
      return true

/-- Removes a user; says whether there was one. -/
def removeParticipant (c : Call) (user : UserId) : Call × Except CallError Bool :=
  c.attempt do
    demand requireOpen
    if (← get).participants.contains user then
      modify fun c =>
        { c with participants := c.participants.erase user }.tell (.participantRemoved user)
      return true
    else return false

/-! ## All requests -/

/-- An outcome with its value as a reply. -/
def answered {α : Type} (outcome : Call × Except CallError α) (reply : α → CallReply) :
    Call × Except CallError CallReply :=
  (outcome.1, outcome.2.map reply)

/-- Carries out a request. -/
def perform (c : Call) (w : Surroundings) : CallRequest → Call × Except CallError CallReply
  | .join av => answered (c.join w av) fun _ => .done
  | .hangup => answered c.hangup fun _ => .done
  | .abortReconnect => answered c.abortReconnect fun _ => .done
  | .requestSpeaker add => answered (c.requestSpeaker w add) fun _ => .done
  | .approveSpeakRequest cid allow =>
    answered (c.approveSpeakRequest w cid allow) fun _ => .done
  | .stopSpeak cid => answered (c.stopSpeak w cid) fun _ => .done
  | .getHires cid quality => answered (c.getHires w cid quality) fun _ => .done
  | .delHires cids => answered (c.delHires w cids) fun _ => .done
  | .getVthumbs cids => answered (c.getVthumbs w cids) fun _ => .done
  | .delVthumbs cids => answered (c.delVthumbs w cids) fun _ => .done
  | .setHiresQuality cid quality => answered (c.setHiresQuality w cid quality) fun _ => .done
  | .setLayer spatial temporal screenTemporal =>
    answered (c.setLayer w spatial temporal screenTemporal) fun _ => .done
  | .updateAv av => answered (c.updateAv w av) fun _ => .done
  | .rotateKey => answered (c.rotateKey w) .newKey
  | .addParticipant user => answered (c.addParticipant user) .changed
  | .removeParticipant user => answered (c.removeParticipant user) .changed
  | .snapshot => (c, .ok (.seen c.snapshot))
  | .destroy => (c.destroy, .ok .done)

end Call
end GroupCall

/-
# Handing out our media key

Our key is made anew for every rotation and sent to each connected participant, wrapped for
its user alone.  A rotation is all or nothing: nothing is sent and the old key stays in use
unless the new one could be wrapped for everybody and the relay took it.  A participant that
comes later is sent the key in use.
-/
import GroupCall.Call.Operation

namespace GroupCall
namespace Call

open Operation (demand hand)

/-- Our secret with the directory of public keys. -/
def agreement (c : Call) (w : Surroundings) : KeyAgreement := ⟨c.secret, w.publicKey⟩

/-- The connected participants other than us. -/
def recipients (c : Call) : List Session := c.sessions.values.filter fun s => s.cid ≠ c.cid

/-- A key wrapped for the user of a session. -/
def wrapFor (c : Call) (w : Surroundings) (plain : MediaKey) (session : Session) :
    Except CallError (Cid × List UInt8) :=
  ((c.agreement w).wrapFor session.userId (Crypto.bytesOf plain)).map fun wrapped =>
    (session.cid, Crypto.bytesOf wrapped)

/-- The key under which frames are encrypted: the one that was sent, bound to the call. -/
def frameKey (c : Call) (plain : MediaKey) : MediaKey := bindToCall c.callKey plain

/-- Takes a new key into use. -/
def useKey (c : Call) (plain : MediaKey) : Call :=
  let id := c.keys.nextId
  { c with keys := c.keys.insert id (c.frameKey plain), sendKey := some (id, plain) }

/-- Makes a new key and sends it to everybody; gives its number. -/
def rotateKey (c : Call) (w : Surroundings) : Call × Except CallError KeyId :=
  c.attempt do
    demand (·.require "generate_and_send_new_key" .inProgress)
    let id := (← get).keys.nextId
    let wrapped ← (← get).recipients.mapM fun session => demand (·.wrapFor w w.key session)
    demand requireAlive
    hand w (.send (.key id wrapped))
    modify (·.useKey w.key)
    return id

/-- Makes a new key and sends it to everybody, or reports why not. -/
def rotateOrReport (c : Call) (w : Surroundings) : Call :=
  match c.rotateKey w with
  | (c, .ok _) => c
  | (c, .error e) => c.report e

/-- Sends a participant the key in use, if there is one. -/
def sendKeyTo (c : Call) (w : Surroundings) (cid : Cid) : Call × Except CallError Unit :=
  c.attempt do
    let some (id, plain) := (← get).sendKey | return
    let session ← demand (·.requireSession cid)
    let wrapped ← demand (·.wrapFor w plain session)
    demand requireAlive
    hand w (.send (.key id [wrapped]))

/-- Takes the key of a participant, wrapped for us by its user. -/
def takeKey (c : Call) (w : Surroundings) (id : KeyId) (session : Session)
    (wrapped : List UInt8) : Call × Except CallError Unit :=
  c.attempt do
    let plain ← demand fun c => (c.agreement w).unwrapFrom session.userId wrapped
    modify fun c => { c with
      sessions := c.sessions.modify session.cid fun s =>
        { s with keys := s.keys.insert id (c.frameKey plain) } }

end Call
end GroupCall

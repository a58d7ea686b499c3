/-
# How the keys of others are taken

The key of a participant comes wrapped for us by its user.  Both derive the same key for the
way from their own secret and the public key of the other one, so what comes out is what was
wrapped; bound to the key of the call, it is put into the ring of the participant, and of
nobody else.
-/
import GroupCall.Proofs.Crypto.Aes
import GroupCall.Proofs.Keys.Handing

namespace GroupCall

open Crypto

/-! ## Both ends of the way -/

namespace KeyAgreement

/-- The key that we share with a user whose public key is a point. -/
theorem sharedWith_of_point {k : KeyAgreement} {user : UserId} {point : Bytes 32}
    (h : k.publicKey user = some (bytesOf point)) :
    k.sharedWith user = .ok (PairwiseKey.ofPoint k.secret point) := by
  rw [sharedWith, h]
  dsimp only
  rw [PairwiseKey.derive, sized?_bytesOf]
  rfl

/-- Unwrapping gives back what was wrapped, if both ends know the public key of each other. -/
theorem unwrapFrom_of_wrapFor {ours theirs : KeyAgreement} {us them : UserId}
    (hthem : ours.publicKey them = some (bytesOf theirs.ourKey))
    (hus : theirs.publicKey us = some (bytesOf ours.ourKey))
    (hcomm : x25519 ours.secret theirs.ourKey = x25519 theirs.secret ours.ourKey)
    {plain wrapped : MediaKey} (h : ours.wrapFor them (bytesOf plain) = .ok wrapped) :
    theirs.unwrapFrom us (bytesOf wrapped) = .ok plain := by
  -- the only step in which the two ends differ is the derivation of the key for the way
  have hshared : PairwiseKey.ofPoint ours.secret theirs.ourKey =
      PairwiseKey.ofPoint theirs.secret ours.ourKey := by
    rw [PairwiseKey.ofPoint, PairwiseKey.ofPoint, hcomm]
  have hwrap : ours.wrapFor them (bytesOf plain) =
      .ok ((PairwiseKey.ofPoint theirs.secret ours.ourKey).wrapKey plain) := by
    rw [wrapFor, sharedWith_of_point hthem, Except.bind, PairwiseKey.wrap, PairwiseKey.keyOfBytes,
      sized?_bytesOf, hshared]
    rfl
  cases h.symm.trans hwrap
  rw [unwrapFrom, sharedWith_of_point hus, Except.bind, PairwiseKey.unwrap, PairwiseKey.keyOfBytes,
    sized?_bytesOf]
  exact congrArg Except.ok (Aes.decrypt_encrypt _ plain)

end KeyAgreement

namespace Call

variable {c c' d : Call} {w : Surroundings} {step : CallStep} {count : Nat}

/-! ## The rings of others -/

theorem rings_new (id : CallId) (chat : ChatId) (us : UserId) (config : CallConfig)
    (secret : IdentitySecret) (callKey : Option MediaKey) :
    (new id chat us config secret callKey).Rings := by
  intro cid s hs
  cases hs

theorem rings_of_alone (h : ∀ cid, c.sessions.get? cid = none) : c.Rings := by
  intro cid s hs
  cases (h cid).symm.trans hs

namespace Rings

theorem rotateOrReport (h : c.Rings) (w : Surroundings) : (c.rotateOrReport w).Rings := by
  obtain ⟨e, -, heq, -⟩ | ⟨relay, wrapped, -, heq⟩ := c.rotateOrReport_cases w <;> rw [heq] <;> exact h

theorem greetOrReport (h : c.Rings) (w : Surroundings) (cid : Cid) :
    (c.greetOrReport w cid).Rings := by
  obtain ⟨-, heq⟩ | ⟨e, heq⟩ | ⟨s, id, plain, relay, bytes, -, -, -, heq⟩ :=
    c.greetOrReport_cases w cid <;> rw [heq] <;> exact h

theorem change (h : c.Rings) (hchange : Change c w step c') : c'.Rings := by
  cases hchange with
  | aside haside => exact haside.routine.rings h
  | routine _ hroutine => exact hroutine.rings h
  | up _ hup => exact rings_of_eq (by rw [hup.rest]) (by rw [hup.rest]) h
  | lost _ hlost => exact rings_of_alone hlost.alone
  | @answered e _ _ hwithin =>
    have hin : e.letIn.Rings := hwithin.rings h
    exact hin.rotateOrReport w
  | came _ _ hcame => exact (hcame.rings h).greetOrReport w _
  | went cid _ _ => exact ((Thinned.removeSession c cid).within.rings h).rotateOrReport w
  | rotated _ =>
    obtain ⟨e, heq, -⟩ | ⟨relay, wrapped, -, heq⟩ := c.rotateKey_cases w <;> rw [heq] <;> exact h
  | left _ hleft => exact rings_of_alone hleft.alone
  | destroyed _ _ => exact h
  | leftDestroyed _ hleft => exact rings_of_alone hleft.alone
  | cancelled => exact h

theorem take (h : c.Rings) (hlife : Lifecycle c count) (w : Surroundings) (step : CallStep) :
    (c.take w step).Rings := by
  by_cases haccepts : c.accepts step = true
  · obtain ⟨-, hentry⟩ := entry_take haccepts w
    generalize c.take w step = c' at hentry
    cases hentry with
    | seeking av => exact h
    | linked av url relay => exact h
    | refused av _ hleft => exact rings_of_alone hleft.alone
  · exact h.change (change_take hlife.settled (by simpa using haccepts) w)

/-- The rings of others are in order after every run. -/
theorem run (h : c.Rings) (hlife : Lifecycle c count)
    (steps : List (Surroundings × CallStep)) : (c.run steps).Rings := by
  induction steps generalizing c count with
  | nil => exact h
  | cons step rest ih => exact ih (h.take hlife step.1 step.2) (hlife.take step.1 step.2)

end Rings

/-! ## A key comes in -/

/-- The news that a participant sends a key. -/
def keyNews (relay : Nat) (id : KeyId) (sender : Cid) (bytes : List UInt8) : CallStep :=
  .event ⟨relay, .frame (.command (.key id sender bytes))⟩

/-- A key that can be unwrapped is put into the ring of its sender. -/
theorem take_keyNews {relay : Nat} (hrelay : c.relay = some relay) (hin : c.state = .inProgress)
    {sender : Cid} {s : Session} (hs : c.sessions.get? sender = some s) {bytes : List UInt8}
    {plain : MediaKey} (hopen : (c.agreement w).unwrapFrom s.userId bytes = .ok plain)
    (id : KeyId) :
    c.take w (keyNews relay id sender bytes) =
      { c with sessions := c.sessions.modify s.cid fun s =>
        { s with keys := s.keys.insert id (c.frameKey plain) } } := by
  have htake : c.take w (keyNews relay id sender bytes) = (c.onKey w id sender bytes).1 :=
    if_pos hrelay
  rw [htake, onKey, inCall, if_pos hin, hs]
  dsimp only
  obtain ⟨e, hfailed, -⟩ | ⟨plain', hopened, heq⟩ := c.takeKey_cases w id s bytes
  · cases hopen.symm.trans hfailed
  · cases hopen.symm.trans hopened
    rw [heq]

end Call
end GroupCall

/-
# Sender and recipient agree on a key

A key that we hand out is the one that last came into our own ring, and under its number we
encrypt with it alone until our participation is over.  Whoever is handed it, knows our user
under our number and has room for it gets the same key into the ring that it keeps for us,
and so it reads every frame that names the number.
-/
import GroupCall.Proofs.Crypto.Frame
import GroupCall.Proofs.Keys.Distribution
import GroupCall.Proofs.Keys.Taking

namespace GroupCall

open Crypto

namespace Call

variable {c c' d : Call} {w : Surroundings} {step : CallStep} {count : Nat}

/-! ## Our ring along a run -/

theorem terminations_take (hlife : Lifecycle c count) (w : Surroundings) (step : CallStep) :
    (c.take w step).terminations = c.terminations + (c.deeds w step).countP CallDeed.ends := by
  rw [terminations, journal_take hlife.settled, List.countP_append, terminations]

/-- Our participation goes on over a step if and only if the step does not tell its end. -/
theorem terminations_take_eq_iff (hlife : Lifecycle c count) (w : Surroundings)
    (step : CallStep) :
    (c.take w step).terminations = c.terminations ↔
      (c.deeds w step).any CallDeed.ends = false := by
  rw [terminations_take hlife, Nat.add_eq_left, List.countP_eq_zero, List.any_eq_false]

theorem terminations_le_run (hlife : Lifecycle c count) (steps : List (Surroundings × CallStep)) :
    c.terminations ≤ (c.run steps).terminations := by
  induction steps generalizing c count with
  | nil => exact Nat.le_refl _
  | cons step rest ih =>
    have hfirst := terminations_take hlife step.1 step.2
    exact Nat.le_trans (hfirst ▸ Nat.le_add_right _ _) (ih (hlife.take step.1 step.2))

/-- A number of ours stands for its key until our participation is over. -/
theorem reached_run (hlife : Lifecycle c count) (haccounted : Accounted c) {id : KeyId}
    {key : MediaKey} (h : c.keys.Reached id key) (steps : List (Surroundings × CallStep))
    (hends : (c.run steps).terminations = c.terminations) :
    (c.run steps).keys.Reached id key := by
  induction steps generalizing c count with
  | nil => exact h
  | cons step rest ih =>
    have hlife' := hlife.take step.1 step.2
    -- ends are only ever counted up, so there is none in the first step
    have hrest : (c.take step.1 step.2).terminations ≤ c.terminations :=
      Nat.le_trans (terminations_le_run hlife' rest) (Nat.le_of_eq hends)
    have hfirst : c.terminations ≤ (c.take step.1 step.2).terminations :=
      terminations_le_run hlife [step]
    have hstay := Nat.le_antisymm hrest hfirst
    refine ih hlife' (haccounted.take step.1 step.2) ?_ (hends.trans hstay.symm)
    cases ringChange_take hlife.settled step.1 step.2 with
    | kept hkeys _ _ _ => exact hkeys ▸ h
    | ended _ _ hended =>
      rw [(terminations_take_eq_iff hlife step.1 step.2).1 hstay] at hended
      cases hended
    | renewed plain hkeys _ _ _ => exact hkeys ▸ h.insert_nextId haccounted.ring (c.frameKey plain)

/-! ## Where our newest key came from -/

/-- The last step of a run brought a key into our ring, under the next number. -/
def Installs (c : Call) (steps : List (Surroundings × CallStep)) (id : KeyId)
    (key : MediaKey) : Prop :=
  ∃ before last, steps = before ++ [last] ∧ id = (c.run before).keys.nextId ∧
    (c.run steps).keys = (c.run before).keys.insert id key

theorem Installs.reached {steps : List (Surroundings × CallStep)} {id : KeyId} {key : MediaKey}
    (h : c.Installs steps id key) (haccounted : Accounted c) :
    (c.run steps).keys.Reached id key := by
  obtain ⟨before, last, -, rfl, hkeys⟩ := h
  rw [hkeys]
  exact (haccounted.run before).ring.reached_nextId key

/-- Our newest key came into our ring in the participation that we are in, and our ring is as
it was then. -/
theorem installs_of_sendKey (hlife : Lifecycle c count) (hnone : c.sendKey = none) {id : KeyId}
    {plain : MediaKey} (steps : List (Surroundings × CallStep))
    (hsend : (c.run steps).sendKey = some (id, plain)) :
    ∃ since, since <+: steps ∧ c.Installs since id (c.frameKey plain) ∧
      (c.run steps).keys = (c.run since).keys ∧
      (c.run steps).terminations = (c.run since).terminations := by
  -- from the last step back to the one that made the key
  induction steps using List.reverseRecOn with
  | nil => cases hnone.symm.trans hsend
  | append_singleton steps last ih =>
    have hrun : c.run (steps ++ [last]) = (c.run steps).take last.1 last.2 := run_append ..
    rw [hrun] at hsend ⊢
    have hlife' := hlife.run steps
    cases ringChange_take hlife'.settled last.1 last.2 with
    | kept hkeys hsame hends _ =>
      obtain ⟨since, hprefix, hinstalls, hkeys', hends'⟩ := ih (hsame ▸ hsend)
      have hstay := (terminations_take_eq_iff hlife' last.1 last.2).2 hends
      exact ⟨since, hprefix.trans (List.prefix_append _ _), hinstalls, hkeys.trans hkeys',
        hstay.trans hends'⟩
    | ended _ hnone' _ => cases hnone'.symm.trans hsend
    | renewed plain' hkeys hnew _ _ =>
      cases hnew.symm.trans hsend
      rw [frameKey, (lasting_run hlife steps).2] at hkeys
      exact ⟨steps ++ [last], List.prefix_rfl, ⟨steps, last, rfl, rfl, hrun ▸ hkeys⟩, by rw [hrun],
        by rw [hrun]⟩

/-! ## Frames -/

/-- What we encrypt under a number, from when a key came in under it to the end of our
participation, is read by every ring that has the key under the number. -/
theorem Installs.decryptFrame {since moment : List (Surroundings × CallStep)} {id : KeyId}
    {key : MediaKey} (h : c.Installs since id key) (hlife : Lifecycle c count)
    (haccounted : Accounted c) (hsince : since <+: moment)
    (hsame : (c.run moment).terminations = (c.run since).terminations) {place : Nat}
    {iv : InitVector} {plain frame : List UInt8}
    (hframe : ((c.run moment).handleFrame place plain).2 = .ok (.encrypted iv frame))
    (hid : Frame.keyId frame = id) (ring : KeyRing) (hring : ring.get? id = some key) :
    GroupCall.decryptFrame iv ring frame = .ok plain := by
  obtain ⟨rest, rfl⟩ := hsince
  subst hid
  obtain ⟨e, next, rfl, hencrypt⟩ := encrypt_of_encrypted hframe
  obtain ⟨key', hcurrent, hread⟩ := e.decryptFrame_encrypt hencrypt
  rw [run_append] at hsame hcurrent
  have hreached := reached_run (hlife.run since) (haccounted.run since) (h.reached haccounted) rest
    hsame
  obtain rfl := hreached.eq_of_currentKey? hcurrent
  exact hread ring hring

/-- A track that decrypts with the keys of a session reads what its ring can read. -/
theorem handleFrame_of_decryptFrame {place serial : Nat} {iv : InitVector}
    (htrack : (c.engine.tracks.get? place).map MediaTrack.crypto = some (some (.decrypt iv serial)))
    {frame plain : List UInt8} (h : decryptFrame iv (c.keysOf serial) frame = .ok plain) :
    (c.handleFrame place frame).2 = .ok (.decrypted plain) := by
  rw [handleFrame, htrack]
  dsimp only
  rw [h]
  rfl

/-! ## From one call to another -/

/-- Nothing has happened in a call. -/
def Fresh (c : Call) : Prop :=
  ∃ id chat us config secret callKey, c = new id chat us config secret callKey

namespace Fresh

theorem lifecycle (h : c.Fresh) : Lifecycle c 0 := by
  obtain ⟨id, chat, us, config, secret, callKey, rfl⟩ := h
  exact lifecycle_new id chat us config secret callKey

theorem wired (h : c.Fresh) : Wired [] [] [] c := by
  obtain ⟨id, chat, us, config, secret, callKey, rfl⟩ := h
  exact wired_new id chat us config secret callKey

theorem accounted (h : c.Fresh) : Accounted c := by
  obtain ⟨id, chat, us, config, secret, callKey, rfl⟩ := h
  exact accounted_new id chat us config secret callKey

theorem rings (h : c.Fresh) : c.Rings := by
  obtain ⟨id, chat, us, config, secret, callKey, rfl⟩ := h
  exact rings_new id chat us config secret callKey

theorem sendKey (h : c.Fresh) : c.sendKey = none := by
  obtain ⟨id, chat, us, config, secret, callKey, rfl⟩ := h
  rfl

end Fresh

/-- In two calls that were fresh once, a step of ours hands out a key, and the recipient is
about to take it. -/
structure Handover (ours theirs : Call) (before : List (Surroundings × CallStep))
    (w : Surroundings) (step : CallStep) (arrived : List (Surroundings × CallStep))
    (w' : Surroundings) (relay : Nat) (id : KeyId) (bytes : List UInt8) (us them : Cid)
    (s : Session) : Prop where
  /-- Both calls are under the same key, or both under none. -/
  callKey : ours.callKey = theirs.callKey
  /-- The step hands out a key with an entry for them. -/
  handed : ∃ link data, .posted link (.send (.key id data)) ∈ (ours.run before).deeds w step ∧
    (them, bytes) ∈ data
  /-- We know their user under that number. -/
  them : ((ours.run before).take w step).user? them = some theirs.us
  /-- We have their public key. -/
  theirKey : w.publicKey theirs.us = some (bytesOf (publicPoint theirs.secret))
  /-- They are in the call. -/
  inCall : (theirs.run arrived).state = .inProgress
  /-- The relay reaches them. -/
  linked : (theirs.run arrived).relay = some relay
  /-- They have a session of our number. -/
  session : (theirs.run arrived).sessions.get? us = some s
  /-- It is of our user. -/
  us : s.userId = ours.us
  /-- They have our public key. -/
  ourKey : w'.publicKey ours.us = some (bytesOf (publicPoint ours.secret))
  /-- They do not keep as many keys of ours under higher numbers as they keep at all. -/
  room : (s.keys.above id).length < max (theirs.run arrived).config.keyCapacity 1

/-- After a run `since` that brought us a key under a number, they, who are `after` what they
were `before`, have that key for us under the number and read what we encrypt with it. -/
structure Agreed (ours : Call) (since : List (Surroundings × CallStep)) (before after : Call)
    (id : KeyId) (key : MediaKey) (us : Cid) (s : Session) : Prop where
  /-- The key was taken into our ring. -/
  installed : ours.Installs since id key
  /-- The key was taken into their ring for us. -/
  received : after.sessions.get? us = some { s with keys := s.keys.insert id key }
  /-- It is there. -/
  kept : (s.keys.insert id key).get? id = some key
  /-- No other session is different. -/
  others : ∀ cid, cid ≠ us → after.sessions.get? cid = before.sessions.get? cid
  /-- Whatever we have encrypted under the number since then, in the same participation, can be
  decrypted with their ring for us, and is by each of their tracks that has our IV. -/
  frames : ∀ moment, since <+: moment →
    (ours.run moment).terminations = (ours.run since).terminations →
      ∀ place plain iv frame,
        ((ours.run moment).handleFrame place plain).2 = .ok (.encrypted iv frame) →
          Frame.keyId frame = id →
            decryptFrame iv (s.keys.insert id key) frame = .ok plain ∧
              ∀ place', (after.engine.tracks.get? place').map MediaTrack.crypto =
                  some (some (.decrypt iv s.serial)) →
                (after.handleFrame place' frame).2 = .ok (.decrypted plain)

/-- A key that is handed out can be unwrapped by whom it is for. -/
theorem Handover.unwrapFrom {ours theirs : Call} {before arrived : List (Surroundings × CallStep)}
    {w' : Surroundings} {relay : Nat} {id : KeyId} {bytes : List UInt8} {us them : Cid}
    {s : Session}
    (h : Handover ours theirs before w step arrived w' relay id bytes us them s)
    (hours : Lifecycle ours count) {count' : Nat} (htheirs : Lifecycle theirs count')
    (hcomm : x25519 ours.secret (publicPoint theirs.secret) =
      x25519 theirs.secret (publicPoint ours.secret))
    {history : List Binding} (hwired : Wired history [] [] ours) :
    ∃ plain, ((ours.run before).take w step).sendKey = some (id, plain) ∧
      ((theirs.run arrived).agreement w').unwrapFrom s.userId bytes = .ok plain := by
  obtain ⟨link, data, hposted, hmem⟩ := h.handed
  have hlife := hours.run before
  have henrolled := ((hwired.run before).run [(w, step)]).enrolled
  obtain ⟨-, plain, hsend, hwrapped⟩ := (keyChange_take hlife.settled w step).handedOut henrolled
    (journal_take hlife.settled w step) hposted
  obtain ⟨recipient, hrecipient, hwrap⟩ := hwrapped _ hmem
  refine ⟨plain, hsend, ?_⟩
  have huser : recipient.userId = theirs.us := by
    have hthem := h.them
    rw [user?, hrecipient] at hthem
    exact Option.some.inj hthem
  have hsecret : ((ours.run before).take w step).secret = ours.secret :=
    (lasting_run hours (before ++ [(w, step)])).1 ▸ by rw [run_append]; rfl
  have hsecret' : (theirs.run arrived).secret = theirs.secret := (lasting_run htheirs arrived).1
  -- the entry is the key as it was wrapped for their user
  obtain ⟨wrapped, hwrapped, hentry⟩ := exists_of_wrapFor hwrap
  obtain ⟨-, rfl⟩ := Prod.mk.inj hentry
  rw [huser] at hwrapped
  rw [h.us]
  refine KeyAgreement.unwrapFrom_of_wrapFor ?_ ?_ ?_ hwrapped
  · rw [agreement, KeyAgreement.ourKey, agreement, hsecret']
    exact h.theirKey
  · rw [agreement, KeyAgreement.ourKey, agreement, hsecret]
    exact h.ourKey
  · simp only [agreement, KeyAgreement.ourKey, hsecret, hsecret']
    exact hcomm

/-- Whatever happens in two calls: if one of them hands out a key and the other one takes it,
both have it under its number, and what is encrypted with it on one side is read on the
other one. -/
theorem agreement_along_runs {ours theirs : Call} (hours : ours.Fresh) (htheirs : theirs.Fresh)
    (hcomm : x25519 ours.secret (publicPoint theirs.secret) =
      x25519 theirs.secret (publicPoint ours.secret))
    {before arrived : List (Surroundings × CallStep)} {w w' : Surroundings} {step : CallStep}
    {relay : Nat} {id : KeyId} {bytes : List UInt8} {us them : Cid} {s : Session}
    (h : Handover ours theirs before w step arrived w' relay id bytes us them s) :
    ∃ since key, since <+: before ++ [(w, step)] ∧
      ((ours.run before).take w step).keys = (ours.run since).keys ∧
      ((ours.run before).take w step).terminations = (ours.run since).terminations ∧
      Agreed ours since (theirs.run arrived)
        ((theirs.run arrived).take w' (keyNews relay id us bytes)) id key us s := by
  obtain ⟨plain, hsend, hopen⟩ := h.unwrapFrom hours.lifecycle htheirs.lifecycle hcomm hours.wired
  have hrun : (ours.run before).take w step = ours.run (before ++ [(w, step)]) :=
    (run_append ours before [(w, step)]).symm
  rw [hrun] at hsend ⊢
  obtain ⟨since, hprefix, hinstalls, hkeys, hends⟩ :=
    installs_of_sendKey hours.lifecycle hours.sendKey _ hsend
  have hwired := htheirs.wired.run arrived
  have hrings := htheirs.rings.run htheirs.lifecycle arrived
  -- they bind what they unwrap to the same key of the call
  have hkey : (theirs.run arrived).frameKey plain = ours.frameKey plain := by
    rw [frameKey, (lasting_run htheirs.lifecycle arrived).2, ← h.callKey, frameKey]
  have htaken := take_keyNews h.linked h.inCall h.session hopen id
  rw [hwired.enrolled.cid_eq us s h.session, hkey] at htaken
  have hkept : (s.keys.insert id (ours.frameKey plain)).get? id = some (ours.frameKey plain) := by
    obtain ⟨hsound, hcapacity⟩ := hrings us s h.session
    exact hsound.get?_insert_of_room (hcapacity ▸ h.room) _
  have hreceived : ((theirs.run arrived).take w' (keyNews relay id us bytes)).sessions.get? us =
      some { s with keys := s.keys.insert id (ours.frameKey plain) } := by
    rw [htaken, Table.get?_modify, if_pos rfl, h.session]
    rfl
  refine ⟨since, ours.frameKey plain, hprefix, hkeys, hends, hinstalls, hreceived, hkept,
    fun cid hcid => ?_, fun moment hsince hsame place text iv frame hframe hid => ?_⟩
  · rw [htaken, Table.get?_modify, if_neg hcid]
  · have hopened := hinstalls.decryptFrame hours.lifecycle hours.accounted hsince hsame hframe hid
      _ hkept
    refine ⟨hopened, fun place' htrack => handleFrame_of_decryptFrame htrack ?_⟩
    have hfound := (hwired.run [(w', keyNews relay id us bytes)]).keysOf hreceived
    exact (congrArg (decryptFrame iv · frame) hfound).trans hopened

/-! ## Two participants -/

/-- The secret of the one that hands out a key. -/
def giverSecret : IdentitySecret := Vector.replicate 32 1

/-- The secret of the one that takes it. -/
def takerSecret : IdentitySecret := Vector.replicate 32 2

/-- The one that hands out a key. -/
def giver : Call :=
  new ⟨"call"⟩ ⟨"chat"⟩ ⟨"U1"⟩ ⟨1, 16, 1, 1, none⟩ giverSecret (some (Vector.replicate 16 5))

/-- The one that takes it. -/
def taker : Call :=
  new ⟨"call"⟩ ⟨"chat"⟩ ⟨"U2"⟩ ⟨1, 16, 1, 1, none⟩ takerSecret (some (Vector.replicate 16 5))

/-- Nothing goes wrong, and the public keys of both are known. -/
def acquainted (relay : RelayState) : Surroundings :=
  { calm relay with
    publicKey := fun user =>
      if user.name = "U1" then some (bytesOf (publicPoint giverSecret))
      else some (bytesOf (publicPoint takerSecret)) }

/-- Asking to be let in. -/
def knock : List (Surroundings × CallStep) :=
  [(acquainted .new, .request (.join ⟨1⟩)),
    (acquainted .connected, .event ⟨1, .stateChanged .connected⟩)]

/-- The answer that lets us in under a number, to another participant. -/
def answerWith (cid : Cid) (peer : PeerInfo) : CallStep :=
  .event ⟨1, .frame (.command (.answer
    ⟨cid, ⟨"v=0\r\n", none, none, []⟩, 1700000000000, [peer], .empty, .empty, []⟩))⟩

/-- The one that hands out a key is let in. -/
def giverLetIn : CallStep := answerWith 1 ⟨9, ⟨"U2"⟩, ⟨1⟩⟩

/-- The one that takes it was let in, too. -/
def takerSteps : List (Surroundings × CallStep) :=
  knock ++ [(acquainted .joined, answerWith 9 ⟨1, ⟨"U1"⟩, ⟨1⟩⟩)]

/-- Whether a deed hands out a key under a number to a participant. -/
def handsTo (id : KeyId) (cid : Cid) : CallDeed → Bool
  | .posted _ (.send (.key id' data)) => id' = id && data.any fun e => e.1 = cid
  | _ => false

theorem exists_of_handsTo {id : KeyId} {cid : Cid} {deeds : List CallDeed}
    (h : deeds.any (handsTo id cid) = true) :
    ∃ bytes link data, .posted link (.send (.key id data)) ∈ deeds ∧ (cid, bytes) ∈ data := by
  obtain ⟨deed, hmem, hdeed⟩ := List.any_eq_true.1 h
  unfold handsTo at hdeed
  split at hdeed
  · rename_i link id' data
    obtain ⟨hid, hany⟩ := Bool.and_eq_true_iff.1 hdeed
    obtain ⟨e, he, hcid⟩ := List.any_eq_true.1 hany
    obtain rfl : id' = id := by simpa using hid
    obtain rfl : e.1 = cid := by simpa using hcid
    exact ⟨e.2, link, data, hmem, he⟩
  · cases hdeed

/-- The one is let in and hands out its first key; the other one takes it.  Their public points
differ. -/
theorem agreement_acquainted : publicPoint giver.secret ≠ publicPoint taker.secret ∧ ∃ bytes s,
    Handover giver taker knock (acquainted .joined) giverLetIn takerSteps (acquainted .joined)
      1 0 bytes 1 9 s ∧
    ∃ since key, Agreed giver since (taker.run takerSteps)
      ((taker.run takerSteps).take (acquainted .joined) (keyNews 1 0 1 bytes)) 0 key 1 s := by
  have hands : ((giver.run knock).deeds (acquainted .joined) giverLetIn).any (handsTo 0 9) =
      true := by decide +kernel
  have hsession : ((taker.run takerSteps).sessions.get? 1).map
      (fun s => (s.userId, (s.keys.above 0).length)) = some (⟨"U1"⟩, 0) := by decide +kernel
  obtain ⟨bytes, handed⟩ := exists_of_handsTo hands
  obtain ⟨s, hs, hfound⟩ := Option.map_eq_some_iff.1 hsession
  obtain ⟨huser, habove⟩ := Prod.mk.inj hfound
  have handover : Handover giver taker knock (acquainted .joined) giverLetIn takerSteps
      (acquainted .joined) 1 0 bytes 1 9 s :=
    { callKey := rfl
      handed := handed
      them := by decide +kernel
      theirKey := rfl
      inCall := by decide +kernel
      linked := by decide +kernel
      session := hs
      us := huser
      ourKey := rfl
      room := by rw [habove]; decide +kernel }
  -- both ways lead to the same point, which is computed for each of them on its own
  have hgiver : X25519.coordinate (publicPoint giverSecret) =
      X25519.multiply (X25519.scalar giverSecret) 9 := by decide +kernel
  have htaker : X25519.coordinate (publicPoint takerSecret) =
      X25519.multiply (X25519.scalar takerSecret) 9 := by decide +kernel
  have hboth : X25519.multiply (X25519.scalar giverSecret)
        (X25519.multiply (X25519.scalar takerSecret) 9) =
      X25519.multiply (X25519.scalar takerSecret)
        (X25519.multiply (X25519.scalar giverSecret) 9) := by decide +kernel
  have hdiffer : publicPoint giverSecret ≠ publicPoint takerSecret := fun heq => by
    have hsame := congrArg X25519.coordinate heq
    rw [hgiver, htaker] at hsame
    exact absurd hsame (by decide +kernel)
  have hcomm : x25519 giverSecret (publicPoint takerSecret) =
      x25519 takerSecret (publicPoint giverSecret) := by
    rw [x25519, x25519, hgiver, htaker, hboth]
  obtain ⟨since, key, -, -, -, hagreed⟩ := agreement_along_runs ⟨_, _, _, _, _, _, rfl⟩
    ⟨_, _, _, _, _, _, rfl⟩ hcomm handover
  exact ⟨hdiffer, bytes, s, handover, since, key, hagreed⟩

end Call
end GroupCall

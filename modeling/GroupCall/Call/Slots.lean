/-
# Slots

A slot is a track together with what it carries.  Three slots send our own media; the
receive slots, known by the numbers of their tracks, are assigned to participants and
released again.  A slot that changes its participant or its IV loses its context before it
is given another one.
-/
import GroupCall.Call.MediaTrack
import GroupCall.Table

namespace GroupCall

/-- A track and what it carries. -/
structure Slot where
  /-- The place of the track. -/
  track : Nat
  /-- The participant whose media it carries. -/
  cid : Option Cid
  /-- The IV under which they are encrypted. -/
  iv : Option InitVector
deriving DecidableEq, Repr

namespace Slot

/-- A slot that carries nothing. -/
def new (track : Nat) : Slot := ⟨track, none, none⟩

/-- Gives a send slot its IV and its track the encryptor. -/
def bindLocal (s : Slot) (iv : InitVector) (ts : MediaTracks) : Slot × MediaTracks :=
  ({ s with iv := some iv }, ts.call s.track (.setCrypto (some (.encrypt (.new iv)))))

/-- Shows the track as a participant, unless it is already. -/
def attach (s : Slot) (cid : Cid) (ts : MediaTracks) : MediaTracks :=
  match s.cid with
  | none => ts.call s.track (.attach cid)
  | some previous =>
    if previous = cid then ts else (ts.call s.track .detach).call s.track (.attach cid)

/-- Assigns a slot to a participant, whose frames are decrypted with the keys of a session. -/
def assign (s : Slot) (cid : Cid) (iv : InitVector) (session : Nat) (ts : MediaTracks) :
    Slot × MediaTracks :=
  let ts := ts.call s.track (.setCrypto none)
  let ts := ts.call s.track (.setCrypto (some (.decrypt iv session)))
  let ts := s.attach cid ts
  ({ s with cid := some cid, iv := some iv }, ts.switch s.track true)

/-- Releases a slot from its participant, if it has one. -/
def release (s : Slot) (ts : MediaTracks) : Slot × MediaTracks :=
  match s.cid with
  | none => (s, ts)
  | some _ =>
    let ts := (ts.call s.track (.setCrypto none)).call s.track .detach
    ({ s with cid := none, iv := none }, ts.switch s.track false)

end Slot

/-- The slots of a call. -/
structure Slots where
  /-- Our video in low resolution. -/
  vthumb : Slot
  /-- Our video in high resolution. -/
  hires : Slot
  /-- Our sound. -/
  audio : Slot
  /-- The receive slots, by the numbers of their tracks. -/
  recv : Table Mid Slot
deriving DecidableEq

namespace Slots

/-- The slots of our three send tracks and of some receive tracks, given by their places.
A receive track without a number is left out. -/
def new (vthumb hires audio : Nat) (recv : List Nat) (ts : MediaTracks) : Slots :=
  ⟨.new vthumb, .new hires, .new audio,
    .ofList (recv.filterMap fun place =>
      ((ts.get? place).bind MediaTrack.mid).map fun mid => (mid, Slot.new place))⟩

/-- Our three slots. -/
def sends (s : Slots) : List Slot := [s.vthumb, s.hires, s.audio]

/-- Gives our slots their IVs. -/
def bindLocal (s : Slots) (ivs : SendIvs) (ts : MediaTracks) : Slots × MediaTracks :=
  let (vthumb, ts) := s.vthumb.bindLocal ivs.vthumb ts
  let (hires, ts) := s.hires.bindLocal ivs.hires ts
  let (audio, ts) := s.audio.bindLocal ivs.audio ts
  ({ s with vthumb := vthumb, hires := hires, audio := audio }, ts)

/-- Stores a receive slot and the tracks after something was done to it. -/
def put (s : Slots) (mid : Mid) (done : Slot × MediaTracks) : Slots × MediaTracks :=
  ({ s with recv := s.recv.insert mid done.1 }, done.2)

/-- Assigns a receive slot, if there is one of that number; tells whose it was. -/
def assign (s : Slots) (mid : Mid) (cid : Cid) (iv : InitVector) (session : Nat)
    (ts : MediaTracks) : Option (Option Cid × Slots × MediaTracks) :=
  (s.recv.get? mid).map fun slot => (slot.cid, s.put mid (slot.assign cid iv session ts))

/-- Releases a receive slot, if there is one of that number. -/
def release (s : Slots) (mid : Mid) (ts : MediaTracks) : Slots × MediaTracks :=
  match s.recv.get? mid with
  | some slot => s.put mid (slot.release ts)
  | none => (s, ts)

/-- Releases the receive slots of a list. -/
def releaseEach (s : Slots) (ts : MediaTracks) (mids : List Mid) : Slots × MediaTracks :=
  mids.foldl (fun (acc : Slots × MediaTracks) mid => acc.1.release mid acc.2) (s, ts)

/-- Releases every receive slot. -/
def releaseAll (s : Slots) (ts : MediaTracks) : Slots × MediaTracks :=
  s.releaseEach ts s.recv.keys

/-- How many receive slots of a kind carry nothing. -/
def free (s : Slots) (kind : TrackKind) (ts : MediaTracks) : Nat :=
  (s.recv.values.filter fun slot =>
    slot.cid.isNone && ((ts.get? slot.track).map MediaTrack.kind == some kind)).length

end Slots
end GroupCall

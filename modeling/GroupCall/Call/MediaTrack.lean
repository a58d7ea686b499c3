/-
# Tracks of the media engine

A track is switched on and off, given a context that encrypts or decrypts its frames, and
tied to the display of a participant.  Every such call is recorded in the order in which it
was made.
-/
import GroupCall.Crypto.Frame

namespace GroupCall

/-- What handles the frames of a track. -/
inductive FrameCrypto where
  /-- Frames are encrypted with our own keys. -/
  | encrypt (encryptor : FrameEncryptor)
  /-- Frames under an IV are decrypted with the keys of a session. -/
  | decrypt (iv : InitVector) (session : Nat)
deriving DecidableEq, Repr

namespace FrameCrypto

/-- The IV of a context. -/
def iv : FrameCrypto → InitVector
  | .encrypt e => e.iv
  | .decrypt iv _ => iv

/-- A context in words. -/
def text : FrameCrypto → String
  | .encrypt e => "Encrypt(iv=" ++ e.iv.hex ++ ")"
  | .decrypt iv _ => "Decrypt(iv=" ++ iv.hex ++ ")"

end FrameCrypto

/-- What is done to a track. -/
inductive TrackCall where
  /-- It is switched on or off. -/
  | enable (on : Bool)
  /-- It is given a context, or loses it. -/
  | setCrypto (crypto : Option FrameCrypto)
  /-- It is shown as a participant. -/
  | attach (cid : Cid)
  /-- It is no longer shown. -/
  | detach
deriving DecidableEq, Repr

/-- A track. -/
structure MediaTrack where
  /-- The number of the track, once it is known. -/
  mid : Option Mid
  /-- What it carries. -/
  kind : TrackKind
  /-- Which way. -/
  direction : Direction
  /-- Whether it is switched on. -/
  enabled : Bool
  /-- What handles its frames. -/
  crypto : Option FrameCrypto
  /-- The participant that it is shown as. -/
  sink : Option Cid
deriving DecidableEq, Repr

namespace MediaTrack

/-- A track to which nothing was done. -/
def new (mid : Option Mid) (kind : TrackKind) (direction : Direction) : MediaTrack :=
  ⟨mid, kind, direction, false, none, none⟩

/-- Does something to a track. -/
def apply (t : MediaTrack) : TrackCall → MediaTrack
  | .enable on => { t with enabled := on }
  | .setCrypto crypto => { t with crypto := crypto }
  | .attach cid => { t with sink := some cid }
  | .detach => { t with sink := none }

end MediaTrack

/-- The tracks of an engine, by their places, and what was done to them. -/
structure MediaTracks where
  /-- The tracks. -/
  all : List MediaTrack
  /-- The calls with the places of their tracks, oldest first. -/
  log : List (Nat × TrackCall)
deriving DecidableEq

namespace MediaTracks

/-- No tracks. -/
def empty : MediaTracks := ⟨[], []⟩

/-- The track at a place. -/
def get? (ts : MediaTracks) (place : Nat) : Option MediaTrack := ts.all[place]?

/-- Adds a track behind the others. -/
def add (ts : MediaTracks) (track : MediaTrack) : MediaTracks := { ts with all := ts.all ++ [track] }

/-- Does something to the track at a place. -/
def call (ts : MediaTracks) (place : Nat) (c : TrackCall) : MediaTracks :=
  ⟨ts.all.modify place (·.apply c), ts.log ++ [(place, c)]⟩

/-- Whether the track at a place is switched on. -/
def isEnabled (ts : MediaTracks) (place : Nat) : Bool :=
  match ts.get? place with
  | some track => track.enabled
  | none => false

/-- Switches the track at a place, unless it is so already. -/
def switch (ts : MediaTracks) (place : Nat) (on : Bool) : MediaTracks :=
  if ts.isEnabled place = on then ts else ts.call place (.enable on)

end MediaTracks
end GroupCall

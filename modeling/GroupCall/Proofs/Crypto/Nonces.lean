/-
# Nonces are never used twice

Several tracks encrypt their frames with the keys of one ring, each under an IV of its own.  The
current number of the ring only rises, as long as the ring is not cleared, and the counter of a
track starts again only under a higher number.  So the counter of a frame says how many frames the
track has sent under that number before, and the headers of a track rise from frame to frame.
When all counters are used up the track falls silent until a higher number is current.

A step is taken as a whole.  For a frame this means that the ring is asked for its current key and
the counter is moved on before anything else happens to the ring or to this track, though the two
are kept under locks of their own; the frames of one track are taken to be encrypted one after the
other.
-/
import GroupCall.Proofs.Crypto.Frame
import GroupCall.Proofs.Keys.Ring
import Mathlib.Logic.Function.Basic

namespace GroupCall

/-- Something that happens to a key ring, or to the tracks that encrypt with it. -/
inductive SendStep (ι : Type) where
  /-- A key comes in. -/
  | insert (id : KeyId) (key : MediaKey)
  /-- The keys below a number are forgotten. -/
  | purgeBefore (id : KeyId)
  /-- A track has a frame to send: the key is looked up and the counter moves on in one step. -/
  | encrypt (track : ι) (plain : List UInt8)

/-- A key ring, and what encrypts the frames of each track with its keys. -/
structure Sender (ι : Type) where
  /-- The ring. -/
  ring : KeyRing
  /-- What encrypts the frames of a track. -/
  encryptors : ι → FrameEncryptor

/-- A frame that a track has sent. -/
structure SentFrame (ι : Type) where
  /-- The track. -/
  track : ι
  /-- What was encrypted. -/
  plain : List UInt8
  /-- The key under which it was encrypted. -/
  key : MediaKey
  /-- What came out. -/
  bytes : List UInt8

namespace SentFrame

variable {ι : Type}

/-- The number of the key in the header. -/
def keyId (f : SentFrame ι) : KeyId := Frame.keyId f.bytes

/-- The counter in the header. -/
def counter (f : SentFrame ι) : UInt32 := Frame.counter f.bytes

/-- The nonce under which it was encrypted, given the IVs of the tracks. -/
def nonce (iv : ι → InitVector) (f : SentFrame ι) : Crypto.Bytes 12 :=
  Frame.nonce (iv f.track) f.counter

/-- The header of a frame comes before that of another one. -/
def Precedes (f g : SentFrame ι) : Prop :=
  f.keyId < g.keyId ∨ f.keyId = g.keyId ∧ f.counter < g.counter

/-- How many frames a track has sent under a number. -/
def uses [DecidableEq ι] (track : ι) (id : KeyId) (sent : List (SentFrame ι)) : Nat :=
  sent.countP fun f => decide (f.track = track ∧ f.keyId = id)

end SentFrame

namespace Sender

variable {ι : Type} [DecidableEq ι]

/-- A ring, and tracks that have sent nothing. -/
def new (ring : KeyRing) (iv : ι → InitVector) : Sender ι := ⟨ring, fun τ => .new (iv τ)⟩

/-- What becomes of the frame that a track has to send. -/
def encrypt (s : Sender ι) (track : ι) (plain : List UInt8) :
    Except CryptoError (List UInt8 × FrameEncryptor) :=
  (s.encryptors track).encrypt s.ring plain

/-- The sender after a step. -/
def take (s : Sender ι) : SendStep ι → Sender ι
  | .insert id key => { s with ring := s.ring.insert id key }
  | .purgeBefore id => { s with ring := s.ring.purgeBefore id }
  | .encrypt track plain =>
    match s.encrypt track plain with
    | .error _ => s
    | .ok (_, next) => { s with encryptors := Function.update s.encryptors track next }

/-- The frame that is sent in a step. -/
def send? (s : Sender ι) : SendStep ι → Option (SentFrame ι)
  | .encrypt track plain =>
    match s.ring.currentKey?, s.encrypt track plain with
    | some (_, key), .ok (bytes, _) => some ⟨track, plain, key, bytes⟩
    | _, _ => none
  | _ => none

/-- The sender after a run. -/
def run (s : Sender ι) (steps : List (SendStep ι)) : Sender ι := steps.foldl take s

/-- The frames that are sent in a run. -/
def sent (s : Sender ι) : List (SendStep ι) → List (SentFrame ι)
  | [] => []
  | step :: rest => (s.send? step).toList ++ (s.take step).sent rest

end Sender

/-! ## One frame -/

/-- A nonce tells IV and counter. -/
theorem Frame.nonce_inj {iv iv' : InitVector} {counter counter' : UInt32}
    (h : Frame.nonce iv counter = Frame.nonce iv' counter') : iv = iv' ∧ counter = counter' := by
  have hbytes : Crypto.bigEndian 8 iv.value.toNat ++ Crypto.bigEndian 4 counter.toNat =
      Crypto.bigEndian 8 iv'.value.toNat ++ Crypto.bigEndian 4 counter'.toNat := by
    simpa [Frame.nonce] using congrArg Vector.toList h
  obtain ⟨hiv, hcounter⟩ := List.append_inj hbytes (by simp)
  constructor
  · have hvalue := Crypto.bigEndian_inj iv.value.toNat_lt iv'.value.toNat_lt hiv
    cases iv
    cases iv'
    exact congrArg InitVector.mk (UInt64.toNat_inj.1 hvalue)
  · have hvalue := Crypto.bigEndian_inj counter.toNat_lt counter'.toNat_lt hcounter
    exact UInt32.toNat_inj.1 hvalue

namespace FrameEncryptor

variable {e : FrameEncryptor} {ring : KeyRing} {id : KeyId} {key : MediaKey}

theorem lastKey_turnTo_of_le (h : ∀ last, e.lastKey = some last → last ≤ id) :
    (e.turnTo id).lastKey = some id := by
  rw [turnTo]
  split
  · rfl
  · rename_i last hlast
    split
    · rfl
    · rename_i hlt
      rw [hlast, UInt32.le_antisymm (h last hlast) (UInt32.not_lt.1 hlt)]

/-- What is made of a frame under the current key: its header has the next counter, unless there is
none left. -/
theorem encrypt_of_currentKey? (h : ring.currentKey? = some (id, key)) (plain : List UInt8) :
    (UInt32.size ≤ (e.turnTo id).next ∧ e.encrypt ring plain = .error (.counterExhausted id)) ∨
      (e.turnTo id).next < UInt32.size ∧ ∃ bytes,
        e.encrypt ring plain = .ok (bytes, { e.turnTo id with next := (e.turnTo id).next + 1 }) ∧
        Frame.keyId bytes = id ∧ (Frame.counter bytes).toNat = (e.turnTo id).next := by
  by_cases hfull : UInt32.size ≤ (e.turnTo id).next
  · refine Or.inl ⟨hfull, ?_⟩
    rw [encrypt, h]
    exact if_pos hfull
  · have hlt : (e.turnTo id).next < UInt32.size := Nat.lt_of_not_le hfull
    refine Or.inr ⟨hlt, Frame.header id (UInt32.ofNat (e.turnTo id).next) ++
      Crypto.Gcm.encrypt key (Frame.nonce (e.turnTo id).iv (UInt32.ofNat (e.turnTo id).next))
        (Frame.header id (UInt32.ofNat (e.turnTo id).next)) plain, ?_, ?_, ?_⟩
    · rw [encrypt, h]
      exact if_neg hfull
    · exact Frame.keyId_header _ _ _
    · rw [Frame.counter_header]
      exact UInt32.toNat_ofNat_of_lt hlt

end FrameEncryptor

/-! ## Counting frames -/

namespace SentFrame

variable {ι : Type} [DecidableEq ι]

theorem uses_append (track : ι) (id : KeyId) (first second : List (SentFrame ι)) :
    uses track id (first ++ second) = uses track id first + uses track id second :=
  List.countP_append

theorem uses_singleton (track : ι) (id : KeyId) (f : SentFrame ι) :
    uses track id [f] = if f.track = track ∧ f.keyId = id then 1 else 0 := by
  by_cases h : f.track = track ∧ f.keyId = id <;> simp [uses, h]

end SentFrame

namespace Sender

open SentFrame

variable {ι : Type} [DecidableEq ι] {iv : ι → InitVector} {s : Sender ι}
  {sent : List (SentFrame ι)}

/-- How a sender stands after it has sent some frames. -/
structure Counted (iv : ι → InitVector) (sent : List (SentFrame ι)) (s : Sender ι) : Prop where
  /-- Every track has its IV. -/
  ivs : ∀ τ, (s.encryptors τ).iv = iv τ
  /-- No track has used a number above the current one. -/
  reached : ∀ τ last, (s.encryptors τ).lastKey = some last →
    ∃ current, s.ring.current = some current ∧ last ≤ current
  /-- The next counter is the number of frames under the last number. -/
  next : ∀ τ last, (s.encryptors τ).lastKey = some last →
    (s.encryptors τ).next = uses τ last sent
  /-- A counter is used once. -/
  bounded : ∀ τ id, uses τ id sent ≤ UInt32.size
  /-- No frame was sent under a number above the last one of its track. -/
  last : ∀ f ∈ sent, ∃ last, (s.encryptors f.track).lastKey = some last ∧ f.keyId ≤ last
  /-- The counters under a number are those from zero on. -/
  counter : ∀ f ∈ sent, f.counter.toNat < uses f.track f.keyId sent
  /-- The headers of a track rise. -/
  rising : sent.Pairwise fun f g => f.track = g.track → f.Precedes g
  /-- Whoever has the key can read the frame. -/
  legible : ∀ f ∈ sent, ∀ ring : KeyRing, ring.get? f.keyId = some f.key →
    decryptFrame (iv f.track) ring f.bytes = .ok f.plain

namespace Counted

theorem new (ring : KeyRing) (iv : ι → InitVector) : (Sender.new ring iv).Counted iv [] where
  ivs _ := rfl
  reached τ last hlast := by cases hlast
  next τ last hlast := by cases hlast
  bounded τ id := Nat.zero_le _
  last f hf := by cases hf
  counter f hf := by cases hf
  rising := List.Pairwise.nil
  legible f hf := by cases hf

/-- The next counter under the current number is the number of frames that were sent under it. -/
theorem next_turnTo (h : s.Counted iv sent) {id : KeyId} (hid : s.ring.current = some id) (τ : ι) :
    ((s.encryptors τ).turnTo id).next = uses τ id sent := by
  have hunused (hnew : ∀ last, (s.encryptors τ).lastKey = some last → last < id) :
      uses τ id sent = 0 := by
    refine List.countP_eq_zero.2 fun f hf => ?_
    rw [decide_eq_true_eq]
    rintro ⟨rfl, rfl⟩
    obtain ⟨last, hlast, hle⟩ := h.last f hf
    exact UInt32.not_lt.2 hle (hnew last hlast)
  rw [FrameEncryptor.turnTo]
  split
  · rename_i hnone
    exact (hunused fun last hlast => by rw [hnone] at hlast; cases hlast).symm
  · rename_i last hlast
    split
    · rename_i hlt
      refine (hunused fun last' hlast' => ?_).symm
      cases hlast.symm.trans hlast'
      exact hlt
    · rename_i hlt
      obtain ⟨current, hcurrent, hle⟩ := h.reached τ last hlast
      cases hid.symm.trans hcurrent
      rw [h.next τ last hlast, UInt32.le_antisymm hle (UInt32.not_lt.1 hlt)]

/-- The ring may change, as long as the current number does not fall. -/
theorem withRing (h : s.Counted iv sent) {ring : KeyRing}
    (hring : ∀ current, s.ring.current = some current →
      ∃ current', ring.current = some current' ∧ current ≤ current') :
    ({ s with ring := ring } : Sender ι).Counted iv sent where
  ivs := h.ivs
  reached τ last hlast := by
    obtain ⟨current, hcurrent, hle⟩ := h.reached τ last hlast
    obtain ⟨current', hcurrent', hle'⟩ := hring current hcurrent
    exact ⟨current', hcurrent', UInt32.le_trans hle hle'⟩
  next := h.next
  bounded := h.bounded
  last := h.last
  counter := h.counter
  rising := h.rising
  legible := h.legible

/-- No frame of a track was sent under a number above the current one. -/
theorem keyId_le (h : s.Counted iv sent) {id : KeyId} (hid : s.ring.current = some id)
    {f : SentFrame ι} (hf : f ∈ sent) : f.keyId ≤ id := by
  obtain ⟨last, hlast, hle⟩ := h.last f hf
  obtain ⟨current, hcurrent, hle'⟩ := h.reached f.track last hlast
  cases hid.symm.trans hcurrent
  exact UInt32.le_trans hle hle'

/-- A frame is sent under the current number, with the next counter. -/
theorem send (h : s.Counted iv sent) {f : SentFrame ι} (hid : s.ring.current = some f.keyId)
    (hcounter : f.counter.toNat = uses f.track f.keyId sent)
    (hlegible : ∀ ring : KeyRing, ring.get? f.keyId = some f.key →
      decryptFrame (iv f.track) ring f.bytes = .ok f.plain)
    {e : FrameEncryptor} (hiv : e.iv = iv f.track) (hlast : e.lastKey = some f.keyId)
    (hnext : e.next = uses f.track f.keyId sent + 1) :
    ({ s with encryptors := Function.update s.encryptors f.track e } : Sender ι).Counted iv
      (sent ++ [f]) := by
  have hmore (τ : ι) (id : KeyId) : uses τ id (sent ++ [f]) =
      uses τ id sent + if f.track = τ ∧ f.keyId = id then 1 else 0 := by
    rw [uses_append, uses_singleton]
  constructor
  · intro τ
    by_cases hτ : τ = f.track
    · subst hτ
      simpa using hiv
    · simpa [hτ] using h.ivs τ
  · intro τ last hlast'
    by_cases hτ : τ = f.track
    · subst hτ
      obtain rfl : f.keyId = last := by simpa [hlast] using hlast'
      exact ⟨f.keyId, hid, UInt32.le_refl _⟩
    · exact h.reached τ last (by simpa [hτ] using hlast')
  · intro τ last hlast'
    rw [hmore]
    by_cases hτ : τ = f.track
    · subst hτ
      obtain rfl : f.keyId = last := by simpa [hlast] using hlast'
      simpa using hnext
    · have hbefore := h.next τ last (by simpa [hτ] using hlast')
      simpa [hτ, Ne.symm hτ] using hbefore
  · intro τ id
    rw [hmore]
    split
    · rename_i heq
      obtain ⟨rfl, rfl⟩ := heq
      have hlt : f.counter.toNat < UInt32.size := f.counter.toNat_lt
      omega
    · exact h.bounded τ id
  · intro g hg
    by_cases hτ : g.track = f.track
    · refine ⟨f.keyId, by simpa [hτ] using hlast, ?_⟩
      rcases List.mem_append.1 hg with hg | hg
      · exact h.keyId_le hid hg
      · rw [List.mem_singleton.1 hg]
        exact UInt32.le_refl _
    · rcases List.mem_append.1 hg with hg | hg
      · simpa [hτ] using h.last g hg
      · exact absurd (congrArg SentFrame.track (List.mem_singleton.1 hg)) hτ
  · intro g hg
    rw [hmore]
    rcases List.mem_append.1 hg with hg | hg
    · exact Nat.lt_of_lt_of_le (h.counter g hg) (Nat.le_add_right _ _)
    · obtain rfl := List.mem_singleton.1 hg
      rw [if_pos ⟨rfl, rfl⟩, hcounter]
      exact Nat.lt_succ_self _
  · refine List.pairwise_append.2 ⟨h.rising, List.pairwise_singleton _ _, ?_⟩
    intro g hg f' hf' hτ
    obtain rfl := List.mem_singleton.1 hf'
    rcases UInt32.lt_or_eq_of_le (h.keyId_le hid hg) with hlt | heq
    · exact Or.inl hlt
    · -- under the same number the counter is the number of frames before
      refine Or.inr ⟨heq, UInt32.lt_iff_toNat_lt.2 ?_⟩
      rw [hcounter, ← hτ, ← heq]
      exact h.counter g hg
  · intro g hg
    rcases List.mem_append.1 hg with hg | hg
    · exact h.legible g hg
    · rw [List.mem_singleton.1 hg]
      exact hlegible

/-- What becomes of a frame under the current key: it is sent with the number of frames before as
its counter, as long as that is a counter. -/
theorem encrypt (h : s.Counted iv sent) {id : KeyId} {key : MediaKey}
    (hkey : s.ring.currentKey? = some (id, key)) (track : ι) (plain : List UInt8) :
    if uses track id sent = UInt32.size then s.encrypt track plain = .error (.counterExhausted id)
    else ∃ bytes, s.encrypt track plain = .ok (bytes, { (s.encryptors track).turnTo id with
        next := uses track id sent + 1 }) ∧
      Frame.keyId bytes = id ∧ (Frame.counter bytes).toNat = uses track id sent := by
  have hbound := h.bounded track id
  have houtcome := FrameEncryptor.encrypt_of_currentKey? (e := s.encryptors track) hkey plain
  rw [h.next_turnTo (KeyRing.current_of_currentKey? hkey)] at houtcome
  rcases houtcome with ⟨hfull, herror⟩ | ⟨hlt, hbytes⟩
  · rw [if_pos (by omega)]
    exact herror
  · rw [if_neg (by omega)]
    exact hbytes

theorem take (h : s.Counted iv sent) (step : SendStep ι) :
    (s.take step).Counted iv (sent ++ (s.send? step).toList) := by
  cases step with
  | insert id key =>
    show Counted iv (sent ++ []) _
    rw [List.append_nil]
    refine h.withRing fun current hcurrent => ?_
    obtain ⟨current', hcurrent', -, -, hle⟩ := KeyRing.exists_current_insert s.ring id key
    exact ⟨current', hcurrent', hle current hcurrent⟩
  | purgeBefore id =>
    show Counted iv (sent ++ []) _
    rw [List.append_nil]
    exact h.withRing fun current hcurrent => ⟨current, hcurrent, UInt32.le_refl _⟩
  | encrypt track plain =>
    rw [Sender.take, send?]
    cases hkey : s.ring.currentKey? with
    | none =>
      have herror : s.encrypt track plain = .error .noCurrentKey := by
        rw [Sender.encrypt, FrameEncryptor.encrypt, hkey]
      rw [herror]
      simpa using h
    | some current =>
      obtain ⟨id, key⟩ := current
      have hcurrent := KeyRing.current_of_currentKey? hkey
      have houtcome := h.encrypt hkey track plain
      split at houtcome
      · rw [houtcome]
        simpa using h
      · obtain ⟨bytes, hok, rfl, hcounter⟩ := houtcome
        rw [hok]
        obtain ⟨key', hkey', hlegible⟩ := FrameEncryptor.decryptFrame_encrypt hok
        obtain ⟨-, rfl⟩ := Prod.mk.inj (Option.some.inj (hkey.symm.trans hkey'))
        rw [h.ivs track] at hlegible
        refine h.send (f := ⟨track, plain, key, bytes⟩) hcurrent hcounter hlegible ?_ ?_ rfl
        · rw [FrameEncryptor.iv_turnTo]
          exact h.ivs track
        · refine FrameEncryptor.lastKey_turnTo_of_le fun last hlast => ?_
          obtain ⟨current, hcurrent', hle⟩ := h.reached track last hlast
          cases hcurrent.symm.trans hcurrent'
          exact hle

theorem run (h : s.Counted iv sent) (steps : List (SendStep ι)) :
    (s.run steps).Counted iv (sent ++ s.sent steps) := by
  induction steps generalizing s sent with
  | nil => simpa [Sender.sent, Sender.run] using h
  | cons step rest ih =>
    rw [Sender.sent, ← List.append_assoc]
    exact ih (h.take step)

/-- No two frames have a number and a nonce in common. -/
theorem pairwise_nonce (h : s.Counted iv sent) (hiv : Function.Injective iv) :
    sent.Pairwise fun f g => (f.keyId, f.nonce iv) ≠ (g.keyId, g.nonce iv) := by
  refine h.rising.imp fun {f g} hrising heq => ?_
  obtain ⟨hid, hnonce⟩ := Prod.mk.inj heq
  obtain ⟨htrack, hcounter⟩ := Frame.nonce_inj hnonce
  rcases hrising (hiv htrack) with hlt | ⟨-, hlt⟩
  · rw [hid] at hlt
    exact UInt32.lt_irrefl _ hlt
  · rw [hcounter] at hlt
    exact UInt32.lt_irrefl _ hlt

/-- Once a track has used all counters of a number, what it sends is under a higher one. -/
theorem keyId_lt_of_uses {more : List (SentFrame ι)} (h : s.Counted iv (sent ++ more)) {track : ι}
    {id : KeyId} (hall : uses track id sent = UInt32.size) {f : SentFrame ι} (hf : f ∈ more)
    (htrack : f.track = track) : id < f.keyId := by
  have hused : 0 < uses track id sent := by
    rw [hall]
    decide
  obtain ⟨g, hg, heq⟩ := List.countP_pos_iff.1 hused
  obtain ⟨hgtrack, hgid⟩ := of_decide_eq_true heq
  rcases (List.pairwise_append.1 h.rising).2.2 g hg f hf (hgtrack.trans htrack.symm) with
    hlt | ⟨hsame, -⟩
  · rwa [hgid] at hlt
  · -- then the frame would be one more under the number than there are counters
    exfalso
    have hbound := h.bounded track id
    have hone : 0 < uses track id more :=
      List.countP_pos_iff.2 ⟨f, hf, decide_eq_true ⟨htrack, hsame.symm.trans hgid⟩⟩
    rw [uses_append] at hbound
    omega

end Counted

/-- In every run without clearing the ring, of any tracks with different IVs: the headers of the
frames of a track rise; no two frames have a number and a nonce in common; each frame is read with
the IV of its track by every ring that has its key; and a frame is sent under the current key with
the number of frames that its track sent under it before as its counter, until all counters are
used up.  From then on the track is silent until a higher number is current. -/
theorem nonces_along_runs (iv : ι → InitVector) (hiv : Function.Injective iv) (ring : KeyRing)
    (steps : List (SendStep ι)) :
    let s := (Sender.new ring iv).run steps
    let sent := (Sender.new ring iv).sent steps
    (sent.Pairwise fun f g => f.track = g.track → f.Precedes g) ∧
    (sent.Pairwise fun f g => (f.keyId, f.nonce iv) ≠ (g.keyId, g.nonce iv)) ∧
    (∀ f ∈ sent, ∀ ring : KeyRing, ring.get? f.keyId = some f.key →
      decryptFrame (iv f.track) ring f.bytes = .ok f.plain) ∧
    (∀ track plain, s.ring.currentKey? = none →
      s.encrypt track plain = .error .noCurrentKey) ∧
    (∀ track plain id key, s.ring.currentKey? = some (id, key) →
      if uses track id sent = UInt32.size then
        s.encrypt track plain = .error (.counterExhausted id)
      else ∃ f, s.send? (.encrypt track plain) = some f ∧ f.keyId = id ∧
        f.counter.toNat = uses track id sent) ∧
    ∀ track id, uses track id sent = UInt32.size →
      ∀ more, ∀ f ∈ s.sent more, f.track = track → id < f.keyId := by
  intro s sent
  have hcounted : s.Counted iv sent := (Counted.new ring iv).run steps
  refine ⟨hcounted.rising, hcounted.pairwise_nonce hiv, hcounted.legible, ?_, ?_, ?_⟩
  · intro track plain hnone
    rw [Sender.encrypt, FrameEncryptor.encrypt, hnone]
  · intro track plain id key hkey
    have houtcome := hcounted.encrypt hkey track plain
    split
    · rename_i hall
      rwa [if_pos hall] at houtcome
    · rename_i hall
      rw [if_neg hall] at houtcome
      obtain ⟨bytes, hok, hid, hcounter⟩ := houtcome
      refine ⟨⟨track, plain, key, bytes⟩, ?_, hid, hcounter⟩
      rw [send?, hkey, hok]
  · intro track id hall more f hf htrack
    exact (hcounted.run more).keyId_lt_of_uses hall hf htrack

/-- Two tracks, a rotation, a late key and a key that is forgotten. -/
def twoTracks : List (SendStep Bool) :=
  let key : MediaKey := Vector.replicate 16 7
  [.insert 5 key, .encrypt true [1], .encrypt false [2], .encrypt true [3], .insert 3 key,
    .encrypt true [4], .insert 9 key, .purgeBefore 9, .encrypt true [5], .encrypt false [6]]

/-- The headers that two tracks send: the late key changes nothing, the rotation starts both
counters again. -/
theorem nonces_twoTracks :
    let iv : Bool → InitVector := fun track => if track then ⟨1⟩ else ⟨2⟩
    Function.Injective iv ∧
    ((Sender.new (KeyRing.new 2) iv).sent twoTracks).map
        (fun f => (f.track, f.keyId, f.counter)) =
      [(true, 5, 0), (false, 5, 0), (true, 5, 1), (true, 5, 2), (true, 9, 0), (false, 9, 0)] ∧
    ((Sender.new (KeyRing.new 2) iv).sent twoTracks).Pairwise
      fun f g => (f.keyId, f.nonce iv) ≠ (g.keyId, g.nonce iv) := by
  intro iv
  have hiv : Function.Injective iv := by
    intro a b h
    revert a b
    decide
  refine ⟨hiv, by decide +kernel, ?_⟩
  exact (nonces_along_runs iv hiv (KeyRing.new 2) twoTracks).2.1

end Sender
end GroupCall

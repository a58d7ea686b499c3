/-
# What a frame says of itself

The header of an encrypted frame names the key and the counter, and both can be read back.  So
whoever has the key under that number, and the IV of the track, reads the frame.
-/
import GroupCall.Crypto.Frame
import GroupCall.Proofs.Crypto.Gcm
import Mathlib.Algebra.Group.Nat.Defs

namespace GroupCall

/-- A number is read back from its bytes, as far as they reach. -/
theorem Crypto.ofBigEndian_bigEndian (count n : Nat) :
    ofBigEndian (bigEndian count n) = n % 256 ^ count := by
  induction count generalizing n with
  | zero => simp [bigEndian, ofBigEndian, Nat.mod_one]
  | succ count ih =>
    have hlast : ofBigEndian (bigEndian (count + 1) n) =
        256 * ofBigEndian (bigEndian count (n / 256)) + n % 256 := by
      simp [bigEndian, ofBigEndian]
    rw [hlast, ih, Nat.pow_succ, Nat.mul_comm (256 ^ count), Nat.mod_mul]
    omega

/-- Numbers that the bytes can hold are told apart by them. -/
theorem Crypto.bigEndian_inj {count n n' : Nat} (hn : n < 256 ^ count) (hn' : n' < 256 ^ count)
    (h : bigEndian count n = bigEndian count n') : n = n' := by
  have hread := congrArg ofBigEndian h
  rwa [ofBigEndian_bigEndian, ofBigEndian_bigEndian, Nat.mod_eq_of_lt hn,
    Nat.mod_eq_of_lt hn'] at hread

/-- The number of a key is read back from a header. -/
theorem Frame.keyId_header (id : KeyId) (counter : UInt32) (rest : List UInt8) :
    Frame.keyId (Frame.header id counter ++ rest) = id := by
  have htake : (Frame.header id counter ++ rest).take 4 = Crypto.bigEndian 4 id.toNat := by
    rw [Frame.header, List.append_assoc, List.take_append_of_le_length (by simp)]
    exact List.take_of_length_le (by simp)
  have hlt : id.toNat < 256 ^ 4 := id.toNat_lt
  rw [Frame.keyId, htake, Crypto.ofBigEndian_bigEndian, Nat.mod_eq_of_lt hlt]
  exact UInt32.ofNat_toNat

/-- The counter of a frame is read back from a header. -/
theorem Frame.counter_header (id : KeyId) (counter : UInt32) (rest : List UInt8) :
    Frame.counter (Frame.header id counter ++ rest) = counter := by
  have hdrop : ((Frame.header id counter ++ rest).drop 4).take 4 =
      Crypto.bigEndian 4 counter.toNat := by
    rw [Frame.header, List.append_assoc, List.drop_left' (by simp), List.take_left' (by simp)]
  have hlt : counter.toNat < 256 ^ 4 := counter.toNat_lt
  rw [Frame.counter, hdrop, Crypto.ofBigEndian_bigEndian, Nat.mod_eq_of_lt hlt]
  exact UInt32.ofNat_toNat

theorem FrameEncryptor.iv_turnTo (e : FrameEncryptor) (id : KeyId) : (e.turnTo id).iv = e.iv := by
  rw [turnTo]
  split
  · rfl
  · split <;> rfl

/-- A frame is read back by every ring that has the key under which it was encrypted. -/
theorem FrameEncryptor.decryptFrame_encrypt {e next : FrameEncryptor} {ring : KeyRing}
    {plain frame : List UInt8} (h : e.encrypt ring plain = .ok (frame, next)) :
    ∃ key, ring.currentKey? = some (Frame.keyId frame, key) ∧
      ∀ ring' : KeyRing, ring'.get? (Frame.keyId frame) = some key →
        decryptFrame e.iv ring' frame = .ok plain := by
  rw [encrypt] at h
  split at h
  · cases h
  · rename_i id key hkey
    dsimp only at h
    split at h
    · cases h
    · cases h
      generalize UInt32.ofNat (e.turnTo id).next = counter
      rw [Frame.keyId_header, iv_turnTo]
      refine ⟨key, hkey, fun ring' hring => ?_⟩
      have hlength : (Frame.header id counter).length = Frame.headerLength := by
        simp [Frame.header, Frame.headerLength]
      have hopen : Frame.openWith e.iv key (Frame.header id counter ++
          Crypto.Gcm.encrypt key (Frame.nonce e.iv counter) (Frame.header id counter) plain) =
            some plain := by
        rw [Frame.openWith, Frame.counter_header, List.take_left' hlength,
          List.drop_left' hlength, Crypto.Gcm.decrypt?_encrypt]
      have hlong : ¬ (Frame.header id counter ++ Crypto.Gcm.encrypt key (Frame.nonce e.iv counter)
          (Frame.header id counter) plain).length < Frame.headerLength + Crypto.Gcm.tagLength := by
        simp [hlength, Crypto.Gcm.tagLength, Crypto.Gcm.encrypt]
      rw [decryptFrame, if_neg hlong, Frame.keyId_header, hring]
      dsimp only
      rw [hopen]

/-- An encrypted frame names the current key of the ring under which it was encrypted. -/
theorem FrameEncryptor.keyId_encrypt {e next : FrameEncryptor} {ring : KeyRing}
    {plain frame : List UInt8} (h : e.encrypt ring plain = .ok (frame, next)) :
    ring.currentKey?.map Prod.fst = some (Frame.keyId frame) := by
  obtain ⟨key, hcurrent, -⟩ := decryptFrame_encrypt h
  rw [hcurrent]
  rfl

end GroupCall

/-
# What was sealed can be opened

Combining bytes with the keystream twice gives the bytes back, and keeps their number, so
the tag stands where it is looked for and is the one that is computed again.
-/
import GroupCall.Crypto.Gcm

namespace GroupCall.Crypto
namespace Gcm

variable (keys : List Block) (nonce : Bytes 12)

theorem zipWith_xor_zipWith (bytes mask : List UInt8) (h : bytes.length ≤ mask.length) :
    List.zipWith (· ^^^ ·) (List.zipWith (· ^^^ ·) bytes mask) mask = bytes := by
  refine List.ext_getElem (by simp [h]) fun i hi hi' => ?_
  simp only [List.getElem_zipWith]
  rw [UInt8.xor_assoc, UInt8.xor_self, UInt8.xor_zero]

theorem length_keystreamXor (counter count : Nat) {bytes : List UInt8}
    (h : bytes.length ≤ 16 * count) :
    (keystreamXor keys nonce counter count bytes).length = bytes.length := by
  induction count generalizing counter bytes with
  | zero =>
    rw [keystreamXor, List.length_nil]
    omega
  | succ count ih =>
    have hdrop : (bytes.drop 16).length ≤ 16 * count := by rw [List.length_drop]; omega
    rw [keystreamXor, List.length_append, ih (counter + 1) hdrop]
    simp only [List.length_zipWith, List.length_take, List.length_drop, length_bytesOf]
    omega

theorem keystreamXor_keystreamXor (counter count : Nat) {bytes : List UInt8}
    (h : bytes.length ≤ 16 * count) :
    keystreamXor keys nonce counter count (keystreamXor keys nonce counter count bytes) =
      bytes := by
  induction count generalizing counter bytes with
  | zero => exact (List.eq_nil_of_length_eq_zero (by omega)).symm
  | succ count ih =>
    have hdrop : (bytes.drop 16).length ≤ 16 * count := by rw [List.length_drop]; omega
    have hrest := ih (counter + 1) hdrop
    have hlen := length_keystreamXor keys nonce (counter + 1) count hdrop
    have hback := zipWith_xor_zipWith (bytes.take 16)
      (bytesOf (Aes.encryptWith keys (counterBlock nonce counter)))
      (by rw [List.length_take, length_bytesOf]; omega)
    rw [keystreamXor, keystreamXor]
    generalize hfirst : List.zipWith (· ^^^ ·) (bytes.take 16)
      (bytesOf (Aes.encryptWith keys (counterBlock nonce counter))) = first at hback
    generalize keystreamXor keys nonce (counter + 1) count (bytes.drop 16) = rest at hrest hlen
    have hlength : first.length = min 16 bytes.length := by
      rw [← hfirst]
      simp only [List.length_zipWith, List.length_take, length_bytesOf]
      omega
    -- the last piece may be shorter, but then nothing follows
    have hsplit : (first ++ rest).take 16 = first ∧ (first ++ rest).drop 16 = rest := by
      rw [List.length_drop] at hlen
      by_cases hshort : bytes.length < 16
      · obtain rfl : rest = [] := List.eq_nil_of_length_eq_zero (by omega)
        rw [List.append_nil]
        exact ⟨List.take_of_length_le (by omega), List.drop_of_length_le (by omega)⟩
      · have hsixteen : first.length = 16 := by omega
        exact ⟨List.take_left' hsixteen, List.drop_left' hsixteen⟩
    rw [hsplit.1, hsplit.2, hback, hrest, List.take_append_drop]

@[simp] theorem length_crypt (bytes : List UInt8) :
    (crypt keys nonce bytes).length = bytes.length :=
  length_keystreamXor keys nonce 2 _ (by omega)

@[simp] theorem crypt_crypt (bytes : List UInt8) :
    crypt keys nonce (crypt keys nonce bytes) = bytes := by
  rw [crypt, length_crypt]
  exact keystreamXor_keystreamXor keys nonce 2 _ (by omega)

@[simp] theorem length_tag (aad body : List UInt8) : (tag keys nonce aad body).length = 16 := by
  simp [tag]

/-- A message is found again after it was sealed. -/
theorem decrypt?_encrypt (key : Block) (aad message : List UInt8) :
    decrypt? key nonce aad (encrypt key nonce aad message) = some message := by
  have hlength : (encrypt key nonce aad message).length - tagLength =
      (crypt (Aes.roundKeys key) nonce message).length := by
    simp [encrypt, tagLength]
  rw [decrypt?, if_neg (by simp [encrypt, tagLength])]
  dsimp only
  rw [hlength, encrypt, List.take_left, List.drop_left, if_pos rfl, crypt_crypt]

end Gcm
end GroupCall.Crypto

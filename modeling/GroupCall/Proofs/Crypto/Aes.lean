/-
# Decryption undoes encryption

The cipher is a chain of steps, and each of them can be undone: the substitution of bytes,
the shift of rows, the mixing of columns and the addition of a key.  Products in the field
of 256 elements are computed on numbers here, where the finitely many checks that the
substitution and the mixing need are quick.
-/
import GroupCall.Crypto.Aes
import Mathlib.Algebra.Group.Nat.Defs

namespace GroupCall.Crypto
namespace Aes

/-! ## The field, on numbers -/

/-- Multiplies a number below 256 by the element 2. -/
def twice (a : Nat) : Nat := 2 * a ^^^ a / 128 * 0x11b

/-- Multiplies numbers below 256 by the lowest bits of the second, of which there are so
many. -/
def product : Nat → Nat → Nat → Nat
  | 0, _, _ => 0
  | count + 1, a, b => b % 2 * a ^^^ product count (twice a) (b / 2)

/-- What holds of all numbers below 256 holds of all bytes. -/
theorem forall_byte {p : UInt8 → Prop} (h : ∀ n < 256, p (UInt8.ofNat n)) (a : UInt8) : p a := by
  have ha := h a.toNat a.toNat_lt
  rwa [UInt8.ofNat_toNat] at ha

theorem toNat_double (a : UInt8) : (double a).toNat = twice a.toNat :=
  forall_byte (p := fun a => (double a).toNat = twice a.toNat) (by decide +kernel) a

/-- The steps of a product from the bit `start` on. -/
theorem toNat_foldl_mul (b : UInt8) (count start : Nat) (h : start + count ≤ 8) (p d : UInt8) :
    ((List.range' start count).foldl
      (fun (acc : UInt8 × UInt8) i =>
        (if (b >>> UInt8.ofNat i) &&& 1 = 0 then acc.1 else acc.1 ^^^ acc.2, double acc.2))
      (p, d)).1.toNat = p.toNat ^^^ product count d.toNat (b.toNat / 2 ^ start) := by
  induction count generalizing start p d with
  | zero => simp [product]
  | succ count ih =>
    have hbit : ((b >>> UInt8.ofNat start) &&& 1).toNat = b.toNat / 2 ^ start % 2 := by
      rw [UInt8.toNat_and, UInt8.toNat_shiftRight, UInt8.toNat_ofNat', UInt8.toNat_one,
        Nat.and_one_is_mod, Nat.shiftRight_eq_div_pow]
      congr 3
      omega
    have hstep : (if (b >>> UInt8.ofNat start) &&& 1 = 0 then p else p ^^^ d).toNat =
        p.toNat ^^^ b.toNat / 2 ^ start % 2 * d.toNat := by
      rw [← hbit]
      split
      · rename_i hzero
        simp [hzero]
      · rename_i hone
        have hone : ((b >>> UInt8.ofNat start) &&& 1).toNat = 1 := by
          have hne : ((b >>> UInt8.ofNat start) &&& 1).toNat ≠ 0 :=
            fun heq => hone (UInt8.toNat_inj.1 heq)
          omega
        rw [hone, UInt8.toNat_xor, Nat.one_mul]
    rw [List.range'_succ, List.foldl_cons, ih (start + 1) (by omega), hstep, toNat_double,
      product, Nat.xor_assoc, Nat.div_div_eq_div_mul, Nat.pow_succ]

theorem toNat_mul (a b : UInt8) : (mul a b).toNat = product 8 a.toNat b.toNat := by
  have h := toNat_foldl_mul b 8 0 (by omega) 0 a
  rw [← List.range_eq_range'] at h
  rw [mul, h]
  simp

/-! ## The substitution -/

/-- The power of exponent 254 of a number below 256. -/
def power254 (a : Nat) : Nat :=
  let a2 := product 8 a a
  let a3 := product 8 a2 a
  let a12 := product 8 (product 8 a3 a3) (product 8 a3 a3)
  let a15 := product 8 a12 a3
  let a30 := product 8 a15 a15
  let a60 := product 8 a30 a30
  let a120 := product 8 a60 a60
  let a240 := product 8 a120 a120
  product 8 (product 8 a240 a12) a2

theorem toNat_inverse (a : UInt8) : (inverse a).toNat = power254 a.toNat := by
  simp only [inverse, toNat_mul, power254]

theorem power254_power254 : ∀ n < 256, power254 (power254 n) = n := by decide +kernel

@[simp] theorem inverse_inverse (a : UInt8) : inverse (inverse a) = a := by
  rw [← UInt8.toNat_inj, toNat_inverse, toNat_inverse, power254_power254 _ a.toNat_lt]

/-- The affine map behind the inverse can be undone. -/
theorem affine_inverse (b : UInt8) :
    let a := b ^^^ rotl b 1 ^^^ rotl b 2 ^^^ rotl b 3 ^^^ rotl b 4 ^^^ 0x63
    rotl a 1 ^^^ rotl a 3 ^^^ rotl a 6 ^^^ 0x05 = b :=
  forall_byte (p := fun b =>
    let a := b ^^^ rotl b 1 ^^^ rotl b 2 ^^^ rotl b 3 ^^^ rotl b 4 ^^^ 0x63
    rotl a 1 ^^^ rotl a 3 ^^^ rotl a 6 ^^^ 0x05 = b) (by decide +kernel) b

theorem restore_substitute (a : UInt8) : restore (substitute a) = a := by
  rw [restore, substitute, affine_inverse, inverse_inverse]

theorem sub_eq (a : UInt8) : sub a = substitute a := by
  simp [sub, substitutes, Array.getD_eq_getD_getElem?, a.toNat_lt]

theorem unsub_eq (a : UInt8) : unsub a = restore a := by
  simp [unsub, restored, Array.getD_eq_getD_getElem?, a.toNat_lt]

@[simp] theorem unsub_sub (a : UInt8) : unsub (sub a) = a := by
  rw [unsub_eq, sub_eq, restore_substitute]

/-! ## Steps of a round -/

theorem product_xor (count a b c : Nat) :
    product count a (b ^^^ c) = product count a b ^^^ product count a c := by
  induction count generalizing a b c with
  | zero => simp [product]
  | succ count ih =>
    have hbit : (b ^^^ c) % 2 * a = b % 2 * a ^^^ c % 2 * a := by
      have hmod : (b ^^^ c) % 2 = b % 2 ^^^ c % 2 := Nat.xor_mod_two_pow (n := 1)
      rcases Nat.mod_two_eq_zero_or_one b with hb | hb <;>
        rcases Nat.mod_two_eq_zero_or_one c with hc | hc <;>
          simp [hmod, hb, hc]
    rw [product, product, product, hbit, Nat.xor_div_two, ih]
    ac_rfl

/-- Products are additive in the second factor. -/
theorem mul_xor (a b c : UInt8) : mul a (b ^^^ c) = mul a b ^^^ mul a c := by
  rw [← UInt8.toNat_inj, UInt8.toNat_xor]
  simp only [toNat_mul, UInt8.toNat_xor, product_xor]

/-- What the mixing of a column and its inverse make of one byte together. -/
theorem product_columns : ∀ n < 256,
    product 8 14 (product 8 2 n) ^^^ product 8 11 (product 8 1 n) ^^^
        product 8 13 (product 8 1 n) ^^^ product 8 9 (product 8 3 n) = n ∧
      product 8 14 (product 8 3 n) ^^^ product 8 11 (product 8 2 n) ^^^
        product 8 13 (product 8 1 n) ^^^ product 8 9 (product 8 1 n) = 0 ∧
      product 8 14 (product 8 1 n) ^^^ product 8 11 (product 8 3 n) ^^^
        product 8 13 (product 8 2 n) ^^^ product 8 9 (product 8 1 n) = 0 ∧
      product 8 14 (product 8 1 n) ^^^ product 8 11 (product 8 1 n) ^^^
        product 8 13 (product 8 3 n) ^^^ product 8 9 (product 8 2 n) = 0 := by
  decide +kernel

theorem mul_columns (a : UInt8) :
    mul 14 (mul 2 a) ^^^ mul 11 (mul 1 a) ^^^ mul 13 (mul 1 a) ^^^ mul 9 (mul 3 a) = a ∧
      mul 14 (mul 3 a) ^^^ mul 11 (mul 2 a) ^^^ mul 13 (mul 1 a) ^^^ mul 9 (mul 1 a) = 0 ∧
      mul 14 (mul 1 a) ^^^ mul 11 (mul 3 a) ^^^ mul 13 (mul 2 a) ^^^ mul 9 (mul 1 a) = 0 ∧
      mul 14 (mul 1 a) ^^^ mul 11 (mul 1 a) ^^^ mul 13 (mul 3 a) ^^^ mul 9 (mul 2 a) = 0 := by
  simp only [← UInt8.toNat_inj, UInt8.toNat_xor, toNat_mul, UInt8.reduceToNat]
  exact product_columns a.toNat a.toNat_lt

/-- A byte is found again after its column was mixed. -/
theorem unmix_mix (a b c d : UInt8) :
    mul 14 (mul 2 a ^^^ mul 3 b ^^^ mul 1 c ^^^ mul 1 d) ^^^
      mul 11 (mul 2 b ^^^ mul 3 c ^^^ mul 1 d ^^^ mul 1 a) ^^^
      mul 13 (mul 2 c ^^^ mul 3 d ^^^ mul 1 a ^^^ mul 1 b) ^^^
      mul 9 (mul 2 d ^^^ mul 3 a ^^^ mul 1 b ^^^ mul 1 c) = a := by
  -- by additivity each of the four bytes counts on its own, and three of them cancel out
  obtain ⟨ha, -, -, -⟩ := mul_columns a
  obtain ⟨-, hb, -, -⟩ := mul_columns b
  obtain ⟨-, -, hc, -⟩ := mul_columns c
  obtain ⟨-, -, -, hd⟩ := mul_columns d
  simp only [mul_xor]
  calc
    _ = (mul 14 (mul 2 a) ^^^ mul 11 (mul 1 a) ^^^ mul 13 (mul 1 a) ^^^ mul 9 (mul 3 a)) ^^^
        (mul 14 (mul 3 b) ^^^ mul 11 (mul 2 b) ^^^ mul 13 (mul 1 b) ^^^ mul 9 (mul 1 b)) ^^^
        (mul 14 (mul 1 c) ^^^ mul 11 (mul 3 c) ^^^ mul 13 (mul 2 c) ^^^ mul 9 (mul 1 c)) ^^^
        (mul 14 (mul 1 d) ^^^ mul 11 (mul 1 d) ^^^ mul 13 (mul 3 d) ^^^ mul 9 (mul 2 d)) := by
      ac_rfl
    _ = a := by rw [ha, hb, hc, hd, UInt8.xor_zero, UInt8.xor_zero, UInt8.xor_zero]

/-! ### Blocks -/

theorem at_build (f : Nat → Nat → UInt8) (c r : Nat) : at_ (build f) c r = f (c % 4) (r % 4) := by
  have hlt : 4 * (c % 4) + r % 4 < 16 := by omega
  have hc : (4 * (c % 4) + r % 4) / 4 = c % 4 := by omega
  have hr : (4 * (c % 4) + r % 4) % 4 = r % 4 := by omega
  simp [at_, build, Array.getD_eq_getD_getElem?, hlt, hc, hr]

/-- A block is its bytes by column and row. -/
theorem build_at (b : Block) {f : Nat → Nat → UInt8}
    (h : ∀ c < 4, ∀ r < 4, f c r = at_ b c r) : build f = b := by
  ext i hi
  have hplace : 4 * (i / 4 % 4) + i % 4 % 4 = i := by omega
  rw [build, Vector.getElem_ofFn, h (i / 4) (by omega) (i % 4) (by omega), at_, hplace]
  simp [Array.getD_eq_getD_getElem?, hi]

/-- Columns and rows count modulo 4. -/
theorem at_congr (b : Block) {c c' r r' : Nat} (hc : c % 4 = c' % 4) (hr : r % 4 = r' % 4) :
    at_ b c r = at_ b c' r' := by
  rw [at_, at_, hc, hr]

@[simp] theorem unsubBytes_subBytes (b : Block) : unsubBytes (subBytes b) = b := by
  ext i hi
  rw [unsubBytes, subBytes, Vector.getElem_map, Vector.getElem_map, unsub_sub]

theorem at_shiftRows (b : Block) (c r : Nat) : at_ (shiftRows b) c r = at_ b (c + r) r := by
  rw [shiftRows, at_build]
  exact at_congr b (Nat.add_mod c r 4).symm (Nat.mod_mod r 4)

@[simp] theorem unshiftRows_shiftRows (b : Block) : unshiftRows (shiftRows b) = b := by
  rw [unshiftRows]
  refine build_at b fun c _ r hr => ?_
  rw [at_shiftRows, show c + 4 - r + r = c + 4 by omega]
  exact at_congr b (Nat.add_mod_right c 4) rfl

theorem at_mixColumns (b : Block) (c r : Nat) : at_ (mixColumns b) c r =
    mul 2 (at_ b c r) ^^^ mul 3 (at_ b c (r + 1)) ^^^ mul 1 (at_ b c (r + 2)) ^^^
      mul 1 (at_ b c (r + 3)) := by
  have hrow : ∀ i, at_ b (c % 4) (r % 4 + i) = at_ b c (r + i) :=
    fun i => at_congr b (by omega) (by omega)
  rw [mixColumns, mixWith, at_build, hrow, hrow, hrow,
    at_congr b (Nat.mod_mod c 4) (Nat.mod_mod r 4)]

@[simp] theorem unmixColumns_mixColumns (b : Block) : unmixColumns (mixColumns b) = b := by
  rw [unmixColumns, mixWith]
  refine build_at b fun c _ r _ => ?_
  have hrow : ∀ i, at_ b c (r + (4 + i)) = at_ b c (r + i) :=
    fun i => at_congr b rfl (by omega)
  have h4 := hrow 0
  have h5 := hrow 1
  have h6 := hrow 2
  simp only [at_mixColumns, Nat.add_assoc, Nat.reduceAdd, Nat.add_zero] at h4 h5 h6 ⊢
  rw [h4, h5, h6]
  exact unmix_mix _ _ _ _

theorem xorBytes_comm {n : Nat} (a b : Bytes n) : xorBytes a b = xorBytes b a := by
  ext i hi
  simp only [xorBytes, Vector.getElem_zipWith, UInt8.xor_comm]

@[simp] theorem xorBytes_xorBytes_right {n : Nat} (a b : Bytes n) :
    xorBytes (xorBytes a b) b = a := by
  rw [xorBytes_comm, xorBytes_comm a b, xorBytes_xorBytes]

/-! ## The cipher -/

theorem encryptRounds_cons (b k : Block) {rest : List Block} (h : rest ≠ []) :
    encryptRounds b (k :: rest) =
      encryptRounds (xorBytes (mixColumns (shiftRows (subBytes b))) k) rest := by
  rw [encryptRounds]
  exact h

theorem decryptRounds_cons (b k : Block) {rest : List Block} (h : rest ≠ []) :
    decryptRounds b (k :: rest) =
      decryptRounds (unmixColumns (xorBytes (unsubBytes (unshiftRows b)) k)) rest := by
  rw [decryptRounds]
  exact h

/-- The rounds of decryption take the rounds of encryption back, the last one first; what is
left is the block as it was, up to the steps that the round before it has in common with
them. -/
theorem decryptRounds_encryptRounds (keys : List Block) (last b : Block) {rest : List Block}
    (h : rest ≠ []) :
    decryptRounds (xorBytes (encryptRounds b (keys ++ [last])) last) (keys.reverse ++ rest) =
      decryptRounds (shiftRows (subBytes b)) rest := by
  -- the first round of encryption is the last one that is taken back, so it joins `rest`
  induction keys generalizing b rest with
  | nil => simp [encryptRounds]
  | cons k keys ih =>
    rw [List.cons_append, encryptRounds_cons b k (by simp), List.reverse_cons, List.append_assoc,
      ih _ (by simp), List.singleton_append, decryptRounds_cons _ k h, unshiftRows_shiftRows,
      unsubBytes_subBytes, xorBytes_xorBytes_right, unmixColumns_mixColumns]

theorem decryptWith_encryptWith (k : Block) {rest : List Block} (h : rest ≠ []) (b : Block) :
    decryptWith (k :: rest) (encryptWith (k :: rest) b) = b := by
  obtain ⟨keys, last, rfl⟩ := (List.eq_nil_or_concat rest).resolve_left h
  have hreverse : (k :: keys.concat last).reverse = last :: (keys.reverse ++ [k]) := by simp
  have hlast : ∀ c, decryptRounds c [k] = xorBytes (unsubBytes (unshiftRows c)) k := fun _ => rfl
  rw [decryptWith, hreverse, encryptWith, List.concat_eq_append]
  dsimp only
  rw [decryptRounds_encryptRounds keys last _ (by simp), hlast, unshiftRows_shiftRows,
    unsubBytes_subBytes, xorBytes_xorBytes_right]

/-- A block is found again after it was encrypted. -/
theorem decrypt_encrypt (key b : Block) : decrypt key (encrypt key b) = b :=
  decryptWith_encryptWith key (by simp [laterKeys]) b

end Aes
end GroupCall.Crypto

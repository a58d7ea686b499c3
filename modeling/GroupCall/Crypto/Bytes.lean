/-
# Bytes

Strings of a fixed number of bytes, and the numbers that bytes write in either order.
-/

namespace GroupCall.Crypto

/-- A string of `n` bytes. -/
abbrev Bytes (n : Nat) := Vector UInt8 n

/-- A list of bytes as a string of `n` bytes, if it has that length. -/
def sized? (n : Nat) (bytes : List UInt8) : Option (Bytes n) :=
  if h : bytes.length = n then some ⟨bytes.toArray, by simpa using h⟩ else none

/-- The bytes of a string, as a list. -/
def bytesOf {n : Nat} (b : Bytes n) : List UInt8 := b.toList

/-- Combines two strings bit by bit, a bit being set where they differ. -/
def xorBytes {n : Nat} (a b : Bytes n) : Bytes n := a.zipWith (· ^^^ ·) b

/-- The last `count` bytes of a number, most significant first. -/
def bigEndian : Nat → Nat → List UInt8
  | 0, _ => []
  | count + 1, n => bigEndian count (n / 256) ++ [UInt8.ofNat n]

/-- The number that bytes write, most significant first. -/
def ofBigEndian (bytes : List UInt8) : Nat := bytes.foldl (fun n b => 256 * n + b.toNat) 0

/-- The number that bytes write, least significant first. -/
def ofLittleEndian : List UInt8 → Nat
  | [] => 0
  | b :: rest => b.toNat + 256 * ofLittleEndian rest

/-- The first `count` bytes of a number, least significant first. -/
def littleEndian : Nat → Nat → List UInt8
  | 0, _ => []
  | count + 1, n => UInt8.ofNat n :: littleEndian count (n / 256)

@[simp] theorem length_bigEndian (count n : Nat) : (bigEndian count n).length = count := by
  induction count generalizing n with
  | zero => rfl
  | succ count ih => simp [bigEndian, ih]

@[simp] theorem length_littleEndian (count n : Nat) : (littleEndian count n).length = count := by
  induction count generalizing n with
  | zero => rfl
  | succ count ih => simp [littleEndian, ih]

@[simp] theorem length_bytesOf {n : Nat} (b : Bytes n) : (bytesOf b).length = n := by
  simp [bytesOf]

theorem sized?_bytesOf {n : Nat} (b : Bytes n) : sized? n (bytesOf b) = some b := by
  rw [sized?, dif_pos (length_bytesOf b)]
  obtain ⟨a, ha⟩ := b
  simp [bytesOf, Vector.toList]

theorem sized?_eq_none_iff {n : Nat} {bytes : List UInt8} :
    sized? n bytes = none ↔ bytes.length ≠ n := by
  simp [sized?]

/-- Combining twice with the same string changes nothing. -/
theorem xorBytes_xorBytes {n : Nat} (a b : Bytes n) : xorBytes a (xorBytes a b) = b := by
  ext i hi
  simp only [xorBytes, Vector.getElem_zipWith]
  rw [← UInt8.xor_assoc, UInt8.xor_self, UInt8.zero_xor]

end GroupCall.Crypto

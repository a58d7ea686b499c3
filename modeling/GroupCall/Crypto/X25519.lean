/-
# Shared secrets on a Montgomery curve

The function X25519 of RFC 7748: multiplication of a point by a number on the curve over the
integers modulo `2 ^ 255 - 19`, by first coordinates only.  A public point is not checked;
its top bit is ignored and its coordinate is taken modulo the prime.
-/
import GroupCall.Crypto.Bytes

namespace GroupCall.Crypto

namespace X25519

/-- The prime of the field. -/
def prime : Nat := (1 <<< 255) - 19

/-- Adds in the field. -/
def add (a b : Nat) : Nat := (a + b) % prime

/-- Subtracts in the field. -/
def sub (a b : Nat) : Nat := (a + (prime - b % prime)) % prime

/-- Multiplies in the field. -/
def mul (a b : Nat) : Nat := a * b % prime

/-- The power of an element, by the bits of the exponent below `2 ^ count`. -/
def pow (a e count : Nat) : Nat :=
  (List.range count).foldl
    (fun acc i =>
      let square := mul acc acc
      if e.testBit (count - 1 - i) then mul square a else square) 1

/-- The inverse of an element, and zero for zero. -/
def inverse (a : Nat) : Nat := pow a (prime - 2) 255

/-- Two points of the ladder, each as a fraction of coordinates. -/
structure Ladder where
  /-- The numerator of the first point. -/
  x2 : Nat
  /-- The denominator of the first point. -/
  z2 : Nat
  /-- The numerator of the second point. -/
  x3 : Nat
  /-- The denominator of the second point. -/
  z3 : Nat

/-- Doubles the first point and adds the two, whose difference is `u`. -/
def Ladder.advance (u : Nat) (s : Ladder) : Ladder :=
  let a := add s.x2 s.z2
  let aa := mul a a
  let b := sub s.x2 s.z2
  let bb := mul b b
  let e := sub aa bb
  let da := mul (sub s.x3 s.z3) a
  let cb := mul (add s.x3 s.z3) b
  let sum := add da cb
  let difference := sub da cb
  ⟨mul aa bb, mul e (add aa (mul 121665 e)), mul sum sum, mul u (mul difference difference)⟩

/-- Exchanges the two points. -/
def Ladder.swap (s : Ladder) : Ladder := ⟨s.x3, s.z3, s.x2, s.z2⟩

/-- One step of the ladder, for one bit of the number. -/
def Ladder.step (u : Nat) (bit : Bool) (s : Ladder) : Ladder :=
  if bit then (s.swap.advance u).swap else s.advance u

/-- The first coordinate of the multiple of a point. -/
def multiply (k u : Nat) : Nat :=
  let final := (List.range 255).foldl
    (fun (s : Ladder) i => s.step u (k.testBit (254 - i))) ⟨1, 0, u, 1⟩
  mul final.x2 (inverse final.z2)

/-- The number of a secret: its lowest three bits are cleared, its top bit too, and the bit
below that is set. -/
def scalar (secret : Bytes 32) : Nat :=
  let n := ofLittleEndian (bytesOf secret)
  n % (1 <<< 254) / 8 * 8 + (1 <<< 254)

/-- The coordinate of a public point. -/
def coordinate (point : Bytes 32) : Nat := ofLittleEndian (bytesOf point) % (1 <<< 255) % prime

/-- The point of a coordinate. -/
def pointOf (u : Nat) : Bytes 32 := ⟨(littleEndian 32 u).toArray, by simp⟩

end X25519

/-- The secret shared with the owner of a public point. -/
def x25519 (secret point : Bytes 32) : Bytes 32 :=
  X25519.pointOf (X25519.multiply (X25519.scalar secret) (X25519.coordinate point))

/-- The point that every public point is a multiple of. -/
def basePoint : Bytes 32 := X25519.pointOf 9

/-- The public point of a secret. -/
def publicPoint (secret : Bytes 32) : Bytes 32 := x25519 secret basePoint

end GroupCall.Crypto

/-
# Decimal numbers within a bound

Numbers inside descriptions and the keys of maps are written in decimal.  A leading plus
sign and leading zeros are read too; anything else, and a number above the bound, is not a
number.
-/

namespace GroupCall.Text

/-- The value of a decimal digit. -/
def digitValue? (c : Char) : Option Nat :=
  if '0' ≤ c ∧ c ≤ '9' then some (c.toNat - '0'.toNat) else none

/-- Reads digits behind a number that has the value `n` so far. -/
def readDigits (n : Nat) : List Char → Option Nat
  | [] => some n
  | c :: rest => (digitValue? c).bind fun d => readDigits (10 * n + d) rest

/-- A text without the plus sign at its front, if there is one. -/
def dropPlus : List Char → List Char
  | '+' :: rest => rest
  | text => text

/-- The number that a text writes, if it is at most `bound`. -/
def readNat? (bound : Nat) (text : List Char) : Option Nat :=
  if (dropPlus text).isEmpty then none
  else (readDigits 0 (dropPlus text)).bind fun n => if n ≤ bound then some n else none

/-- The 32-bit number that a text writes. -/
def readUInt32? (text : List Char) : Option UInt32 :=
  (readNat? (UInt32.size - 1) text).map UInt32.ofNat

/-- The 64-bit number that a text writes. -/
def readUInt64? (text : List Char) : Option UInt64 :=
  (readNat? (UInt64.size - 1) text).map UInt64.ofNat

/-- The decimal digits of a number, without leading zeros. -/
def decimal (n : Nat) : List Char := Nat.toDigits 10 n

example : readUInt32? "+007".toList = some 7 := by decide

example : readUInt32? "4294967296".toList = none := by decide

example : readUInt32? "+".toList = none ∧ readUInt32? "-0".toList = none := by decide

end GroupCall.Text

/-
# Numbers in JSON text

A numeral is kept as it is written: sign, digits, fraction and exponent.  It is an integer
only if it has neither fraction nor exponent and fits a signed or unsigned 64-bit word;
minus zero is none.  `overflows` says which numerals are too large to be numbers at all:
those that a double-precision reading takes to infinity, where the reading keeps the digits
that fit 64 bits and multiplies them by a rounded power of ten.
-/

namespace GroupCall.Json

/-- A number as it is written. -/
structure Numeral where
  /-- Whether a minus sign stands in front. -/
  negative : Bool
  /-- The digits in front of the point. -/
  whole : List Nat
  /-- The digits behind the point; none if there is no point. -/
  fraction : List Nat
  /-- Whether the exponent is negative, and its digits. -/
  exponent : Option (Bool × List Nat)
deriving DecidableEq, Repr

namespace Numeral

/-- The number that decimal digits write. -/
def ofDigits (digits : List Nat) : Nat := digits.foldl (fun n d => 10 * n + d) 0

/-- The integer that a numeral stands for. -/
def integer? (n : Numeral) : Option Int :=
  let value := ofDigits n.whole
  if !n.fraction.isEmpty || n.exponent.isSome then none
  else if n.negative then
    if 0 < value ∧ value ≤ 0x8000000000000000 then some (-(value : Int)) else none
  else if value < UInt64.size then some value
  else none

/-- The digits of a natural number. -/
def digitsOf (n : Nat) : List Nat := (Nat.toDigits 10 n).map fun c => c.toNat - '0'.toNat

/-- The numeral of an integer. -/
def ofInt (i : Int) : Numeral := ⟨i < 0, digitsOf i.natAbs, [], none⟩

/-! ## Numbers that are too large -/

/-- Takes digits behind a significand while it stays below `2 ^ 64`; returns the
significand and how many digits were taken. -/
def absorb (significand taken : Nat) : List Nat → Nat × Nat
  | [] => (significand, taken)
  | d :: rest =>
    if 10 * significand + d < UInt64.size then absorb (10 * significand + d) (taken + 1) rest
    else (significand, taken)

/-- The significand of a numeral, and the power of ten that belongs to it. -/
def scaled (n : Numeral) : Nat × Int :=
  let front := absorb 0 0 n.whole
  let back := absorb front.1 0 n.fraction
  let written : Int := match n.exponent with
    | none => 0
    | some (true, digits) => -(ofDigits digits : Int)
    | some (false, digits) => ofDigits digits
  (back.1, (n.whole.length - front.2 : Nat) - (back.2 : Int) + written)

/-- A natural number rounded to 53 significant bits, a tie going to the even neighbour. -/
def roundDouble (n : Nat) : Nat :=
  let shift := n.log2 + 1 - 53
  let step := 1 <<< shift
  let q := n / step
  let r := n % step
  if 2 * r > step ∨ 2 * r = step ∧ q % 2 = 1 then (q + 1) * step else q * step

/-- The least number that rounds to infinity in double precision. -/
def infinite : Nat := (1 <<< 1024) - (1 <<< 970)

/-- Whether a numeral is too large to be read as a number. -/
def overflows (n : Numeral) : Bool :=
  n.integer?.isNone &&
    let (significand, power) := n.scaled
    if significand = 0 ∨ power < 0 then false
    else if power > 308 then true
    else infinite ≤ roundDouble significand * roundDouble (Nat.pow 10 power.toNat)

example : (Numeral.mk false [1] [] (some (false, [3, 0, 9]))).overflows = true := by decide

example : (Numeral.mk true [0] [] (some (false, [9, 9, 9]))).overflows = false := by decide

end Numeral
end GroupCall.Json

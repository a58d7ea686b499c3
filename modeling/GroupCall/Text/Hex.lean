/-
# Hexadecimal text

Track IVs travel as the 16 hexadecimal digits of a 64-bit number.  They are written in
lower case and read in either case.
-/

namespace GroupCall.Text

/-- The lower-case digit of a number below 16. -/
def hexDigit (n : Nat) : Char :=
  if n < 10 then Char.ofNat (n + '0'.toNat) else Char.ofNat (n - 10 + 'a'.toNat)

/-- The value of a hexadecimal digit of either case. -/
def hexValue? (c : Char) : Option Nat :=
  if '0' ≤ c ∧ c ≤ '9' then some (c.toNat - '0'.toNat)
  else if 'a' ≤ c ∧ c ≤ 'f' then some (c.toNat - 'a'.toNat + 10)
  else if 'A' ≤ c ∧ c ≤ 'F' then some (c.toNat - 'A'.toNat + 10)
  else none

/-- The last `count` hexadecimal digits of a number. -/
def hexDigits : Nat → Nat → List Char
  | 0, _ => []
  | count + 1, n => hexDigits count (n / 16) ++ [hexDigit (n % 16)]

/-- Reads hexadecimal digits behind a number that has the value `n` so far. -/
def readHexDigits (n : Nat) : List Char → Option Nat
  | [] => some n
  | c :: rest => (hexValue? c).bind fun d => readHexDigits (16 * n + d) rest

/-- The 16 digits of a 64-bit number. -/
def hex64 (n : UInt64) : String := String.ofList (hexDigits 16 n.toNat)

/-- The 64-bit number that 16 digits write. -/
def readHex64? (text : String) : Option UInt64 :=
  if text.toList.length = 16 then (readHexDigits 0 text.toList).map UInt64.ofNat else none

/-! ## Bytes -/

/-- Bytes as two digits each. -/
def hexBytes (bytes : List UInt8) : String :=
  String.ofList (bytes.flatMap fun b => hexDigits 2 b.toNat)

/-- The bytes that pairs of digits write. -/
def readHexPairs : List Char → Option (List UInt8)
  | [] => some []
  | [_] => none
  | a :: b :: rest => do
    let high ← hexValue? a
    let low ← hexValue? b
    let bytes ← readHexPairs rest
    return UInt8.ofNat (16 * high + low) :: bytes

/-- The bytes that a text writes, two digits each. -/
def readHexBytes? (text : String) : Option (List UInt8) := readHexPairs text.toList

/-! ## What the digits write -/

theorem hexValue?_hexDigit {n : Nat} (h : n < 16) : hexValue? (hexDigit n) = some n := by
  have all : ∀ m ∈ List.range 16, hexValue? (hexDigit m) = some m := by decide
  exact all n (List.mem_range.2 h)

@[simp] theorem length_hexDigits (count n : Nat) : (hexDigits count n).length = count := by
  induction count generalizing n with
  | zero => rfl
  | succ count ih => simp [hexDigits, ih]

theorem readHexDigits_append (n : Nat) (a b : List Char) :
    readHexDigits n (a ++ b) = (readHexDigits n a).bind fun m => readHexDigits m b := by
  induction a generalizing n with
  | nil => rfl
  | cons c rest ih =>
    simp only [List.cons_append, readHexDigits]
    cases hexValue? c with
    | none => rfl
    | some d => exact ih _

theorem readHexDigits_hexDigits (count n m : Nat) :
    readHexDigits m (hexDigits count n) = some (m * Nat.pow 16 count + n % Nat.pow 16 count) := by
  simp only [Nat.pow_eq]
  induction count generalizing n m with
  | zero => simp [hexDigits, readHexDigits, Nat.mod_one]
  | succ count ih =>
    rw [hexDigits, readHexDigits_append, ih]
    simp only [Option.bind_some, readHexDigits,
      hexValue?_hexDigit (Nat.mod_lt n (by decide : 0 < 16))]
    have h1 : n % 16 ^ (count + 1) = 16 * (n / 16 % 16 ^ count) + n % 16 := by
      rw [Nat.pow_succ, Nat.mul_comm (16 ^ count) 16, Nat.mod_mul]
      omega
    congr 1
    rw [h1, Nat.pow_succ, Nat.mul_add, ← Nat.mul_assoc, Nat.mul_comm 16 m, Nat.mul_assoc,
      Nat.mul_comm 16 (16 ^ count), Nat.add_assoc]

/-- Reading gives back the number that was written. -/
theorem readHex64?_hex64 (n : UInt64) : readHex64? (hex64 n) = some n := by
  have hlt : n.toNat < Nat.pow 16 16 := n.toNat_lt
  rw [readHex64?, if_pos (by simp [hex64]), hex64, String.toList_ofList, readHexDigits_hexDigits,
    Nat.mod_eq_of_lt hlt]
  simp

example : readHex64? "00000000DEADbeef" = some 0xdeadbeef := by decide

example : readHex64? "é00000000000000" = none := by decide

end GroupCall.Text

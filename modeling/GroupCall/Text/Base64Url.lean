/-
# Key material as text

Keys travel in the URL-safe base64 alphabet without padding.  Three bytes become four
characters; one or two bytes at the end become two or three.  Reading is strict: no other
character, no padding, no single character left over, and no bits beyond the last byte.
-/

namespace GroupCall.Text

/-- The characters of the alphabet, in the order of their values. -/
def base64Alphabet : List Char :=
  "ABCDEFGHIJKLMNOPQRSTUVWXYZabcdefghijklmnopqrstuvwxyz0123456789-_".toList

/-- The character of a value below 64. -/
def base64Char (n : Nat) : Char := base64Alphabet.getD n 'A'

/-- The value of a character of the alphabet. -/
def base64Value? (c : Char) : Option Nat :=
  if 'A' ≤ c ∧ c ≤ 'Z' then some (c.toNat - 'A'.toNat)
  else if 'a' ≤ c ∧ c ≤ 'z' then some (c.toNat - 'a'.toNat + 26)
  else if '0' ≤ c ∧ c ≤ '9' then some (c.toNat - '0'.toNat + 52)
  else if c = '-' then some 62
  else if c = '_' then some 63
  else none

/-- Bytes written in the alphabet. -/
def base64Chars : List UInt8 → List Char
  | [] => []
  | [a] => [base64Char (a.toNat / 4), base64Char (a.toNat % 4 * 16)]
  | [a, b] =>
    [base64Char (a.toNat / 4), base64Char (a.toNat % 4 * 16 + b.toNat / 16),
      base64Char (b.toNat % 16 * 4)]
  | a :: b :: c :: rest =>
    base64Char (a.toNat / 4) :: base64Char (a.toNat % 4 * 16 + b.toNat / 16) ::
      base64Char (b.toNat % 16 * 4 + c.toNat / 64) :: base64Char (c.toNat % 64) ::
      base64Chars rest

/-- The bytes that characters of the alphabet write. -/
def readBase64Chars : List Char → Option (List UInt8)
  | [] => some []
  | [_] => none
  | [p, q] => do
    let x ← base64Value? p
    let y ← base64Value? q
    if y % 16 = 0 then some [UInt8.ofNat (x * 4 + y / 16)] else none
  | [p, q, r] => do
    let x ← base64Value? p
    let y ← base64Value? q
    let z ← base64Value? r
    if z % 4 = 0 then
      some [UInt8.ofNat (x * 4 + y / 16), UInt8.ofNat (y % 16 * 16 + z / 4)]
    else none
  | p :: q :: r :: s :: rest => do
    let x ← base64Value? p
    let y ← base64Value? q
    let z ← base64Value? r
    let w ← base64Value? s
    let bytes ← readBase64Chars rest
    some (UInt8.ofNat (x * 4 + y / 16) :: UInt8.ofNat (y % 16 * 16 + z / 4) ::
      UInt8.ofNat (z % 4 * 64 + w) :: bytes)

/-- Bytes as text. -/
def base64Url (bytes : List UInt8) : String := String.ofList (base64Chars bytes)

/-- The bytes that a text writes. -/
def readBase64Url? (text : String) : Option (List UInt8) := readBase64Chars text.toList

theorem base64Value?_base64Char {n : Nat} (h : n < 64) : base64Value? (base64Char n) = some n := by
  have all : ∀ m ∈ List.range 64, base64Value? (base64Char m) = some m := by decide
  exact all n (List.mem_range.2 h)

private theorem toNat_lt (b : UInt8) : b.toNat < 256 := b.toNat_lt

private theorem ofNat_eq {n : Nat} {b : UInt8} (h : n = b.toNat) : UInt8.ofNat n = b := by
  rw [h]; exact UInt8.ofNat_toNat

theorem readBase64Chars_base64Chars (bytes : List UInt8) :
    readBase64Chars (base64Chars bytes) = some bytes := by
  fun_induction base64Chars bytes with
  | case1 => rfl
  | case2 a =>
    have ha := toNat_lt a
    have h2 : a.toNat % 4 * 16 % 16 = 0 := by omega
    simp only [readBase64Chars, base64Value?_base64Char (show a.toNat / 4 < 64 by omega),
      base64Value?_base64Char (show a.toNat % 4 * 16 < 64 by omega), bind, Option.bind,
      if_pos h2]
    rw [ofNat_eq (b := a) (by omega)]
  | case3 a b =>
    have ha := toNat_lt a
    have hb := toNat_lt b
    have h2 : b.toNat % 16 * 4 % 4 = 0 := by omega
    simp only [readBase64Chars, base64Value?_base64Char (show a.toNat / 4 < 64 by omega),
      base64Value?_base64Char (show a.toNat % 4 * 16 + b.toNat / 16 < 64 by omega),
      base64Value?_base64Char (show b.toNat % 16 * 4 < 64 by omega), bind, Option.bind,
      if_pos h2]
    rw [ofNat_eq (b := a) (by omega), ofNat_eq (b := b) (by omega)]
  | case4 a b c rest ih =>
    have ha := toNat_lt a
    have hb := toNat_lt b
    have hc := toNat_lt c
    simp only [readBase64Chars, base64Value?_base64Char (show a.toNat / 4 < 64 by omega),
      base64Value?_base64Char (show a.toNat % 4 * 16 + b.toNat / 16 < 64 by omega),
      base64Value?_base64Char (show b.toNat % 16 * 4 + c.toNat / 64 < 64 by omega),
      base64Value?_base64Char (show c.toNat % 64 < 64 by omega), bind, Option.bind, ih]
    rw [ofNat_eq (b := a) (by omega), ofNat_eq (b := b) (by omega), ofNat_eq (b := c) (by omega)]

/-- Reading gives back the bytes that were written. -/
theorem readBase64Url?_base64Url (bytes : List UInt8) :
    readBase64Url? (base64Url bytes) = some bytes := by
  simp [readBase64Url?, base64Url, readBase64Chars_base64Chars]

example : base64Url [0xfb, 0xff] = "-_8" := by decide

example : readBase64Url? "-_9" = none ∧ readBase64Url? "-_8=" = none := by decide

end GroupCall.Text

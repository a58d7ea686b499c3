/-
# The wire form of 64-bit numbers

An IV crosses the wire as a text of 16 hexadecimal digits.  What is written are the digits of
the number to the base 16, in lower case and with zeros in front, and just as well its eight
bytes, the most significant first.  What is read are 16 digits of either case: the number is
the one whose text they are in lower case, and any other text is refused and shown in the
refusal.
-/
import GroupCall.Proofs.Reading
import GroupCall.Protocol.Fields
import Mathlib.Algebra.Group.Nat.Defs

namespace GroupCall

namespace Text

variable {c : Char} {l : List Char} {count n : Nat} {text : String}

/-- A hexadecimal digit in lower case. -/
def IsLowerHexDigit (c : Char) : Prop := ('0' ≤ c ∧ c ≤ '9') ∨ ('a' ≤ c ∧ c ≤ 'f')

/-- A hexadecimal digit in either case. -/
def IsHexDigit (c : Char) : Prop := IsLowerHexDigit c ∨ ('A' ≤ c ∧ c ≤ 'F')

instance (c : Char) : Decidable (IsLowerHexDigit c) := inferInstanceAs (Decidable (_ ∨ _))

instance (c : Char) : Decidable (IsHexDigit c) := inferInstanceAs (Decidable (_ ∨ _))

/-- A text of exactly 16 hexadecimal digits. -/
def IsHex64 (text : String) : Prop := text.length = 16 ∧ ∀ c ∈ text.toList, IsHexDigit c

/-! ### Which texts are read -/

theorem isSome_hexValue?_iff : (hexValue? c).isSome ↔ IsHexDigit c := by
  rw [hexValue?, IsHexDigit, IsLowerHexDigit]
  split_ifs <;> simp [*]

theorem isSome_readHexDigits_iff :
    (readHexDigits n l).isSome ↔ ∀ c ∈ l, IsHexDigit c := by
  induction l generalizing n with
  | nil => simp [readHexDigits]
  | cons c l ih =>
    rw [readHexDigits, List.forall_mem_cons, ← isSome_hexValue?_iff]
    cases hexValue? c with
    | none => simp
    | some d => simpa using ih

theorem isSome_readHex64?_iff : (readHex64? text).isSome ↔ IsHex64 text := by
  rw [readHex64?, IsHex64, String.length_toList]
  split
  · next hlength => simp [hlength, isSome_readHexDigits_iff]
  · next hlength => simp [hlength]

/-! ### What is written -/

theorem isLowerHexDigit_of_mem_hexDigits (h : c ∈ hexDigits count n) : IsLowerHexDigit c := by
  have all : ∀ d ∈ List.range 16, IsLowerHexDigit (hexDigit d) := by decide
  induction count generalizing n with
  | zero => simp [hexDigits] at h
  | succ count ih =>
    rcases List.mem_append.1 h with h | h
    · exact ih h
    · obtain rfl := List.mem_singleton.1 h
      exact all _ (List.mem_range.2 (Nat.mod_lt n (by decide)))

theorem hexDigits_add (a b n : Nat) :
    hexDigits (a + b) n = hexDigits a (n / 16 ^ b) ++ hexDigits b n := by
  induction b generalizing n with
  | zero => simp [hexDigits]
  | succ b ih =>
    rw [← Nat.add_assoc, hexDigits, ih, hexDigits, Nat.div_div_eq_div_mul, ← Nat.pow_succ',
      List.append_assoc]

theorem hexDigits_zero_eq_replicate (count : Nat) :
    hexDigits count 0 = List.replicate count '0' := by
  induction count with
  | zero => rfl
  | succ count ih =>
    rw [hexDigits, Nat.zero_div, ih, List.replicate_succ']
    rfl

theorem hexDigit_eq_digitChar (hn : n < 16) : hexDigit n = n.digitChar := by
  have all : ∀ d ∈ List.range 16, hexDigit d = d.digitChar := by decide
  exact all n (List.mem_range.2 hn)

/-- The digits of a number are its digits to the base 16 with zeros in front. -/
theorem hexDigits_eq_leftpad (hn : n < 16 ^ count) (hcount : count ≠ 0) :
    hexDigits count n = (Nat.toDigits 16 n).leftpad count '0' := by
  induction count generalizing n with
  | zero => contradiction
  | succ count ih =>
    rw [Nat.toDigits_eq_if (by decide)]
    split
    · next hdigit =>
      rw [hexDigits, Nat.div_eq_of_lt hdigit, Nat.mod_eq_of_lt hdigit,
        hexDigits_zero_eq_replicate, hexDigit_eq_digitChar hdigit]
      simp [List.leftpad]
    · next hmore =>
      -- a number of more than one digit leaves room for the others
      have hrest : n / 16 < 16 ^ count := by
        rw [Nat.div_lt_iff_lt_mul (by decide), ← Nat.pow_succ]
        exact hn
      have hcount : count ≠ 0 := by
        rintro rfl
        simp at hrest
        omega
      rw [hexDigits, ih hrest hcount, hexDigit_eq_digitChar (Nat.mod_lt n (by decide))]
      simp [List.leftpad]

theorem hexDigits_mod (count n : Nat) : hexDigits count (n % 16 ^ count) = hexDigits count n := by
  induction count generalizing n with
  | zero => rfl
  | succ count ih =>
    have hfront : n % 16 ^ (count + 1) / 16 = n / 16 % 16 ^ count := by
      rw [Nat.pow_succ', Nat.mod_mul_right_div_self]
    have hlast : n % 16 ^ (count + 1) % 16 = n % 16 :=
      Nat.mod_mod_of_dvd n ⟨16 ^ count, Nat.pow_succ'⟩
    rw [hexDigits, hexDigits, hfront, hlast, ih]

/-- The digits of a number, two by two. -/
theorem hexDigits_pairs (count n : Nat) :
    hexDigits (2 * count) n =
      (List.range count).flatMap fun i => hexDigits 2 (n / 16 ^ (2 * (count - (i + 1)))) := by
  induction count with
  | zero => rfl
  | succ count ih =>
    rw [Nat.mul_succ, Nat.add_comm, hexDigits_add, ih, List.range_succ_eq_map, List.flatMap_cons,
      List.flatMap_map]
    simp only [Nat.succ_eq_add_one, Nat.add_sub_add_right, Nat.sub_zero]

/-- The digits of a number are those of its bytes, the most significant first. -/
theorem hexBytes_bytes (iv : InitVector) : hexBytes iv.bytes = iv.hex := by
  have hbyte : ∀ i ∈ List.range 8,
      hexDigits 2 (iv.value >>> UInt64.ofNat (8 * (7 - i))).toUInt8.toNat =
        hexDigits 2 (iv.value.toNat / 16 ^ (2 * (8 - (i + 1)))) := by
    intro i hi
    have hshift : (UInt64.ofNat (8 * (7 - i))).toNat % 64 = 4 * (2 * (8 - (i + 1))) := by
      rw [UInt64.toNat_ofNat_of_lt' (show _ < 2 ^ 64 by omega)]
      omega
    have hshifted : 2 ^ (4 * (2 * (8 - (i + 1)))) = 16 ^ (2 * (8 - (i + 1))) := Nat.pow_mul 2 4 _
    have hpair : 2 ^ 8 = 16 ^ 2 := rfl
    rw [← hexDigits_mod 2 (iv.value.toNat / _), UInt64.toNat_toUInt8, UInt64.toNat_shiftRight,
      hshift, Nat.shiftRight_eq_div_pow, hshifted, hpair]
  rw [hexBytes, InitVector.bytes, InitVector.hex, hex64, List.flatMap_map,
    List.flatMap_congr hbyte, ← hexDigits_pairs]

end Text

/-! ### The codec -/

theorem decodeHex64_eq_ok {text : String} {n : UInt64} :
    decodeHex64 text = .ok n ↔ Text.readHex64? text = some n := by
  rw [decodeHex64]
  cases Text.readHex64? text <;> simp

theorem decodeHex64_eq_error {text : String} {e : ProtocolError} :
    decodeHex64 text = .error e ↔ ¬ Text.IsHex64 text ∧ e = .invalidHex text := by
  rw [decodeHex64, ← Text.isSome_readHex64?_iff]
  cases Text.readHex64? text <;> simp [eq_comm]

theorem InitVector.decodeHex_eq_ok {text : String} {iv : InitVector} :
    decodeHex text = .ok iv ↔ Text.readHex64? text = some iv.value := by
  rw [← decodeHex64_eq_ok, decodeHex]
  cases decodeHex64 text with
  | error e => simp [Except.map]
  | ok n =>
    obtain ⟨m⟩ := iv
    simp [Except.map]

/-- **The wire form of 64-bit numbers is exact.**  A number is written as its 16 digits to the
base 16, which are also those of its bytes, in lower case, and it is read back from them.  A text
is read exactly if it is 16 hexadecimal digits of either case, as the number that is written as
the text in lower case; any other text is refused. -/
theorem decodeHex64_exact (n : UInt64) (text : String) :
    (Text.hex64 n).toList = (Nat.toDigits 16 n.toNat).leftpad 16 '0' ∧
      Text.hex64 n = Text.hexBytes (InitVector.mk n).bytes ∧
      (Text.hex64 n).length = 16 ∧
      (∀ c ∈ (Text.hex64 n).toList, Text.IsLowerHexDigit c) ∧
      decodeHex64 (Text.hex64 n) = .ok n ∧
      ((∃ m, decodeHex64 text = .ok m) ↔ Text.IsHex64 text) ∧
      (decodeHex64 text = .ok n ↔ Text.IsHex64 text ∧ Text.hex64 n = text.toLower) ∧
      (decodeHex64 text = .error (.invalidHex text) ↔ ¬ Text.IsHex64 text) := by
  have hdigits : (Text.hex64 n).toList = Text.hexDigits 16 n.toNat := by
    rw [Text.hex64, String.toList_ofList]
  have hread : (∃ m, decodeHex64 text = .ok m) ↔ Text.IsHex64 text := by
    simp only [decodeHex64_eq_ok, ← Text.isSome_readHex64?_iff, Option.isSome_iff_exists]
  have hlower : decodeHex64 text = .ok n ↔ Text.hex64 n = text.toLower := by
    have htext : text.toLower.toList = text.toList.map Char.toLower := String.toList_map
    rw [decodeHex64_eq_ok, Text.readHex64?_eq_some_iff, ← String.toList_inj, htext, eq_comm]
  refine ⟨?_, (Text.hexBytes_bytes ⟨n⟩).symm, ?_, ?_, ?_, hread, ?_, ?_⟩
  · rw [hdigits, Text.hexDigits_eq_leftpad n.toNat_lt (by decide)]
  · rw [← String.length_toList, hdigits, Text.length_hexDigits]
  · intro c hc
    exact Text.isLowerHexDigit_of_mem_hexDigits (hdigits ▸ hc)
  · exact decodeHex64_eq_ok.2 (Text.readHex64?_hex64 n)
  · -- a text that is read is one of 16 digits
    exact ⟨fun h => ⟨hread.1 ⟨n, h⟩, hlower.1 h⟩, fun h => hlower.2 h.2⟩
  · rw [decodeHex64_eq_error, and_iff_left rfl]

/-- Eight letters of two bytes each are no digits, and neither is a sign. -/
example : decodeHex64 "éééééééé" = .error (.invalidHex "éééééééé") ∧
    decodeHex64 "+00000000000000f" = .error (.invalidHex "+00000000000000f") := by decide

end GroupCall

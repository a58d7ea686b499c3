/-
# Strings and numbers are read back

A text is written between quotes with some of its characters escaped, and an integer as its
decimal digits.  Whatever stands behind them, the reader takes exactly what was written:
from the pieces of a string its text is put together again, and from a numeral its value.
-/
import GroupCall.Json.Printer
import GroupCall.Proofs.Text

namespace GroupCall.Json

/-! ### The bytes of characters -/

/-- The UTF-8 form of characters. -/
def encode (cs : List Char) : List UInt8 := cs.flatMap String.utf8EncodeChar

@[simp] theorem encode_nil : encode [] = [] := rfl

@[simp] theorem encode_append (a b : List Char) : encode (a ++ b) = encode a ++ encode b :=
  List.flatMap_append

theorem encode_cons (c : Char) (cs : List Char) :
    encode (c :: cs) = String.utf8EncodeChar c ++ encode cs := rfl

theorem utf8_eq_encode (s : String) : Text.utf8 s = encode s.toList := by
  rw [Text.utf8, String.toUTF8, ← String.utf8Encode_toList, List.utf8Encode, encode,
    List.data_toByteArray]

theorem bytes_eq_encode (j : Json) : j.bytes = encode j.chars := by
  rw [bytes, utf8_eq_encode, render, String.toList_ofList]

/-- The bytes that write a text are read as that text. -/
theorem readUtf8?_encode (s : String) : Text.readUtf8? (encode s.toList) = some s := by
  rw [← utf8_eq_encode, Text.readUtf8?_utf8]

theorem utf8EncodeChar_of_le {c : Char} (h : c.toNat ≤ 127) :
    String.utf8EncodeChar c = [UInt8.ofNat c.toNat] := by
  have h' : c.val.toNat ≤ 127 := h
  simp only [String.utf8EncodeChar, if_pos h']
  rfl

/-- Outside the first 128 characters no byte is one of them. -/
theorem le_of_mem_utf8EncodeChar {c : Char} (h : 127 < c.toNat) {b : UInt8}
    (hb : b ∈ String.utf8EncodeChar c) : 0x80 ≤ b := by
  have hn : ∀ n : Nat, 128 ≤ n → n < 256 → (0x80 : UInt8) ≤ UInt8.ofNat n := by
    intro n h1 h2
    rw [UInt8.le_iff_toNat_le, UInt8.toNat_ofNat_of_lt' (show n < 256 from h2)]
    exact h1
  have h' : ¬ c.val.toNat ≤ 127 := Nat.not_le_of_lt h
  simp only [String.utf8EncodeChar, if_neg h'] at hb
  split at hb
  · simp only [List.mem_cons, List.not_mem_nil, or_false] at hb
    rcases hb with rfl | rfl <;> exact hn _ (by omega) (by omega)
  · split at hb
    · simp only [List.mem_cons, List.not_mem_nil, or_false] at hb
      rcases hb with rfl | rfl | rfl <;> exact hn _ (by omega) (by omega)
    · simp only [List.mem_cons, List.not_mem_nil, or_false] at hb
      rcases hb with rfl | rfl | rfl | rfl <;> exact hn _ (by omega) (by omega)

/-! ### Strings -/

/-- A byte that stands for itself inside a string. -/
def IsPlain (b : UInt8) : Prop := 0x20 ≤ b ∧ b ≠ Octet.quote ∧ b ≠ Octet.backslash

theorem readString_octet {b : UInt8} (h : IsPlain b) (input : List UInt8) :
    readString (b :: input) = (readString input).map fun p => (.octet b :: p.1, p.2) := by
  obtain ⟨hb, hquote, hbackslash⟩ := h
  rw [readString.eq_def]
  split
  · next heq => simp at heq
  · next heq => exact absurd (List.cons.inj heq).1 hquote
  · next heq => exact absurd (List.cons.inj heq).1 hbackslash
  · next heq => exact absurd (List.cons.inj heq).1 hbackslash
  · next heq =>
    obtain ⟨rfl, rfl⟩ := List.cons.inj heq
    rw [if_neg (by simp [hbackslash, UInt8.not_lt, hb])]
    cases readString input <;> rfl

theorem readString_octets {bs : List UInt8} (h : ∀ b ∈ bs, IsPlain b) (input : List UInt8) :
    readString (bs ++ input) =
      (readString input).map fun p => (bs.map .octet ++ p.1, p.2) := by
  induction bs with
  | nil => simp
  | cons b bs ih =>
    rw [List.cons_append, readString_octet (h b (by simp)),
      ih fun b hb => h b (List.mem_cons_of_mem _ hb), Option.map_map]
    rfl

theorem readString_escape {e b : UInt8} (h : escaped? e = some b) (input : List UInt8) :
    readString (Octet.backslash :: e :: input) =
      (readString input).map fun p => (.octet b :: p.1, p.2) := by
  have hcode : escaped? Octet.letterU = none := by decide
  have hread := readString.eq_4 e input fun _ _ _ _ _ he _ => by
    obtain rfl : e = Octet.letterU := he
    simp [hcode] at h
  refine hread.trans ?_
  rw [h]
  cases readString input <;> rfl

theorem readString_code {a b c d : UInt8} {n : Nat} (h : hexCode? a b c d = some n)
    (input : List UInt8) :
    readString (Octet.backslash :: Octet.letterU :: a :: b :: c :: d :: input) =
      (readString input).map fun p => (.code n :: p.1, p.2) := by
  refine (readString.eq_3 a b c d input).trans ?_
  rw [h]
  cases readString input <;> rfl

/-- The pieces as which a character is read. -/
def charPieces (c : Char) : List Piece :=
  if c.toNat < 0x20 ∧ c ∉ ['\x08', '\t', '\n', '\x0c', '\r'] then [.code c.toNat]
  else (String.utf8EncodeChar c).map .octet

theorem utf8EncodeChar_isPlain {c : Char} (h : 0x20 ≤ c.toNat) (hquote : c ≠ '"')
    (hbackslash : c ≠ '\\') {b : UInt8} (hb : b ∈ String.utf8EncodeChar c) : IsPlain b := by
  rcases Nat.lt_or_ge 127 c.toNat with hlarge | hsmall
  · have hle := UInt8.le_iff_toNat_le.1 (le_of_mem_utf8EncodeChar hlarge hb)
    refine ⟨UInt8.le_iff_toNat_le.2 (Nat.le_trans (by decide) hle), ?_, ?_⟩
    · rintro rfl
      exact absurd hle (by decide)
    · rintro rfl
      exact absurd hle (by decide)
  · rw [utf8EncodeChar_of_le hsmall, List.mem_singleton] at hb
    have hall : ∀ n ∈ List.range 128, 0x20 ≤ n → Char.ofNat n ≠ '"' → Char.ofNat n ≠ '\\' →
        0x20 ≤ UInt8.ofNat n ∧ UInt8.ofNat n ≠ Octet.quote ∧ UInt8.ofNat n ≠ Octet.backslash := by
      decide +kernel
    rw [← Char.ofNat_toNat c] at hquote hbackslash
    exact hb ▸ hall c.toNat (List.mem_range.2 (by omega)) h hquote hbackslash

theorem readString_control {n : Nat} (h : n < 0x20) (input : List UInt8) :
    readString (encode (['\\', 'u'] ++ Text.hexDigits 4 n) ++ input) =
      (readString input).map fun p => (.code n :: p.1, p.2) := by
  let digit (m : Nat) : UInt8 := UInt8.ofNat (Text.hexDigit m).toNat
  have hall : ∀ m ∈ List.range 0x20,
      encode (['\\', 'u'] ++ Text.hexDigits 4 m) =
        [Octet.backslash, Octet.letterU, digit 0, digit 0, digit (m / 16), digit (m % 16)] ∧
      hexCode? (digit 0) (digit 0) (digit (m / 16)) (digit (m % 16)) = some m := by
    decide +kernel
  obtain ⟨hwritten, hcode⟩ := hall n (List.mem_range.2 h)
  rw [hwritten]
  exact readString_code hcode input

/-- The characters that are escaped by a letter or by themselves, with the byte behind the
backslash and the byte that it stands for. -/
def letterEscapes : List (Char × UInt8 × UInt8) :=
  [('"', 0x22, 0x22), ('\\', 0x5c, 0x5c), ('\x08', 0x62, 0x08), ('\t', 0x74, 0x09),
    ('\n', 0x6e, 0x0a), ('\x0c', 0x66, 0x0c), ('\r', 0x72, 0x0d)]

theorem readString_escapeChar (c : Char) (input : List UInt8) :
    readString (encode (escapeChar c) ++ input) =
      (readString input).map fun p => (charPieces c ++ p.1, p.2) := by
  have hletters : ∀ l ∈ letterEscapes, encode (escapeChar l.1) = [Octet.backslash, l.2.1] ∧
      escaped? l.2.1 = some l.2.2 ∧ charPieces l.1 = [.octet l.2.2] := by decide
  by_cases hc : c ∈ letterEscapes.map Prod.fst
  · obtain ⟨l, hl, rfl⟩ := List.mem_map.1 hc
    obtain ⟨hwritten, hescape, hpieces⟩ := hletters l hl
    rw [hwritten, hpieces]
    exact readString_escape hescape input
  · simp only [letterEscapes, List.map_cons, List.map_nil, List.mem_cons, List.not_mem_nil,
      or_false, not_or] at hc
    obtain ⟨hquote, hbackslash, hb, ht, hn, hf, hr⟩ := hc
    rw [escapeChar, if_neg hquote, if_neg hbackslash, if_neg hb, if_neg ht, if_neg hn, if_neg hf,
      if_neg hr]
    split
    · next h =>
      rw [readString_control h, charPieces, if_pos ⟨h, by simp [*]⟩]
      rfl
    · next h =>
      rw [charPieces, if_neg fun hc => h hc.1]
      simpa [encode] using readString_octets
        (fun b => utf8EncodeChar_isPlain (Nat.le_of_not_lt h) hquote hbackslash) input

/-! ### Texts -/

theorem pieceBytes_octets (bs : List UInt8) (pieces : List Piece) :
    pieceBytes (bs.map .octet ++ pieces) = (pieceBytes pieces).map (bs ++ ·) := by
  induction bs with
  | nil => simp
  | cons b bs ih =>
    rw [List.map_cons, List.cons_append, pieceBytes, ih, Option.map_map]
    rfl

theorem pieceBytes_code {n : Nat} (hhigh : isHighHalf n = false) (hlow : isLowHalf n = false)
    (pieces : List Piece) :
    pieceBytes (.code n :: pieces) = (pieceBytes pieces).map (utf8OfCode n ++ ·) := by
  rcases pieces with _ | ⟨piece | m, pieces⟩ <;> simp [pieceBytes, hhigh, hlow]

theorem pieceBytes_charPieces (c : Char) (pieces : List Piece) :
    pieceBytes (charPieces c ++ pieces) =
      (pieceBytes pieces).map (String.utf8EncodeChar c ++ ·) := by
  rw [charPieces]
  split
  · next h =>
    have hhigh : isHighHalf c.toNat = false := by
      simp only [isHighHalf, Bool.and_eq_false_iff, decide_eq_false_iff_not]
      omega
    have hlow : isLowHalf c.toNat = false := by
      simp only [isLowHalf, Bool.and_eq_false_iff, decide_eq_false_iff_not]
      omega
    rw [List.singleton_append, pieceBytes_code hhigh hlow, utf8OfCode, Char.ofNat_toNat]
  · exact pieceBytes_octets _ _

/-- The pieces as which a text is read. -/
def textPieces (s : String) : List Piece := s.toList.flatMap charPieces

/-- A string is read up to its closing quote. -/
theorem readString_written (s : String) (input : List UInt8) :
    readString (encode (s.toList.flatMap escapeChar) ++ Octet.quote :: input) =
      some (textPieces s, input) := by
  rw [textPieces]
  induction s.toList with
  | nil => rfl
  | cons c cs ih =>
    rw [List.flatMap_cons, encode_append, List.append_assoc, readString_escapeChar, ih]
    rfl

/-- The pieces of a text that was written are that text. -/
theorem pieceText_textPieces (s : String) : pieceText (textPieces s) = some s := by
  have hbytes : pieceBytes (textPieces s) = some (encode s.toList) := by
    rw [textPieces]
    induction s.toList with
    | nil => rfl
    | cons c cs ih =>
      rw [List.flatMap_cons, pieceBytes_charPieces, ih]
      rfl
  rw [pieceText, hbytes, Option.bind_some, readUtf8?_encode]

/-- A text that is written without escapes is that text too. -/
theorem pieceText_piecesOf (s : String) : pieceText (piecesOf s) = some s := by
  have hbytes := pieceBytes_octets (Text.utf8 s) []
  rw [List.append_nil] at hbytes
  rw [pieceText, piecesOf, hbytes]
  simp [pieceBytes, Text.readUtf8?_utf8]

/-! ### Numbers -/

/-- What may stand behind a value: the end of the text or of what holds the value, or a
comma. -/
def Ends (rest : List UInt8) : Prop :=
  rest = [] ∨ ∃ b more, rest = b :: more ∧
    (b = Octet.comma ∨ b = Octet.closeBracket ∨ b = Octet.closeBrace)

theorem digitsOf_eq (n : Nat) :
    Numeral.digitsOf n = if n < 10 then [n] else Numeral.digitsOf (n / 10) ++ [n % 10] := by
  have hdigit : ∀ d < 10, d.digitChar.toNat - '0'.toNat = d := by decide
  rw [Numeral.digitsOf, Nat.toDigits_eq_if (by decide)]
  split
  · next h => rw [List.map_singleton, hdigit n h]
  · rw [List.map_append, List.map_singleton, hdigit _ (Nat.mod_lt _ (by decide))]
    rfl

theorem lt_of_mem_digitsOf {n d : Nat} (h : d ∈ Numeral.digitsOf n) : d < 10 := by
  induction n using Nat.strongRecOn with
  | _ n ih =>
    rw [digitsOf_eq] at h
    split at h
    · simp only [List.mem_singleton] at h
      omega
    · rcases List.mem_append.1 h with h | h
      · exact ih _ (by omega) h
      · simp only [List.mem_singleton] at h
        omega

/-- A number that is not zero has no zero in front. -/
theorem head_digitsOf {n : Nat} (h : 0 < n) : ∃ d ds, Numeral.digitsOf n = d :: ds ∧ 0 < d := by
  induction n using Nat.strongRecOn with
  | _ n ih =>
    rw [digitsOf_eq]
    split
    · exact ⟨n, [], rfl, h⟩
    · obtain ⟨d, ds, hds, hd⟩ := ih (n / 10) (by omega) (by omega)
      exact ⟨d, ds ++ [n % 10], by rw [hds]; rfl, hd⟩

theorem ofDigits_digitsOf (n : Nat) : Numeral.ofDigits (Numeral.digitsOf n) = n := by
  induction n using Nat.strongRecOn with
  | _ n ih =>
    rw [digitsOf_eq]
    split
    · simp [Numeral.ofDigits]
    · have hq : Numeral.ofDigits (Numeral.digitsOf (n / 10)) = n / 10 := ih _ (by omega)
      rw [Numeral.ofDigits] at hq
      rw [Numeral.ofDigits, List.foldl_append, hq, List.foldl_cons, List.foldl_nil]
      omega

/-- An integer that fits a signed or unsigned word is read back from its numeral. -/
theorem integer?_ofInt {i : Int} (hlow : -0x8000000000000000 ≤ i)
    (hhigh : i < 0x10000000000000000) : (Numeral.ofInt i).integer? = some i := by
  simp only [Numeral.integer?, Numeral.ofInt, ofDigits_digitsOf, List.isEmpty_nil, Option.isSome,
    Bool.not_true, Bool.or_false, Bool.false_eq_true, if_false, decide_eq_true_eq]
  split
  · rw [if_pos (by omega)]
    congr 1
    omega
  · have hsize : i.natAbs < UInt64.size := by
      show i.natAbs < 0x10000000000000000
      omega
    rw [if_pos hsize]
    congr 1
    omega

/-- The byte of a decimal digit. -/
def digitByte (d : Nat) : UInt8 := UInt8.ofNat (d + 0x30)

theorem encode_digitChars {ds : List Nat} (h : ∀ d ∈ ds, d < 10) :
    encode (digitChars ds) = ds.map digitByte := by
  have hall : ∀ d ∈ List.range 10,
      String.utf8EncodeChar (Char.ofNat (d + '0'.toNat)) = [digitByte d] := by decide
  induction ds with
  | nil => rfl
  | cons d ds ih =>
    have hd := hall d (List.mem_range.2 (h d (by simp)))
    rw [digitChars, List.map_cons, encode_cons, hd, ← digitChars,
      ih fun d hd => h d (List.mem_cons_of_mem _ hd)]
    rfl

theorem readDigits_written {ds : List Nat} (h : ∀ d ∈ ds, d < 10) {rest : List UInt8}
    (hrest : Ends rest) : readDigits (ds.map digitByte ++ rest) = (ds, rest) := by
  have hall : ∀ d ∈ List.range 10, (0x30 ≤ digitByte d && digitByte d ≤ 0x39) = true ∧
      (digitByte d - 0x30).toNat = d := by decide
  induction ds with
  | nil =>
    rcases hrest with rfl | ⟨b, more, rfl, hb⟩
    · rfl
    · have hnone : (0x30 ≤ b && b ≤ 0x39) = false := by
        rcases hb with rfl | rfl | rfl <;> decide
      simp [readDigits, hnone]
  | cons d ds ih =>
    obtain ⟨hdigit, hvalue⟩ := hall d (List.mem_range.2 (h d (by simp)))
    rw [List.map_cons, List.cons_append, readDigits, if_pos hdigit,
      ih fun d hd => h d (List.mem_cons_of_mem _ hd)]
    simp only [hvalue]

theorem readWhole_written (n : Nat) {rest : List UInt8} (hrest : Ends rest) :
    readWhole ((Numeral.digitsOf n).map digitByte ++ rest) =
      some (Numeral.digitsOf n, rest) := by
  have hdigits := readDigits_written (fun d hd => lt_of_mem_digitsOf (n := n) hd) hrest
  rcases Nat.eq_zero_or_pos n with rfl | hn
  · rfl
  · obtain ⟨d, ds, hds, hd⟩ := head_digitsOf hn
    have hlt : d < 10 := lt_of_mem_digitsOf (n := n) (by simp [hds])
    have hzero : ∀ d ∈ List.range 10, 0 < d → digitByte d ≠ Octet.zero := by decide
    rw [hds] at hdigits ⊢
    rw [List.map_cons, List.cons_append] at hdigits ⊢
    rw [readWhole.eq_def]
    split
    · next heq => exact absurd (List.cons.inj heq).1 (hzero d (List.mem_range.2 hlt) hd)
    · rw [hdigits]
      rfl

theorem readFraction_of_ends {rest : List UInt8} (h : Ends rest) :
    readFraction rest = some ([], rest) := by
  rcases h with rfl | ⟨b, more, rfl, hb⟩
  · rfl
  · have hnone : b ≠ Octet.point := by rcases hb with rfl | rfl | rfl <;> decide
    rw [readFraction.eq_def]
    split
    · next heq => exact absurd (List.cons.inj heq).1 hnone
    · rfl

theorem readExponent_of_ends {rest : List UInt8} (h : Ends rest) :
    readExponent rest = some (none, rest) := by
  rcases h with rfl | ⟨b, more, rfl, hb⟩
  · rfl
  · have hnone : ¬ (b = Octet.letterE ∨ b = Octet.capitalE) := by
      rcases hb with rfl | rfl | rfl <;> decide
    simp [readExponent, hnone]

theorem encode_numeralChars (i : Int) :
    encode (numeralChars (Numeral.ofInt i)) =
      (if i < 0 then [Octet.minus] else []) ++ (Numeral.digitsOf i.natAbs).map digitByte := by
  have hdigits := encode_digitChars fun d hd => lt_of_mem_digitsOf (n := i.natAbs) hd
  have hminus : encode ['-'] = [Octet.minus] := by decide
  simp only [numeralChars, Numeral.ofInt, List.isEmpty_nil, if_true, List.append_nil,
    encode_append, hdigits, decide_eq_true_eq]
  split <;> simp [hminus]

/-- No number begins with a sign but a negative one. -/
theorem head_digitsOf_ne_minus (n : Nat) (rest : List UInt8) :
    ∃ b more, (Numeral.digitsOf n).map digitByte ++ rest = b :: more ∧ b ≠ Octet.minus := by
  have hne : ∀ d ∈ List.range 10, digitByte d ≠ Octet.minus := by decide
  cases hds : Numeral.digitsOf n with
  | nil =>
    rw [digitsOf_eq] at hds
    split at hds <;> simp at hds
  | cons d ds =>
    have hlt : d < 10 := lt_of_mem_digitsOf (n := n) (by simp [hds])
    exact ⟨digitByte d, ds.map digitByte ++ rest, rfl, hne d (List.mem_range.2 hlt)⟩

/-- What is read behind the sign of a number. -/
def readUnsigned (negative : Bool) (input : List UInt8) : Option (Numeral × List UInt8) := do
  let (whole, input) ← readWhole input
  let (fraction, input) ← readFraction input
  let (exponent, input) ← readExponent input
  return (⟨negative, whole, fraction, exponent⟩, input)

theorem readNumber_minus (input : List UInt8) :
    readNumber (Octet.minus :: input) = readUnsigned true input := rfl

theorem readNumber_of_ne_minus {b : UInt8} (h : b ≠ Octet.minus) (input : List UInt8) :
    readNumber (b :: input) = readUnsigned false (b :: input) := by
  unfold readNumber
  split
  next sign =>
    split at sign
    · next heq => exact absurd (List.cons.inj heq).1 h
    · obtain ⟨rfl, rfl⟩ := Prod.mk.inj sign
      rfl

theorem readUnsigned_written (negative : Bool) (n : Nat) {rest : List UInt8} (h : Ends rest) :
    readUnsigned negative ((Numeral.digitsOf n).map digitByte ++ rest) =
      some (⟨negative, Numeral.digitsOf n, [], none⟩, rest) := by
  simp [readUnsigned, readWhole_written n h, readFraction_of_ends h, readExponent_of_ends h]

/-- The numeral of an integer is read back. -/
theorem readNumber_written (i : Int) {rest : List UInt8} (hrest : Ends rest) :
    readNumber (encode (numeralChars (Numeral.ofInt i)) ++ rest) =
      some (Numeral.ofInt i, rest) := by
  rw [encode_numeralChars]
  by_cases hi : i < 0
  · rw [if_pos hi, List.append_assoc, List.singleton_append, readNumber_minus,
      readUnsigned_written true i.natAbs hrest]
    simp [Numeral.ofInt, hi]
  · obtain ⟨b, more, hb, hne⟩ := head_digitsOf_ne_minus i.natAbs rest
    rw [if_neg hi, List.nil_append, hb, readNumber_of_ne_minus hne, ← hb,
      readUnsigned_written false i.natAbs hrest]
    simp [Numeral.ofInt, hi]

end GroupCall.Json

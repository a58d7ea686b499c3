/-
# What is read

Hexadecimal numbers, key material, decimal numbers and words are read from text.  For each
reader the texts that it takes are described without it, so that what is read is exactly that
and nothing more.
-/
import GroupCall.Proofs.Text
import GroupCall.Text.Base64Url
import GroupCall.Text.Hex

namespace GroupCall.Text

variable {c : Char} {l t : List Char}

/-! ### Characters of the first 128 -/

/-- What holds of the first 128 characters holds of every character among them. -/
theorem of_toNat_lt {p : Char → Prop} (hc : c.toNat < 128)
    (h : ∀ n ∈ List.range 128, p (Char.ofNat n)) : p c := by
  have hp : p (Char.ofNat c.toNat) := h c.toNat (List.mem_range.2 hc)
  rwa [Char.ofNat_toNat] at hp

theorem toNat_lt_of_le {d : Char} (h : c ≤ d) (hd : d.toNat < 128) : c.toNat < 128 :=
  (UInt32.le_iff_toNat_le.1 h).trans_lt hd

theorem toNat_lt_of_toLower (h : c.toLower.toNat < 128) : c.toNat < 128 := by
  delta Char.toLower at h
  split at h
  · next hr => exact toNat_lt_of_le hr.2 (by decide)
  · exact h

/-! ### Hexadecimal numbers -/

theorem toNat_lt_of_hexValue? {d : Nat} (h : hexValue? c = some d) : c.toNat < 128 := by
  rw [hexValue?] at h
  split at h
  · next hr => exact toNat_lt_of_le hr.2 (by decide)
  split at h
  · next hr => exact toNat_lt_of_le hr.2 (by decide)
  split at h
  · next hr => exact toNat_lt_of_le hr.2 (by decide)
  · simp at h

/-- A character is a hexadecimal digit of a value if it is that digit in either case. -/
theorem hexValue?_eq_some_iff {d : Nat} :
    hexValue? c = some d ↔ d < 16 ∧ c.toLower = hexDigit d := by
  have all : ∀ n ∈ List.range 128, ∀ d ∈ hexValue? (Char.ofNat n),
      d < 16 ∧ (Char.ofNat n).toLower = hexDigit d := by decide +kernel
  have only : ∀ n ∈ List.range 128, ∀ d ∈ List.range 16,
      (Char.ofNat n).toLower = hexDigit d → hexValue? (Char.ofNat n) = some d := by
    decide +kernel
  constructor
  · intro h
    exact of_toNat_lt (p := fun c => ∀ d ∈ hexValue? c, d < 16 ∧ c.toLower = hexDigit d)
      (toNat_lt_of_hexValue? h) all d h
  · rintro ⟨hd, hc⟩
    have hlt : c.toLower.toNat < 128 := by
      have : ∀ d ∈ List.range 16, (hexDigit d).toNat < 128 := by decide
      exact hc ▸ this d (List.mem_range.2 hd)
    exact of_toNat_lt
      (p := fun c => ∀ d ∈ List.range 16, c.toLower = hexDigit d → hexValue? c = some d)
      (toNat_lt_of_toLower hlt) only d (List.mem_range.2 hd) hc

theorem hexDigits_succ (count n : Nat) :
    hexDigits (count + 1) n = hexDigit (n / Nat.pow 16 count % 16) :: hexDigits count n := by
  induction count generalizing n with
  | zero => simp [hexDigits]
  | succ count ih =>
    have hpow : 16 * Nat.pow 16 count = Nat.pow 16 (count + 1) := Nat.mul_comm _ _
    rw [hexDigits, ih, hexDigits, List.cons_append, Nat.div_div_eq_div_mul, hpow]

/-- Digits write a number behind `m` if it is `m` in front of them and they are its last
digits, in either case. -/
theorem readHexDigits_eq_some_iff {m n : Nat} :
    readHexDigits m l = some n ↔
      n / Nat.pow 16 l.length = m ∧ l.map Char.toLower = hexDigits l.length n := by
  induction l generalizing m with
  | nil => simp [readHexDigits, hexDigits, eq_comm]
  | cons c l ih =>
    simp only [readHexDigits, Option.bind_eq_some_iff, ih, hexValue?_eq_some_iff, List.map_cons,
      List.length_cons, hexDigits_succ, List.cons.injEq]
    have hdiv : n / Nat.pow 16 (l.length + 1) = n / Nat.pow 16 l.length / 16 :=
      (Nat.div_div_eq_div_mul _ _ _).symm
    constructor
    · rintro ⟨d, ⟨hd, hc⟩, hn, hl⟩
      refine ⟨by omega, ?_, hl⟩
      rw [hc, hn]
      congr 1
      omega
    · rintro ⟨hn, hc, hl⟩
      exact ⟨n / Nat.pow 16 l.length % 16, ⟨by omega, hc⟩, by omega, hl⟩

/-- Sixteen digits of either case are read as the number that they write, and nothing else
is read. -/
theorem readHex64?_eq_some_iff {text : String} {n : UInt64} :
    readHex64? text = some n ↔ text.toList.map Char.toLower = (hex64 n).toList := by
  have hn : n.toNat / Nat.pow 16 16 = 0 := Nat.div_eq_of_lt n.toNat_lt
  rw [readHex64?, hex64, String.toList_ofList]
  constructor
  · intro h
    split at h
    · next hlen =>
      obtain ⟨m, hm, rfl⟩ := Option.map_eq_some_iff.1 h
      rw [readHexDigits_eq_some_iff, hlen] at hm
      have hlt : m < UInt64.size := Nat.lt_of_div_eq_zero (by decide) hm.1
      rw [UInt64.toNat_ofNat_of_lt' hlt]
      exact hm.2
    · simp at h
  · intro h
    have hlen : text.toList.length = 16 := by simpa using congrArg List.length h
    have hread : readHexDigits 0 text.toList = some n.toNat := by
      rw [readHexDigits_eq_some_iff, hlen]
      exact ⟨hn, h⟩
    simp [hlen, hread]

/-! ### Key material -/

theorem toNat_lt_of_base64Value? {x : Nat} (h : base64Value? c = some x) : c.toNat < 128 := by
  rw [base64Value?] at h
  split at h
  · next hr => exact toNat_lt_of_le hr.2 (by decide)
  split at h
  · next hr => exact toNat_lt_of_le hr.2 (by decide)
  split at h
  · next hr => exact toNat_lt_of_le hr.2 (by decide)
  split at h
  · next hc => exact hc ▸ (by decide)
  split at h
  · next hc => exact hc ▸ (by decide)
  · simp at h

/-- A character of the alphabet is the one of its value. -/
theorem base64Char_of_base64Value? {x : Nat} (h : base64Value? c = some x) :
    x < 64 ∧ base64Char x = c := by
  have all : ∀ n ∈ List.range 128, ∀ x ∈ base64Value? (Char.ofNat n),
      x < 64 ∧ base64Char x = Char.ofNat n := by decide +kernel
  exact of_toNat_lt (p := fun c => ∀ x ∈ base64Value? c, x < 64 ∧ base64Char x = c)
    (toNat_lt_of_base64Value? h) all x h

section

variable {x y z w : Nat}

theorem toNat_firstByte (hx : x < 64) (hy : y < 64) :
    (UInt8.ofNat (x * 4 + y / 16)).toNat = x * 4 + y / 16 :=
  UInt8.toNat_ofNat_of_lt' (show _ < 256 by omega)

theorem toNat_secondByte (hz : z < 64) :
    (UInt8.ofNat (y % 16 * 16 + z / 4)).toNat = y % 16 * 16 + z / 4 :=
  UInt8.toNat_ofNat_of_lt' (show _ < 256 by omega)

theorem toNat_thirdByte (hw : w < 64) :
    (UInt8.ofNat (z % 4 * 64 + w)).toNat = z % 4 * 64 + w :=
  UInt8.toNat_ofNat_of_lt' (show _ < 256 by omega)

end

/-- Characters that are read as bytes are those that write them. -/
theorem eq_of_readBase64Chars {bytes : List UInt8} (h : readBase64Chars l = some bytes) :
    l = base64Chars bytes := by
  -- the first byte holds `x` and the upper bits of `y`, the second their rest and the upper
  -- bits of `z`, the third the rest of those and `w`
  induction l using readBase64Chars.induct generalizing bytes with
  | case1 =>
    obtain rfl : [] = bytes := by simpa [readBase64Chars] using h
    rfl
  | case2 p => simp [readBase64Chars] at h
  | case3 p q =>
    simp only [readBase64Chars, Option.bind_eq_bind, Option.bind_eq_some_iff] at h
    obtain ⟨x, hx, y, hy, h⟩ := h
    obtain ⟨x_lt, rfl⟩ := base64Char_of_base64Value? hx
    obtain ⟨y_lt, rfl⟩ := base64Char_of_base64Value? hy
    split at h
    · obtain rfl := Option.some.inj h
      rw [base64Chars, toNat_firstByte x_lt y_lt, show (x * 4 + y / 16) / 4 = x by omega,
        show (x * 4 + y / 16) % 4 * 16 = y by omega]
    · simp at h
  | case4 p q r =>
    simp only [readBase64Chars, Option.bind_eq_bind, Option.bind_eq_some_iff] at h
    obtain ⟨x, hx, y, hy, z, hz, h⟩ := h
    obtain ⟨x_lt, rfl⟩ := base64Char_of_base64Value? hx
    obtain ⟨y_lt, rfl⟩ := base64Char_of_base64Value? hy
    obtain ⟨z_lt, rfl⟩ := base64Char_of_base64Value? hz
    split at h
    · obtain rfl := Option.some.inj h
      rw [base64Chars, toNat_firstByte x_lt y_lt, toNat_secondByte z_lt,
        show (x * 4 + y / 16) / 4 = x by omega,
        show (x * 4 + y / 16) % 4 * 16 + (y % 16 * 16 + z / 4) / 16 = y by omega,
        show (y % 16 * 16 + z / 4) % 16 * 4 = z by omega]
    · simp at h
  | case5 p q r s rest ih =>
    simp only [readBase64Chars, Option.bind_eq_bind, Option.bind_eq_some_iff] at h
    obtain ⟨x, hx, y, hy, z, hz, w, hw, bytes', hrest, h⟩ := h
    obtain ⟨x_lt, rfl⟩ := base64Char_of_base64Value? hx
    obtain ⟨y_lt, rfl⟩ := base64Char_of_base64Value? hy
    obtain ⟨z_lt, rfl⟩ := base64Char_of_base64Value? hz
    obtain ⟨w_lt, rfl⟩ := base64Char_of_base64Value? hw
    obtain rfl := Option.some.inj h
    rw [base64Chars, toNat_firstByte x_lt y_lt, toNat_secondByte z_lt, toNat_thirdByte w_lt, ← ih hrest,
      show (x * 4 + y / 16) / 4 = x by omega,
      show (x * 4 + y / 16) % 4 * 16 + (y % 16 * 16 + z / 4) / 16 = y by omega,
      show (y % 16 * 16 + z / 4) % 16 * 4 + (z % 4 * 64 + w) / 64 = z by omega,
      show (z % 4 * 64 + w) % 64 = w by omega]

/-- A text is read as bytes if it is the one that writes them. -/
theorem readBase64Url?_eq_some_iff {text : String} {bytes : List UInt8} :
    readBase64Url? text = some bytes ↔ text = base64Url bytes := by
  constructor
  · intro h
    rw [base64Url, ← eq_of_readBase64Chars h, String.ofList_toList]
  · rintro rfl
    exact readBase64Url?_base64Url bytes

/-! ### Decimal numbers with leading signs -/

theorem digitValue?_eq_some_iff {d : Nat} :
    digitValue? c = some d ↔ c.isDigit = true ∧ c.toNat - '0'.toNat = d := by
  have hdigit : ('0' ≤ c ∧ c ≤ '9') ↔ c.isDigit = true := by
    simp only [Char.isDigit, Bool.and_eq_true, decide_eq_true_eq]
    rfl
  simp only [digitValue?, hdigit]
  split
  · next h => simp [h]
  · next h => simp [h]

theorem readDigits_eq_some_iff {m n : Nat} :
    readDigits m l = some n ↔ (∀ d ∈ l, d.isDigit = true) ∧ Nat.ofDigitChars 10 l m = n := by
  induction l generalizing m with
  | nil => simp [readDigits]
  | cons d l ih =>
    simp only [readDigits, Option.bind_eq_some_iff, digitValue?_eq_some_iff, ih,
      List.forall_mem_cons, Nat.ofDigitChars_cons]
    constructor
    · rintro ⟨_, ⟨hd, rfl⟩, hl, hn⟩
      exact ⟨⟨hd, hl⟩, hn⟩
    · rintro ⟨⟨hd, hl⟩, hn⟩
      exact ⟨_, ⟨hd, rfl⟩, hl, hn⟩

/-- A text that writes a number: decimal digits, of which there is at least one, behind at
most one plus sign. -/
def Writes (text : List Char) (n : Nat) : Prop :=
  ∃ digits, (text = digits ∨ text = '+' :: digits) ∧ digits ≠ [] ∧
    (∀ d ∈ digits, d.isDigit = true) ∧ Nat.ofDigitChars 10 digits 0 = n

theorem readNat?_eq_some_iff {bound n : Nat} :
    readNat? bound t = some n ↔ Writes t n ∧ n ≤ bound := by
  have hdrop : ∀ {m}, (dropPlus t ≠ [] ∧ readDigits 0 (dropPlus t) = some m) ↔ Writes t m := by
    intro m
    rw [readDigits_eq_some_iff]
    constructor
    · rintro ⟨hne, hdigits⟩
      refine ⟨dropPlus t, ?_, hne, hdigits⟩
      rw [dropPlus.eq_def]
      split <;> simp
    · rintro ⟨digits, rfl | rfl, hne, hall, hm⟩
      · -- a digit is no plus sign
        have hsame : dropPlus t = t := by
          rw [dropPlus.eq_def]
          split
          · exact absurd (hall '+' (by simp)) (by decide)
          · rfl
        rw [hsame]
        exact ⟨hne, hall, hm⟩
      · exact ⟨hne, hall, hm⟩
  rw [← hdrop, readNat?]
  split
  · next h => simp_all
  · next h =>
    simp only [Option.bind_eq_some_iff]
    constructor
    · rintro ⟨m, hm, hb⟩
      split at hb
      · next hle =>
        obtain rfl := Option.some.inj hb
        exact ⟨⟨by simpa using h, hm⟩, hle⟩
      · simp at hb
    · rintro ⟨⟨-, hm⟩, hle⟩
      exact ⟨n, hm, if_pos hle⟩

theorem readUInt32?_eq_some_iff {n : UInt32} :
    readUInt32? t = some n ↔ Writes t n.toNat := by
  rw [readUInt32?, Option.map_eq_some_iff]
  constructor
  · rintro ⟨m, hm, rfl⟩
    obtain ⟨hw, hle⟩ := readNat?_eq_some_iff.1 hm
    have hlt : m < UInt32.size := by
      have : 0 < UInt32.size := by decide
      omega
    rwa [UInt32.toNat_ofNat_of_lt' hlt]
  · intro h
    have := n.toNat_lt_size
    exact ⟨n.toNat, readNat?_eq_some_iff.2 ⟨h, by omega⟩, UInt32.ofNat_toNat⟩

theorem readUInt64?_eq_some_iff {n : UInt64} :
    readUInt64? t = some n ↔ Writes t n.toNat := by
  rw [readUInt64?, Option.map_eq_some_iff]
  constructor
  · rintro ⟨m, hm, rfl⟩
    obtain ⟨hw, hle⟩ := readNat?_eq_some_iff.1 hm
    have hlt : m < UInt64.size := by
      have : 0 < UInt64.size := by decide
      omega
    rwa [UInt64.toNat_ofNat_of_lt' hlt]
  · intro h
    have := n.toNat_lt_size
    exact ⟨n.toNat, readNat?_eq_some_iff.2 ⟨h, by omega⟩, UInt64.ofNat_toNat⟩

/-- A text writes at most one number. -/
theorem Writes.unique {m n : Nat} (hm : Writes t m) (hn : Writes t n) : m = n := by
  have hread {k : Nat} (hk : Writes t k) (hle : k ≤ m + n) : readNat? (m + n) t = some k :=
    readNat?_eq_some_iff.2 ⟨hk, hle⟩
  exact Option.some.inj ((hread hm (Nat.le_add_right m n)).symm.trans
    (hread hn (Nat.le_add_left n m)))

theorem writes_decimal (n : Nat) : Writes (decimal n) n :=
  (readNat?_eq_some_iff.1 (readNat?_decimal (Nat.le_refl n))).1

/-! ### Words between blanks -/

/-- A text that holds some words, with blanks between them and maybe at both ends. -/
inductive Holds : List Char → List (List Char) → Prop
  /-- Blanks hold no word. -/
  | blanks {t : List Char} (ht : ∀ c ∈ t, isBlank c = true) : Holds t []
  /-- A word stands behind blanks, and a blank ends it. -/
  | word {front w t : List Char} {ws : List (List Char)} (hfront : ∀ c ∈ front, isBlank c = true)
      (hw : IsWord w) (hend : ∀ c ∈ t.head?, isBlank c = true) (h : Holds t ws) :
      Holds (front ++ (w ++ t)) (w :: ws)

theorem Holds.cons_blank {ws : List (List Char)} (hc : isBlank c = true) (h : Holds t ws) :
    Holds (c :: t) ws := by
  cases h with
  | blanks ht => exact .blanks (List.forall_mem_cons.2 ⟨hc, ht⟩)
  | word hfront hw hend h => exact .word (List.forall_mem_cons.2 ⟨hc, hfront⟩) hw hend h

/-- A word may stand at the front. -/
theorem Holds.cons_word {w : List Char} {ws : List (List Char)} (hw : IsWord w)
    (hend : ∀ c ∈ t.head?, isBlank c = true) (h : Holds t ws) : Holds (w ++ t) (w :: ws) :=
  @Holds.word [] w t ws (by simp) hw hend h

theorem words_cons_blank (hc : isBlank c = true) (t : List Char) : words (c :: t) = words t := by
  simp [words, wordsFrom, hc]

theorem words_blanks_append {front : List Char} (h : ∀ c ∈ front, isBlank c = true)
    (t : List Char) : words (front ++ t) = words t := by
  induction front with
  | nil => rfl
  | cons c front ih =>
    obtain ⟨hc, hfront⟩ := List.forall_mem_cons.1 h
    rw [List.cons_append, words_cons_blank hc, ih hfront]

/-- What is read of a text behind the beginning of a word, last character first. -/
theorem holds_wordsFrom (word t : List Char) (hword : ∀ c ∈ word, isBlank c = false) :
    Holds (word.reverse ++ t) (wordsFrom word t) := by
  induction t generalizing word with
  | nil =>
    rw [wordsFrom]
    split
    · next hnil =>
      obtain rfl : word = [] := by simpa using hnil
      exact .blanks (by simp)
    · next hne =>
      exact .cons_word ⟨by simpa using hne, by simpa using hword⟩ (by simp) (.blanks (by simp))
  | cons c t ih =>
    rw [wordsFrom]
    split
    · -- a blank ends the word, if one has begun
      next hc =>
      have hrest : Holds (c :: t) (wordsFrom [] t) := (ih [] (by simp)).cons_blank hc
      split
      · next hnil =>
        obtain rfl : word = [] := by simpa using hnil
        exact hrest
      · next hne =>
        exact .cons_word ⟨by simpa using hne, by simpa using hword⟩ (by simpa using hc) hrest
    · next hc =>
      have hmore := ih (c :: word) (List.forall_mem_cons.2 ⟨by simpa using hc, hword⟩)
      simpa using hmore

/-- The words of a text are those that it holds. -/
theorem words_eq_iff {ws : List (List Char)} : words t = ws ↔ Holds t ws := by
  constructor
  · rintro rfl
    exact holds_wordsFrom [] t (by simp)
  · intro h
    induction h with
    | @blanks t ht =>
      rw [← List.append_nil t, words_blanks_append ht]
      rfl
    | @word front w t ws hfront hw hend h ih =>
      rw [words_blanks_append hfront]
      cases t with
      | nil =>
        rw [List.append_nil, words_of_isWord hw, ← ih]
        rfl
      | cons c t =>
        have hc : isBlank c = true := hend c rfl
        rw [words_append_blank hw hc, ← ih, words_cons_blank hc]

/-- Words that are written with single blanks between them are read back. -/
theorem words_intercalate {ws : List (List Char)} (h : ∀ w ∈ ws, IsWord w) :
    words ([' '].intercalate ws) = ws := by
  induction ws with
  | nil => rfl
  | cons w ws ih =>
    obtain ⟨hw, hws⟩ := List.forall_mem_cons.1 h
    cases ws with
    | nil => simpa [List.intercalate] using words_of_isWord hw
    | cons w' ws =>
      have hjoin : [' '].intercalate (w :: w' :: ws) = w ++ ' ' :: [' '].intercalate (w' :: ws) := by
        simp [List.intercalate]
      rw [hjoin, words_append_blank hw (by decide), ih hws]

end GroupCall.Text

/-
# Reading back what was written

Lines, words and decimal numbers are written by one set of functions and read by another.
The lemmas of this file say that each reader gives back what the writer of its kind was
given, and what every text that a reader returns is free of: a line holds no line feed and
a word no blank.
-/
import GroupCall.Text.Blank
import GroupCall.Text.Decimal
import GroupCall.Text.Line
import Mathlib.Data.List.Infix

namespace GroupCall.Text

variable {c : Char} {l w a b t : List Char}

/-! ### Lines -/

/-- A character that neither ends a line nor stands in front of a line feed belongs to the
first line. -/
theorem lines_cons (hc : c ≠ '\n') (hl : l.head? ≠ some '\n') :
    lines (c :: l) =
      match lines l with
      | [] => [[c]]
      | line :: more => (c :: line) :: more := by
  refine lines.eq_4 c l hc ?_
  rintro rest - rfl
  exact hl rfl

/-- A line that is written with its ending is read back. -/
theorem lines_append_lineEnd (h : '\n' ∉ l) (rest : List Char) :
    lines (l ++ lineEnd ++ rest) = l :: lines rest := by
  induction l with
  | nil => rfl
  | cons c l ih =>
    obtain ⟨hc, hl⟩ := not_or.1 (mt List.mem_cons.2 h)
    -- what follows the character is the line or its ending, and neither begins with a line feed
    have hhead : (l ++ lineEnd ++ rest).head? ≠ some '\n' := by
      cases l with
      | nil => simp [lineEnd]
      | cons d l => simpa using fun hd : d = '\n' => hl (by simp [hd])
    simp only [List.cons_append]
    rw [lines_cons (Ne.symm hc) hhead, ih hl]

theorem lines_joinLines {ls : List (List Char)} (h : ∀ l ∈ ls, '\n' ∉ l) :
    lines (joinLines ls) = ls := by
  induction ls with
  | nil => rfl
  | cons l ls ih =>
    rw [joinLines_cons, lines_append_lineEnd (h l (by simp)),
      ih fun l hl => h l (List.mem_cons_of_mem _ hl)]

/-- No line that is read holds a line feed. -/
theorem not_mem_of_mem_lines (h : l ∈ lines t) : '\n' ∉ l := by
  induction t using lines.induct generalizing l with
  | case1 => simp [lines] at h
  | case2 rest ih =>
    rcases List.mem_cons.1 (by simpa only [lines] using h) with rfl | h
    · simp
    · exact ih h
  | case3 rest ih =>
    rcases List.mem_cons.1 (by simpa only [lines] using h) with rfl | h
    · simp
    · exact ih h
  | case4 c rest hc hr hnil ih =>
    rw [lines.eq_4 c rest hc hr, hnil] at h
    obtain rfl : l = [c] := by simpa using h
    simpa using Ne.symm hc
  | case5 c rest hc hr line more hcons ih =>
    rw [lines.eq_4 c rest hc hr, hcons] at h
    rcases List.mem_cons.1 h with rfl | h
    · have hline : '\n' ∉ line := ih (by simp [hcons])
      simpa [hline] using Ne.symm hc
    · exact ih (by simp [hcons, h])

/-! ### Cutting at a character -/

theorem splitAtFirst_append (h : c ∉ a) (b : List Char) :
    splitAtFirst c (a ++ c :: b) = some (a, b) := by
  induction a with
  | nil => simp [splitAtFirst]
  | cons d a ih =>
    obtain ⟨hd, ha⟩ := not_or.1 (mt List.mem_cons.2 h)
    simp [splitAtFirst, Ne.symm hd, ih ha]

theorem splitAtFirst_eq_none (h : c ∉ a) : splitAtFirst c a = none := by
  induction a with
  | nil => rfl
  | cons d a ih =>
    obtain ⟨hd, ha⟩ := not_or.1 (mt List.mem_cons.2 h)
    simp [splitAtFirst, Ne.symm hd, ih ha]

theorem eq_of_splitAtFirst (h : splitAtFirst c t = some (a, b)) : t = a ++ c :: b := by
  induction t generalizing a with
  | nil => simp [splitAtFirst] at h
  | cons d t ih =>
    rw [splitAtFirst] at h
    split at h
    · next hd =>
      obtain ⟨rfl, rfl⟩ : [] = a ∧ t = b := by simpa using h
      simp [hd]
    · obtain ⟨⟨a', b'⟩, hp, heq⟩ := Option.map_eq_some_iff.1 h
      obtain ⟨rfl, rfl⟩ : d :: a' = a ∧ b' = b := by simpa using heq
      simp [ih hp]

@[simp] theorem dropBeginning_append (b t : List Char) : dropBeginning b (b ++ t) = some t := by
  simp [dropBeginning]

theorem eq_of_dropBeginning (h : dropBeginning b t = some a) : t = b ++ a := by
  rw [dropBeginning] at h
  split at h
  · next hb =>
    obtain ⟨rest, rfl⟩ := List.isPrefixOf_iff_prefix.1 hb
    simpa using h
  · simp at h

/-! ### Words -/

/-- A text that is one word. -/
def IsWord (w : List Char) : Prop := w ≠ [] ∧ ∀ c ∈ w, isBlank c = false

theorem isWord_of_all (hne : w.isEmpty = false) (hall : w.all (fun c => !isBlank c) = true) :
    IsWord w :=
  ⟨by simpa using hne, fun c hc => by simpa using List.all_eq_true.1 hall c hc⟩

theorem IsWord.not_mem (h : IsWord w) (hc : isBlank c = true) : c ∉ w := fun hmem => by
  simp [h.2 c hmem] at hc

theorem wordsFrom_append (h : ∀ c ∈ w, isBlank c = false) (word rest : List Char) :
    wordsFrom word (w ++ rest) = wordsFrom (w.reverse ++ word) rest := by
  induction w generalizing word with
  | nil => rfl
  | cons c w ih =>
    have hc : isBlank c = false := h c (by simp)
    simp [wordsFrom, hc, ih fun c hw => h c (List.mem_cons_of_mem _ hw)]

theorem words_append_blank (h : IsWord w) (hc : isBlank c = true) (rest : List Char) :
    words (w ++ c :: rest) = w :: words rest := by
  rw [words, wordsFrom_append h.2]
  simp [wordsFrom, hc, h.1, words]

theorem words_of_isWord (h : IsWord w) : words w = [w] := by
  have := wordsFrom_append h.2 [] []
  simpa [words, wordsFrom, h.1] using this

theorem IsWord.reverse (h : IsWord w) : IsWord w.reverse :=
  ⟨by simpa using h.1, by simpa using h.2⟩

/-- Every word that is read is one, if the word that is being read has no blank so far. -/
theorem isWord_of_mem_wordsFrom {word : List Char} (hword : ∀ c ∈ word, isBlank c = false)
    (h : w ∈ wordsFrom word t) : IsWord w := by
  induction t generalizing word with
  | nil =>
    rw [wordsFrom] at h
    split at h
    · simp at h
    · next hne =>
      obtain rfl : w = word.reverse := by simpa using h
      exact IsWord.reverse ⟨by simpa using hne, hword⟩
  | cons c t ih =>
    rw [wordsFrom] at h
    split at h
    · -- A blank ends the word that is being read.
      split at h
      · exact ih (by simp) h
      · next hne =>
        rcases List.mem_cons.1 h with rfl | h
        · exact IsWord.reverse ⟨by simpa using hne, hword⟩
        · exact ih (by simp) h
    · next hc =>
      refine ih ?_ h
      rintro d (_ | ⟨_, hd⟩)
      · simpa using hc
      · exact hword d hd

theorem isWord_of_mem_words (h : w ∈ words t) : IsWord w :=
  isWord_of_mem_wordsFrom (by simp) h

/-- A text that begins and ends without a blank has none to drop. -/
theorem trim_of_isWord (h : IsWord w) : trim w = w := by
  have hstart : ∀ {v : List Char}, (∀ c ∈ v, isBlank c = false) → trimStart v = v := by
    intro v hv
    cases v with
    | nil => rfl
    | cons c v => simp [trimStart, hv c (by simp)]
  rw [trim, hstart h.2, hstart (by simpa using h.2), List.reverse_reverse]

/-! ### Decimal numbers -/

theorem isBlank_of_isDigit (h : c.isDigit = true) : isBlank c = false := by
  have hc : 48 ≤ c.toNat ∧ c.toNat ≤ 57 := by
    simpa [Char.isDigit, UInt32.le_iff_toNat_le] using h
  simp [isBlank, blankRanges]
  omega

theorem isWord_decimal (n : Nat) : IsWord (decimal n) :=
  ⟨Nat.toDigits_ne_nil, fun _ hc =>
    isBlank_of_isDigit (Nat.isDigit_of_mem_toDigits (by decide) (by decide) hc)⟩

theorem readDigits_append (n : Nat) (a b : List Char) :
    readDigits n (a ++ b) = (readDigits n a).bind fun m => readDigits m b := by
  induction a generalizing n with
  | nil => rfl
  | cons c a ih =>
    cases hd : digitValue? c with
    | none => simp [readDigits, hd]
    | some d => simp [readDigits, hd, ih]

theorem digitValue?_digitChar : ∀ d < 10, digitValue? d.digitChar = some d := by decide

theorem readDigits_decimal (n : Nat) : readDigits 0 (decimal n) = some n := by
  induction n using Nat.strongRecOn with
  | _ n ih =>
    rw [decimal, Nat.toDigits_eq_if (by decide)]
    split
    · next h => simp [readDigits, digitValue?_digitChar n h]
    · next h =>
      have hq : readDigits 0 (Nat.toDigits 10 (n / 10)) = some (n / 10) := ih _ (by omega)
      have hr := digitValue?_digitChar (n % 10) (Nat.mod_lt _ (by decide))
      rw [readDigits_append, hq]
      simp only [Option.bind_some, readDigits, hr]
      congr 1
      omega

theorem dropPlus_decimal (n : Nat) : dropPlus (decimal n) = decimal n := by
  rw [dropPlus.eq_def]
  split
  · -- a plus sign is no digit
    next rest h =>
    have hplus : '+' ∈ Nat.toDigits 10 n := by
      rw [← decimal, h]
      simp
    have := Nat.isDigit_of_mem_toDigits (by decide) (by decide) hplus
    simp at this
  · rfl

/-- A number within the bound is read back from its digits. -/
theorem readNat?_decimal {bound n : Nat} (h : n ≤ bound) :
    readNat? bound (decimal n) = some n := by
  have hne : (decimal n).isEmpty = false := by simpa using (isWord_decimal n).1
  simp [readNat?, dropPlus_decimal, hne, readDigits_decimal, h]

@[simp] theorem readUInt32?_decimal (n : UInt32) : readUInt32? (decimal n.toNat) = some n := by
  have hn : n.toNat ≤ UInt32.size - 1 := by
    have := n.toNat_lt_size
    omega
  rw [readUInt32?, readNat?_decimal hn, Option.map_some, UInt32.ofNat_toNat]

@[simp] theorem readUInt64?_decimal (n : UInt64) : readUInt64? (decimal n.toNat) = some n := by
  have hn : n.toNat ≤ UInt64.size - 1 := by
    have := n.toNat_lt_size
    omega
  rw [readUInt64?, readNat?_decimal hn, Option.map_some, UInt64.ofNat_toNat]

end GroupCall.Text

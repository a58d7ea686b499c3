/-
# Bytes of a text

Frames and answers travel as bytes.  `utf8` is the UTF-8 form of a text and `readUtf8?`
accepts exactly such bytes.  `readUtf8Lossy` reads any bytes, for display: each longest
piece that could still have become a character is shown as one replacement character.
-/

namespace GroupCall.Text

/-- The UTF-8 form of a text. -/
def utf8 (text : String) : List UInt8 := text.toUTF8.data.toList

/-- The text whose UTF-8 form the bytes are. -/
def readUtf8? (bytes : List UInt8) : Option String := String.fromUTF8? ⟨bytes.toArray⟩

/-- Reading gives back the text that was written. -/
theorem readUtf8?_utf8 (text : String) : readUtf8? (utf8 text) = some text := by
  simp only [readUtf8?, utf8, Array.toArray_toList, String.fromUTF8?]
  exact dif_pos text.isValidUTF8

/-! ## Reading for display -/

/-- The character shown for bytes that are no character. -/
def replacement : Char := '\ufffd'

/-- Whether a byte continues a character. -/
def isContinuation (b : UInt8) : Bool := 0x80 ≤ b && b ≤ 0xBF

/-- How many bytes follow a leading byte, and the range of the first of them. -/
def leadingByte? (a : UInt8) : Option (Nat × UInt8 × UInt8) :=
  if 0xC2 ≤ a ∧ a ≤ 0xDF then some (1, 0x80, 0xBF)
  else if a = 0xE0 then some (2, 0xA0, 0xBF)
  else if a = 0xED then some (2, 0x80, 0x9F)
  else if 0xE1 ≤ a ∧ a ≤ 0xEF then some (2, 0x80, 0xBF)
  else if a = 0xF0 then some (3, 0x90, 0xBF)
  else if a = 0xF4 then some (3, 0x80, 0x8F)
  else if 0xF1 ≤ a ∧ a ≤ 0xF3 then some (3, 0x80, 0xBF)
  else none

/-- The code point that a leading byte and the bytes behind it write. -/
def codePoint (a : UInt8) (behind : List UInt8) : Nat :=
  let lead := match behind.length with
    | 1 => a.toNat % 32
    | 2 => a.toNat % 16
    | _ => a.toNat % 8
  behind.foldl (fun n b => n * 64 + b.toNat % 64) lead

/-- Reads one character behind its leading byte `a`: what is shown for it, and how many
bytes of `rest` belong to it. -/
def nextCharacter (a : UInt8) (rest : List UInt8) : Char × Nat :=
  if a < 0x80 then (Char.ofNat a.toNat, 0)
  else match leadingByte? a with
    | none => (replacement, 0)
    | some (count, low, high) =>
      match rest with
      | [] => (replacement, 0)
      | b :: more =>
        if low ≤ b ∧ b ≤ high then
          let behind := b :: (more.take (count - 1)).takeWhile isContinuation
          if behind.length = count then (Char.ofNat (codePoint a behind), count)
          else (replacement, behind.length)
        else (replacement, 0)

/-- Reads any bytes, with replacement characters where they are no text. -/
def readUtf8Lossy : List UInt8 → List Char
  | [] => []
  | a :: rest =>
    let next := nextCharacter a rest
    next.1 :: readUtf8Lossy (rest.drop next.2)
termination_by bytes => bytes.length
decreasing_by simp only [List.length_drop, List.length_cons]; omega

end GroupCall.Text

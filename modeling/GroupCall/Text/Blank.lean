/-
# White space

The characters with the Unicode property White_Space, and the two operations that look for
them: dropping blanks at both ends of a text and cutting a text into its words.
-/

namespace GroupCall.Text

/-- The ranges of code points with the property White_Space. -/
def blankRanges : List (Nat × Nat) :=
  [(0x9, 0xD), (0x20, 0x20), (0x85, 0x85), (0xA0, 0xA0), (0x1680, 0x1680), (0x2000, 0x200A),
    (0x2028, 0x2029), (0x202F, 0x202F), (0x205F, 0x205F), (0x3000, 0x3000)]

/-- Whether a character is white space. -/
def isBlank (c : Char) : Bool :=
  blankRanges.any fun r => r.1 ≤ c.toNat && c.toNat ≤ r.2

/-- A text without the blanks at its front. -/
def trimStart (text : List Char) : List Char := text.dropWhile isBlank

/-- A text without the blanks at both ends. -/
def trim (text : List Char) : List Char := (trimStart (trimStart text).reverse).reverse

/-- Whether a text holds blanks only. -/
def isAllBlank (text : List Char) : Bool := text.all isBlank

/-- The words of a text whose first word is being read: `word` holds what was read of it,
last character first. -/
def wordsFrom (word : List Char) : List Char → List (List Char)
  | [] => if word.isEmpty then [] else [word.reverse]
  | c :: rest =>
    if isBlank c then
      if word.isEmpty then wordsFrom [] rest else word.reverse :: wordsFrom [] rest
    else wordsFrom (c :: word) rest

/-- The words of a text: its longest pieces without blanks. -/
def words (text : List Char) : List (List Char) := wordsFrom [] text

example : words "  FID 1\t2 ".toList = ["FID".toList, "1".toList, "2".toList] := by decide

example : trim " \t7\u00a0".toList = ['7'] := by decide

end GroupCall.Text

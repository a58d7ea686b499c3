/-
# Writing JSON

Values are written without white space, members by ascending key.  Only the quote, the
backslash and control characters below the blank are escaped: five of them by a letter, the
others by their code in lower-case hexadecimal digits.
-/
import GroupCall.Json.Value

namespace GroupCall.Json

/-- How a character is written inside a string. -/
def escapeChar (c : Char) : List Char :=
  if c = '"' then ['\\', '"']
  else if c = '\\' then ['\\', '\\']
  else if c = '\x08' then ['\\', 'b']
  else if c = '\t' then ['\\', 't']
  else if c = '\n' then ['\\', 'n']
  else if c = '\x0c' then ['\\', 'f']
  else if c = '\r' then ['\\', 'r']
  else if c.toNat < 0x20 then ['\\', 'u'] ++ Text.hexDigits 4 c.toNat
  else [c]

/-- A text as a string with its quotes. -/
def stringChars (s : String) : List Char := '"' :: s.toList.flatMap escapeChar ++ ['"']

/-- Decimal digits as characters. -/
def digitChars (digits : List Nat) : List Char := digits.map fun d => Char.ofNat (d + '0'.toNat)

/-- A numeral as it is written. -/
def numeralChars (n : Numeral) : List Char :=
  (if n.negative then ['-'] else []) ++ digitChars n.whole ++
    (if n.fraction.isEmpty then [] else '.' :: digitChars n.fraction) ++
    match n.exponent with
    | none => []
    | some (negative, digits) => 'e' :: (if negative then ['-'] else []) ++ digitChars digits

mutual

/-- The characters of a value. -/
def chars : Json → List Char
  | .null => "null".toList
  | .bool b => (if b then "true" else "false").toList
  | .integer i => numeralChars (Numeral.ofInt i)
  | .decimal n => numeralChars n
  | .text s => stringChars s
  | .array items => '[' :: itemChars items ++ [']']
  | .object members => '{' :: memberChars members ++ ['}']

/-- The items of an array, with commas between them. -/
def itemChars : List Json → List Char
  | [] => []
  | [item] => item.chars
  | item :: next :: rest => item.chars ++ ',' :: itemChars (next :: rest)

/-- The members of an object, with commas between them. -/
def memberChars : List (String × Json) → List Char
  | [] => []
  | [(key, item)] => stringChars key ++ ':' :: item.chars
  | (key, item) :: next :: rest =>
    stringChars key ++ ':' :: item.chars ++ ',' :: memberChars (next :: rest)

end

/-- A value as text. -/
def render (j : Json) : String := String.ofList j.chars

/-- A value as the bytes of its text. -/
def bytes (j : Json) : List UInt8 := Text.utf8 j.render

end GroupCall.Json

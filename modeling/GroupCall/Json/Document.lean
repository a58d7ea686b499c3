/-
# JSON documents as they are written

A document is what JSON text says before anything is asked of it: the members of an object
in their order with repetitions, numbers as numerals, and strings as the pieces between
their quotes.  Whether a string is Unicode text, a number is representable and the nesting
is bounded is decided when a part is used (`GroupCall.Json.Value`), so a part that is passed
over need not be.  Text is read as bytes; the grammar is that of RFC 8259.
-/
import GroupCall.Json.Numeral
import GroupCall.Text.Hex
import GroupCall.Text.Utf8

namespace GroupCall.Json

/-! The ASCII characters of the grammar, as bytes. -/

namespace Octet

@[match_pattern] abbrev openBrace : UInt8 := 0x7b
@[match_pattern] abbrev closeBrace : UInt8 := 0x7d
@[match_pattern] abbrev openBracket : UInt8 := 0x5b
@[match_pattern] abbrev closeBracket : UInt8 := 0x5d
@[match_pattern] abbrev comma : UInt8 := 0x2c
@[match_pattern] abbrev colon : UInt8 := 0x3a
@[match_pattern] abbrev quote : UInt8 := 0x22
@[match_pattern] abbrev backslash : UInt8 := 0x5c
@[match_pattern] abbrev slash : UInt8 := 0x2f
@[match_pattern] abbrev minus : UInt8 := 0x2d
@[match_pattern] abbrev plus : UInt8 := 0x2b
@[match_pattern] abbrev point : UInt8 := 0x2e
@[match_pattern] abbrev zero : UInt8 := 0x30
@[match_pattern] abbrev letterA : UInt8 := 0x61
@[match_pattern] abbrev letterB : UInt8 := 0x62
@[match_pattern] abbrev letterE : UInt8 := 0x65
@[match_pattern] abbrev capitalE : UInt8 := 0x45
@[match_pattern] abbrev letterF : UInt8 := 0x66
@[match_pattern] abbrev letterL : UInt8 := 0x6c
@[match_pattern] abbrev letterN : UInt8 := 0x6e
@[match_pattern] abbrev letterR : UInt8 := 0x72
@[match_pattern] abbrev letterS : UInt8 := 0x73
@[match_pattern] abbrev letterT : UInt8 := 0x74
@[match_pattern] abbrev letterU : UInt8 := 0x75

end Octet

/-- A piece of a string: a byte that stands for itself, or an escape of 16 bits. -/
inductive Piece where
  /-- A byte of the UTF-8 form. -/
  | octet (b : UInt8)
  /-- An escape by its hexadecimal code. -/
  | code (n : Nat)
deriving DecidableEq, Repr

/-- A JSON document as it is written. -/
inductive Document where
  /-- The word for nothing. -/
  | null
  /-- One of the two truth values. -/
  | bool (b : Bool)
  /-- A number. -/
  | number (n : Numeral)
  /-- A string, as the pieces between its quotes. -/
  | text (pieces : List Piece)
  /-- An array. -/
  | array (items : List Document)
  /-- An object, with its members in their order. -/
  | object (members : List (List Piece × Document))
deriving Repr

/-! ## Strings -/

/-- The UTF-8 form of the code point `n`. -/
def utf8OfCode (n : Nat) : List UInt8 := String.utf8EncodeChar (Char.ofNat n)

/-- Whether a 16-bit code is the first half of a pair. -/
def isHighHalf (n : Nat) : Bool := 0xD800 ≤ n && n ≤ 0xDBFF

/-- Whether a 16-bit code is the second half of a pair. -/
def isLowHalf (n : Nat) : Bool := 0xDC00 ≤ n && n ≤ 0xDFFF

/-- The bytes of a string; none if half a pair stands alone. -/
def pieceBytes : List Piece → Option (List UInt8)
  | [] => some []
  | .octet b :: rest => (pieceBytes rest).map (b :: ·)
  | .code n :: .code m :: rest =>
    if isHighHalf n && isLowHalf m then
      (pieceBytes rest).map (utf8OfCode (0x10000 + (n - 0xD800) * 0x400 + (m - 0xDC00)) ++ ·)
    else if isHighHalf n || isLowHalf n then none
    else (pieceBytes (.code m :: rest)).map (utf8OfCode n ++ ·)
  | .code n :: rest =>
    if isHighHalf n || isLowHalf n then none else (pieceBytes rest).map (utf8OfCode n ++ ·)

/-- The text of a string; none if it is not Unicode text. -/
def pieceText (pieces : List Piece) : Option String := (pieceBytes pieces).bind Text.readUtf8?

/-- The pieces of a text that is written without escapes. -/
def piecesOf (text : String) : List Piece := (Text.utf8 text).map .octet

/-- The byte that an escape of one letter stands for. -/
def escaped? : UInt8 → Option UInt8
  | Octet.quote => some 0x22
  | Octet.backslash => some 0x5c
  | Octet.slash => some 0x2f
  | Octet.letterB => some 0x08
  | Octet.letterF => some 0x0c
  | Octet.letterN => some 0x0a
  | Octet.letterR => some 0x0d
  | Octet.letterT => some 0x09
  | _ => none

/-- The number that four hexadecimal digits write. -/
def hexCode? (a b c d : UInt8) : Option Nat :=
  Text.readHexDigits 0 ([a, b, c, d].map fun x => Char.ofNat x.toNat)

/-- Reads a string behind its opening quote: its pieces, and what stands behind it. -/
def readString : List UInt8 → Option (List Piece × List UInt8)
  | [] => none
  | Octet.quote :: rest => some ([], rest)
  | Octet.backslash :: Octet.letterU :: a :: b :: c :: d :: rest => do
    let n ← hexCode? a b c d
    let (pieces, behind) ← readString rest
    return (.code n :: pieces, behind)
  | Octet.backslash :: e :: rest => do
    let b ← escaped? e
    let (pieces, behind) ← readString rest
    return (.octet b :: pieces, behind)
  | b :: rest =>
    if b < 0x20 || b = Octet.backslash then none
    else do
      let (pieces, behind) ← readString rest
      return (.octet b :: pieces, behind)

/-! ## Numbers -/

/-- Reads decimal digits, as many as there are. -/
def readDigits : List UInt8 → List Nat × List UInt8
  | [] => ([], [])
  | b :: rest =>
    if 0x30 ≤ b && b ≤ 0x39 then
      let (digits, behind) := readDigits rest
      ((b - 0x30).toNat :: digits, behind)
    else ([], b :: rest)

/-- Reads the exponent of a number, if there is one. -/
def readExponent : List UInt8 → Option (Option (Bool × List Nat) × List UInt8)
  | [] => some (none, [])
  | b :: rest =>
    if b = Octet.letterE || b = Octet.capitalE then
      let (negative, digits, behind) := match rest with
        | Octet.minus :: more => (true, readDigits more)
        | Octet.plus :: more => (false, readDigits more)
        | more => (false, readDigits more)
      if digits.isEmpty then none else some (some (negative, digits), behind)
    else some (none, b :: rest)

/-- Reads the fraction of a number, if there is one. -/
def readFraction : List UInt8 → Option (List Nat × List UInt8)
  | Octet.point :: rest =>
    let (digits, behind) := readDigits rest
    if digits.isEmpty then none else some (digits, behind)
  | input => some ([], input)

/-- Reads the digits in front of the point; a zero in front stands alone. -/
def readWhole : List UInt8 → Option (List Nat × List UInt8)
  | Octet.zero :: rest => some ([0], rest)
  | input =>
    let (digits, behind) := readDigits input
    if digits.isEmpty then none else some (digits, behind)

/-- Reads a number. -/
def readNumber (input : List UInt8) : Option (Numeral × List UInt8) := do
  let (negative, input) := match input with
    | Octet.minus :: rest => (true, rest)
    | rest => (false, rest)
  let (whole, input) ← readWhole input
  let (fraction, input) ← readFraction input
  let (exponent, input) ← readExponent input
  return (⟨negative, whole, fraction, exponent⟩, input)

/-! ## Documents -/

/-- The input from its first byte that is not white space. -/
def skipBlanks (input : List UInt8) : List UInt8 :=
  input.dropWhile fun b => b = 0x20 || b = 0x0a || b = 0x0d || b = 0x09

mutual

/-- Reads one document and returns what stands behind it.  `fuel` bounds the depth of the
recursion; twice the length of the input is enough. -/
def readValue : Nat → List UInt8 → Option (Document × List UInt8)
  | 0, _ => none
  | fuel + 1, input =>
    match skipBlanks input with
    | Octet.openBrace :: rest =>
      match skipBlanks rest with
      | Octet.closeBrace :: behind => some (.object [], behind)
      | inside => (readMembers fuel inside).map fun p => (.object p.1, p.2)
    | Octet.openBracket :: rest =>
      match skipBlanks rest with
      | Octet.closeBracket :: behind => some (.array [], behind)
      | inside => (readItems fuel inside).map fun p => (.array p.1, p.2)
    | Octet.quote :: rest => (readString rest).map fun p => (.text p.1, p.2)
    | Octet.letterN :: Octet.letterU :: Octet.letterL :: Octet.letterL :: behind =>
      some (.null, behind)
    | Octet.letterT :: Octet.letterR :: Octet.letterU :: Octet.letterE :: behind =>
      some (.bool true, behind)
    | Octet.letterF :: Octet.letterA :: Octet.letterL :: Octet.letterS :: Octet.letterE
        :: behind =>
      some (.bool false, behind)
    | other => (readNumber other).map fun p => (.number p.1, p.2)

/-- Reads the items of an array up to its end; there is at least one. -/
def readItems : Nat → List UInt8 → Option (List Document × List UInt8)
  | 0, _ => none
  | fuel + 1, input =>
    match readValue fuel input with
    | none => none
    | some (item, rest) =>
      match skipBlanks rest with
      | Octet.closeBracket :: behind => some ([item], behind)
      | Octet.comma :: more => (readItems fuel more).map fun p => (item :: p.1, p.2)
      | _ => none

/-- Reads the members of an object up to its end; there is at least one. -/
def readMembers : Nat → List UInt8 → Option (List (List Piece × Document) × List UInt8)
  | 0, _ => none
  | fuel + 1, input =>
    match skipBlanks input with
    | Octet.quote :: rest =>
      match readString rest with
      | none => none
      | some (key, rest) =>
        match skipBlanks rest with
        | Octet.colon :: rest =>
          match readValue fuel rest with
          | none => none
          | some (item, rest) =>
            match skipBlanks rest with
            | Octet.closeBrace :: behind => some ([(key, item)], behind)
            | Octet.comma :: more =>
              (readMembers fuel more).map fun p => ((key, item) :: p.1, p.2)
            | _ => none
        | _ => none
    | _ => none

end

/-- The document that a whole text writes; only white space may stand around it. -/
def Document.read? (input : List UInt8) : Option Document :=
  match readValue (2 * input.length + 2) input with
  | some (document, rest) => if (skipBlanks rest).isEmpty then some document else none
  | none => none

end GroupCall.Json

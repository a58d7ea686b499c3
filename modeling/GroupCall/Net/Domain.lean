/-
# Domain names in ASCII

A domain name may be typed in any case and in any script; what is looked up is its form in
ASCII.  The name is folded and cut into labels at its dots.  A label that is marked as
encoded is decoded, and has to be what folding and encoding give; every other label with
characters beyond ASCII is encoded.
-/
import GroupCall.Net.Folding
import GroupCall.Net.Label
import GroupCall.Net.Punycode
import GroupCall.Text.Utf8

namespace GroupCall.Domain

open Text

/-- Whether all characters are of ASCII. -/
def isAscii (label : List Char) : Bool := label.all fun c => c.toNat < 0x80

/-- What marks an encoded label. -/
def mark : List Char := "xn--".toList

/-- How many characters may follow the mark. -/
def maxEncodedLength : Nat := 2000

/-- The label that is encoded behind a mark.  It holds letters beyond ASCII, folding leaves it
as it is, and it is readable. -/
def decodeLabel? (encoded : List Char) : Option (List Char) :=
  if encoded.length ≤ maxEncodedLength then
    (Punycode.decode? encoded).filter fun label =>
      !isAscii label && label.all isAllowed && fold label == label && Label.isReadable label
  else none

/-- The letters of a folded label. -/
def readLabel? (label : List Char) : Option (List Char) :=
  match dropBeginning mark label with
  | some encoded => decodeLabel? encoded
  | none => if isAscii label || Label.isReadable label then some label else none

/-- A label in ASCII. -/
def writeLabel (label : List Char) : List Char :=
  if isAscii label then label else mark ++ Punycode.encode label

/-- Whether no label of a name mixes directions.  Directions matter once a letter runs from
right to left. -/
def keepsDirection (labels : List (List Char)) : Bool :=
  !(labels.any fun label => label.any runsLeft) || labels.all Label.keepsDirection

/-- A name in ASCII, if it can be one. -/
def toAscii? (bytes : List UInt8) : Option (List Char) := do
  let name ← readUtf8? bytes
  let folded := fold name.toList
  if folded.all isAllowed then
    let labels ← (pieces '.' folded).mapM readLabel?
    if keepsDirection labels then some (joinWith '.' (labels.map writeLabel)) else none
  else none

end GroupCall.Domain

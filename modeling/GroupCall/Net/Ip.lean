/-
# IP addresses

Addresses of both versions and their text.  A version 4 address is written as four decimal
numbers.  A version 6 address is written as eight groups in hexadecimal digits, of which the
first longest run of two or more zero groups is left out; the last two groups may be read
from a version 4 address, and are written so where the address stands for one.
-/
import GroupCall.Text.Decimal
import GroupCall.Text.Hex
import GroupCall.Text.Line

namespace GroupCall

open Text

/-- An address of version 4. -/
structure Ipv4 where
  /-- The four bytes as one number. -/
  bits : UInt32
deriving DecidableEq, Repr

/-- An address of version 6. -/
structure Ipv6 where
  /-- The eight groups. -/
  groups : Vector UInt16 8
deriving DecidableEq, Repr

/-- An address of either version. -/
inductive IpAddress where
  /-- An address of version 4. -/
  | v4 (address : Ipv4)
  /-- An address of version 6. -/
  | v6 (address : Ipv6)
deriving DecidableEq, Repr

namespace Ipv4

/-- The number below 256 that one to three digits without a leading zero write. -/
def byte? (text : List Char) : Option Nat :=
  if text.isEmpty || (text.head? == some '0' && text.length != 1) then none
  else (readDigits 0 text).bind fun n => if n < 256 then some n else none

/-- The address that four numbers with dots between them write. -/
def read? (text : List Char) : Option Ipv4 :=
  match pieces '.' text with
  | [a, b, c, d] => do
    let a ← byte? a
    let b ← byte? b
    let c ← byte? c
    let d ← byte? d
    return ⟨UInt32.ofNat (((a * 256 + b) * 256 + c) * 256 + d)⟩
  | _ => none

/-- The four numbers of an address. -/
def bytes (address : Ipv4) : List Nat :=
  let n := address.bits.toNat
  [n / 0x1000000, n / 0x10000 % 256, n / 0x100 % 256, n % 256]

/-- An address as text. -/
def chars (address : Ipv4) : List Char := joinWith '.' (address.bytes.map decimal)

end Ipv4

namespace Ipv6

/-- The number that one to four hexadecimal digits write. -/
def group? (text : List Char) : Option Nat :=
  if text.isEmpty || 4 < text.length then none else readHexDigits 0 text

/-- The groups that pieces write; `ending` says whether the last piece may be an address of
version 4, which stands for two groups. -/
def groups? (ending : Bool) : List (List Char) → Option (List Nat)
  | [] => some []
  | [piece] =>
    match group? piece with
    | some g => some [g]
    | none =>
      if ending then
        (Ipv4.read? piece).map fun a => [a.bits.toNat / 0x10000, a.bits.toNat % 0x10000]
      else none
  | piece :: next :: rest => do
    let g ← group? piece
    let gs ← groups? ending (next :: rest)
    return g :: gs

/-- The groups of one side of a gap. -/
def side? (ending : Bool) (text : List Char) : Option (List Nat) :=
  if text.isEmpty then some [] else groups? ending (pieces ':' text)

/-- What stands before and behind the first pair of colons, if there is one. -/
def splitAtGap : List Char → Option (List Char × List Char)
  | ':' :: ':' :: rest => some ([], rest)
  | c :: rest => (splitAtGap rest).map fun p => (c :: p.1, p.2)
  | [] => none

/-- The address of eight groups. -/
def ofGroups? (groups : List Nat) : Option Ipv6 :=
  if h : groups.length = 8 then some ⟨⟨(groups.map UInt16.ofNat).toArray, by simpa using h⟩⟩
  else none

/-- The address that a text writes.  A gap stands for at least one group. -/
def read? (text : List Char) : Option Ipv6 :=
  match splitAtGap text with
  | none => (side? true text).bind ofGroups?
  | some (front, back) => do
    let a ← side? false front
    let b ← side? true back
    if a.length + b.length < 8 then
      ofGroups? (a ++ List.replicate (8 - (a.length + b.length)) 0 ++ b)
    else none

/-- The address as one number. -/
def toNat (address : Ipv6) : Nat :=
  address.groups.toList.foldl (fun n g => n * 0x10000 + g.toNat) 0

/-- How many of the groups from a place on are zero. -/
def zerosFrom (groups : List UInt16) (place : Nat) : Nat :=
  ((groups.drop place).takeWhile (· == 0)).length

/-- The place and the length of the first longest run of zero groups. -/
def longestZeros (groups : List UInt16) : Nat × Nat :=
  (List.range groups.length).foldl
    (fun best place =>
      if best.2 < zerosFrom groups place then (place, zerosFrom groups place) else best)
    ((0, 0) : Nat × Nat)

/-- Groups with colons between them. -/
def groupChars (groups : List UInt16) : List Char :=
  joinWith ':' (groups.map fun g => Nat.toDigits 16 g.toNat)

/-- An address as groups only. -/
def chars (address : Ipv6) : List Char :=
  let groups := address.groups.toList
  let (place, count) := longestZeros groups
  if count ≤ 1 then groupChars groups
  else groupChars (groups.take place) ++ [':', ':'] ++ groupChars (groups.drop (place + count))

/-- The address of version 4 that an address stands for. -/
def mapped? (address : Ipv6) : Option Ipv4 :=
  match address.groups.toList with
  | [0, 0, 0, 0, 0, 0xffff, a, b] => some ⟨UInt32.ofNat (a.toNat * 0x10000 + b.toNat)⟩
  | _ => none

end Ipv6

namespace IpAddress

/-- The address that a text writes. -/
def read? (text : String) : Option IpAddress :=
  match Ipv4.read? text.toList with
  | some address => some (.v4 address)
  | none => (Ipv6.read? text.toList).map .v6

/-- An address as text. -/
def text : IpAddress → String
  | .v4 address => String.ofList address.chars
  | .v6 address =>
    match address.mapped? with
    | some inner => String.ofList ("::ffff:".toList ++ inner.chars)
    | none => String.ofList address.chars

end IpAddress

/-! ## Gaps and mapped addresses -/

example : (IpAddress.read? "1:0:0:2::0.0.0.7").map IpAddress.text = some "1:0:0:2::7" := by
  decide

example : (IpAddress.read? "::FFFF:0a00:1").map IpAddress.text = some "::ffff:10.0.0.1" := by
  decide

example : IpAddress.read? "1:2:3:4:5:6:7::8" = none := by decide

example : IpAddress.read? "10.0.0.01" = none := by decide

end GroupCall

/-
# JSON values

A value is a document in which everything has a meaning: strings are Unicode text, numbers
are representable, nesting is bounded, and an object holds each key once, by ascending key,
with the last value that was written for it.  A number that is no 64-bit integer stays a
numeral: nothing here computes with fractions.
-/
import GroupCall.Json.Document

namespace GroupCall

/-- A JSON value. -/
inductive Json where
  /-- The word for nothing. -/
  | null
  /-- One of the two truth values. -/
  | bool (b : Bool)
  /-- An integer of at most 64 bits. -/
  | integer (i : Int)
  /-- Any other number. -/
  | decimal (n : Json.Numeral)
  /-- A text. -/
  | text (s : String)
  /-- An array. -/
  | array (items : List Json)
  /-- An object, by ascending key. -/
  | object (members : List (String × Json))
deriving Repr

namespace Json

/-- Puts a member into an object, in place of one with the same key. -/
def putMember (key : String) (item : Json) : List (String × Json) → List (String × Json)
  | [] => [(key, item)]
  | (k, j) :: rest =>
    if key < k then (key, item) :: (k, j) :: rest
    else if key = k then (key, item) :: rest
    else (k, j) :: putMember key item rest

/-- The object of a list of members, in which the last value of a key counts. -/
def ofMembers (members : List (String × Json)) : Json :=
  .object (members.foldl (fun ms m => putMember m.1 m.2 ms) [])

/-- The value of a key. -/
def member? (key : String) : List (String × Json) → Option Json
  | [] => none
  | (k, j) :: rest => if key = k then some j else member? key rest

/-- How deep arrays and objects may be nested. -/
def maxDepth : Nat := 127

mutual

/-- The value of a document, if it has one with at most `room` levels of nesting. -/
def ofDocument? (room : Nat) : Document → Option Json
  | .null => some .null
  | .bool b => some (.bool b)
  | .number n =>
    match n.integer? with
    | some i => some (.integer i)
    | none => if n.overflows then none else some (.decimal n)
  | .text pieces => (pieceText pieces).map .text
  | .array items => if room = 0 then none else (itemsOfDocuments? (room - 1) items).map .array
  | .object members =>
    if room = 0 then none else (membersOfDocuments? (room - 1) members).map ofMembers

/-- The values of the items of an array. -/
def itemsOfDocuments? (room : Nat) : List Document → Option (List Json)
  | [] => some []
  | item :: rest => do
    let value ← ofDocument? room item
    let values ← itemsOfDocuments? room rest
    return value :: values

/-- The values of the members of an object, in the order in which they are written. -/
def membersOfDocuments? (room : Nat) :
    List (List Piece × Document) → Option (List (String × Json))
  | [] => some []
  | (key, item) :: rest => do
    let name ← pieceText key
    let value ← ofDocument? room item
    let values ← membersOfDocuments? room rest
    return (name, value) :: values

end

/-- The value that a whole text writes. -/
def read? (input : List UInt8) : Option Json :=
  (Document.read? input).bind (ofDocument? maxDepth)

mutual

/-- A value as a document. -/
def toDocument : Json → Document
  | .null => .null
  | .bool b => .bool b
  | .integer i => .number (Numeral.ofInt i)
  | .decimal n => .number n
  | .text s => .text (piecesOf s)
  | .array items => .array (itemDocuments items)
  | .object members => .object (memberDocuments members)

/-- Values as the items of an array. -/
def itemDocuments : List Json → List Document
  | [] => []
  | item :: rest => item.toDocument :: itemDocuments rest

/-- Values as the members of an object. -/
def memberDocuments : List (String × Json) → List (List Piece × Document)
  | [] => []
  | (key, item) :: rest => (piecesOf key, item.toDocument) :: memberDocuments rest

end

/-! ## Questions about a value -/

/-- The integer that a value is. -/
def integer? : Json → Option Int
  | .integer i => some i
  | _ => none

/-- The natural number that a value is. -/
def natural? : Json → Option Nat
  | .integer i => if 0 ≤ i then some i.toNat else none
  | _ => none

/-- The text that a value is. -/
def text? : Json → Option String
  | .text s => some s
  | _ => none

/-- The items of a value that is an array. -/
def array? : Json → Option (List Json)
  | .array items => some items
  | _ => none

/-- The members of a value that is an object. -/
def object? : Json → Option (List (String × Json))
  | .object members => some members
  | _ => none

/-- A natural number as a value. -/
def nat (n : Nat) : Json := .integer n

end Json
end GroupCall

/-
# Lines

A description arrives as lines that end in a line feed, or in a carriage return and a line
feed, and it is written with the second ending.  `lines` cuts a text into lines without
their endings; the last line needs none.  `joinLines` writes lines with their endings.
`pieces` and `joinWith` do the same with a separator of one character.
-/

namespace GroupCall.Text

/-- The lines of a text, without their endings.  Only one carriage return belongs to an
ending, and one without a line feed behind it belongs to its line. -/
def lines : List Char → List (List Char)
  | [] => []
  | '\n' :: rest => [] :: lines rest
  | '\r' :: '\n' :: rest => [] :: lines rest
  | c :: rest =>
    match lines rest with
    | [] => [[c]]
    | line :: more => (c :: line) :: more

/-- The ending that is written behind a line. -/
def lineEnd : List Char := ['\r', '\n']

/-- Lines written one after the other, each with its ending. -/
def joinLines (ls : List (List Char)) : List Char := ls.flatMap (· ++ lineEnd)

/-- What stands before and behind the first `c` of a text, if there is one. -/
def splitAtFirst (c : Char) : List Char → Option (List Char × List Char)
  | [] => none
  | d :: rest =>
    if d = c then some ([], rest) else (splitAtFirst c rest).map fun p => (d :: p.1, p.2)

/-- The pieces of a text between the occurrences of `c`; without one it is a single piece. -/
def pieces (c : Char) : List Char → List (List Char)
  | [] => [[]]
  | d :: rest =>
    if d = c then [] :: pieces c rest
    else
      match pieces c rest with
      | [] => [[d]]
      | piece :: more => (d :: piece) :: more

/-- Texts written one after the other with `c` between them. -/
def joinWith (c : Char) : List (List Char) → List Char
  | [] => []
  | [piece] => piece
  | piece :: next :: rest => piece ++ c :: joinWith c (next :: rest)

/-- The rest of a text behind a given beginning, if it begins so. -/
def dropBeginning (beginning text : List Char) : Option (List Char) :=
  if beginning.isPrefixOf text then some (text.drop beginning.length) else none

@[simp] theorem joinLines_nil : joinLines [] = [] := rfl

@[simp] theorem joinLines_cons (l : List Char) (ls : List (List Char)) :
    joinLines (l :: ls) = l ++ lineEnd ++ joinLines ls := rfl

theorem joinLines_append (a b : List (List Char)) :
    joinLines (a ++ b) = joinLines a ++ joinLines b := List.flatMap_append

example : lines "a\r\r\nb\n\nc\r".toList
    = ["a\r".toList, ['b'], [], "c\r".toList] := by decide

end GroupCall.Text

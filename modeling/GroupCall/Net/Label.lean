/-
# Labels

A domain name consists of labels, apart by dots.  A label with letters beyond ASCII has to be
readable: it does not begin with a mark, a character that joins or parts letters stands only
where it shows, and if letters of the name run from right to left, no label mixes directions
so that it could be mistaken for another.
-/
import GroupCall.Text.CombiningClass
import GroupCall.Text.Direction
import GroupCall.Text.Joining
import GroupCall.Text.Mark

namespace GroupCall.Label

open Text

/-- Parts letters that would join. -/
def nonJoiner : Char := '\u200c'

/-- Joins letters that would not. -/
def joiner : Char := '\u200d'

/-- Whether the nearest character that counts for joining joins in one of some ways. -/
def joinsNext (ways : List Joining) (text : List Char) : Bool :=
  (text.dropWhile fun c => joining c == .transparent).head?.any fun c => ways.contains (joining c)

/-- Whether a character can stand between the ones before it, last one first, and the ones
behind it.  Both joiners may stand behind a virama; the one that parts letters may also stand
between letters that join across it. -/
def fits (before : List Char) (c : Char) (behind : List Char) : Bool :=
  if c = nonJoiner then
    before.head?.any isVirama ||
      (joinsNext [.left, .dual] before && joinsNext [.right, .dual] behind)
  else if c = joiner then before.head?.any isVirama
  else true

/-- Whether every character fits, if `before` stands before the label, last character first. -/
def allFit (before : List Char) : List Char → Bool
  | [] => true
  | c :: rest => fits before c rest && allFit (c :: before) rest

/-- How many characters a label beyond ASCII can have. -/
def maxLength : Nat := 1000

/-- Whether a label beyond ASCII is readable. -/
def isReadable (label : List Char) : Bool :=
  !label.head?.any isMark && allFit [] label && label.length ≤ maxLength

/-! ## Directions -/

/-- The classes that labels of both directions may hold. -/
def shared : List Direction :=
  [.europeanNumber, .europeanSeparator, .commonSeparator, .europeanTerminator, .otherNeutral,
    .boundaryNeutral, .nonspacingMark]

/-- Whether what follows the first letter of a label that runs from left to right keeps to
that direction; `body` is without the marks at its end. -/
def keepsRight (body : List Direction) : Bool :=
  (body.all fun d => d = .leftToRight || shared.contains d) &&
    body.getLast?.all [.leftToRight, .europeanNumber].contains

/-- Whether what follows the first letter of a label that runs from right to left keeps to
that direction.  It does not use digits of both kinds. -/
def keepsLeft (body : List Direction) : Bool :=
  let letters : List Direction := [.rightToLeft, .arabicLetter, .arabicNumber]
  (body.all fun d => letters.contains d || shared.contains d) &&
    (body.getLast?.all fun d => d = .europeanNumber || letters.contains d) &&
    !(body.contains .europeanNumber && body.contains .arabicNumber)

/-- Whether a label keeps to one direction, that of its first letter. -/
def keepsDirection : List Char → Bool
  | [] => true
  | first :: rest =>
    let body := ((rest.map direction).reverse.dropWhile (· = .nonspacingMark)).reverse
    match direction first with
    | .leftToRight => keepsRight body
    | .rightToLeft => keepsLeft body
    | .arabicLetter => keepsLeft body
    | _ => false

end GroupCall.Label

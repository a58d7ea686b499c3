/-
# The canonical form of a text

Texts that mean the same have the same canonical form.  Every character is taken apart, the
marks behind a character are put in the order of their classes, and what can be written as
one character is: a mark joins the character in front of it unless a mark between them has
the same or a higher class.
-/
import GroupCall.Text.CombiningClass
import GroupCall.Text.Decomposition

namespace GroupCall.Text

/-- A code point with its combining class. -/
abbrev Classed := Nat × Nat

/-- Puts a code point in front of a text in canonical order: behind the marks of a lower
class. -/
def insertInOrder (c : Classed) : List Classed → List Classed
  | [] => [c]
  | d :: rest => if 0 < d.1 ∧ d.1 < c.1 then d :: insertInOrder c rest else c :: d :: rest

/-- A text in canonical order. -/
def inOrder (text : List Classed) : List Classed := text.foldr insertInOrder []

/-- What is written for parts that have been put together, and for the marks behind them that
could not join, last mark first. -/
def close (parts : List Nat) (marks : List Classed) : List Nat :=
  ((composite? parts).map fun n => [n]).getD parts ++ marks.reverse.map Prod.snd

/-- Puts together what can be written as one character; `parts` are the parts of the
character to which the next mark belongs, and `marks` the marks behind it, last mark first. -/
def compose (parts : List Nat) (marks : List Classed) : List Classed → List Nat
  | [] => close parts marks
  | c :: rest =>
    if marks.head?.all (fun m => m.1 < c.1) && (composite? (parts ++ [c.2])).isSome then
      compose (parts ++ [c.2]) marks rest
    else if c.1 = 0 then close parts marks ++ compose [c.2] [] rest
    else compose parts (c :: marks) rest

/-- The canonical form of a text. -/
def canonical (text : List Char) : List Char :=
  let parts := text.flatMap fun c => decompose c.toNat
  (compose [] [] (inOrder (parts.map fun n => (combiningClass n, n)))).map Char.ofNat

end GroupCall.Text

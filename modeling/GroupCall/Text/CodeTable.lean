/-
# Tables of code points

What a character means is kept in tables: ranges of code points, each with numbers that say
what its characters stand for.  A table is written as text.  Its entries are apart by blanks
and in hexadecimal: `41` is a single code point, `41-5A` a range, `100/12E` every second code
point of a range, and `41-5A>61` a range with a number.  The ranges of a table ascend, so the
one that covers a code point is found by halving.  The tables of this library hold the
characters of Unicode 17.
-/
import GroupCall.Text.Blank
import GroupCall.Text.Hex
import GroupCall.Text.Line

namespace GroupCall.Text

/-- A range of code points and what they stand for. -/
structure CodeRange where
  /-- The first code point. -/
  first : Nat
  /-- The last code point. -/
  last : Nat
  /-- The distance between the code points of the range. -/
  step : Nat
  /-- The numbers of the range. -/
  values : List Nat
  /-- The range is not empty. -/
  first_le_last : first ≤ last
deriving DecidableEq

namespace CodeRange

/-- Whether a code point belongs to a range. -/
def covers (r : CodeRange) (n : Nat) : Bool :=
  r.first ≤ n && n ≤ r.last && (n - r.first) % r.step == 0

/-- What a code point of the range is moved to, if the range is moved as a whole. -/
def image (r : CodeRange) (n : Nat) : List Nat := r.values.map (· + (n - r.first))

/-- The range whose bounds are written in hexadecimal. -/
def ofBounds? (step : Nat) (values : List Nat) (first last : List Char) : Option CodeRange := do
  let first ← readHexDigits 0 first
  let last ← readHexDigits 0 last
  if h : first ≤ last then some ⟨first, last, step, values, h⟩ else none

/-- The range that an entry of a table writes. -/
def ofEntry? (entry : List Char) : Option CodeRange := do
  let (bounds, numbers) := (splitAtFirst '>' entry).getD (entry, [])
  let values ← if numbers.isEmpty then some [] else (pieces '.' numbers).mapM (readHexDigits 0)
  match splitAtFirst '-' bounds, splitAtFirst '/' bounds with
  | some (first, last), _ => ofBounds? 1 values first last
  | none, some (first, last) => ofBounds? 2 values first last
  | none, none => ofBounds? 1 values bounds bounds

end CodeRange

/-- The ranges of a list that lie at or above a bound and above each other. -/
def ascendingRanges (bound : Nat) : List CodeRange → List CodeRange
  | [] => []
  | r :: rest =>
    if bound ≤ r.first then r :: ascendingRanges (r.last + 1) rest
    else ascendingRanges bound rest

theorem le_first_of_mem_ascendingRanges {l : List CodeRange} {bound : Nat} {r : CodeRange}
    (h : r ∈ ascendingRanges bound l) : bound ≤ r.first := by
  induction l generalizing bound with
  | nil => simp [ascendingRanges] at h
  | cons s rest ih =>
    simp only [ascendingRanges] at h
    split at h
    · rename_i hs
      rcases List.mem_cons.1 h with rfl | h
      · exact hs
      · have := ih h
        have := s.first_le_last
        omega
    · exact ih h

theorem pairwise_ascendingRanges (bound : Nat) (l : List CodeRange) :
    (ascendingRanges bound l).Pairwise fun a b => a.last < b.first := by
  induction l generalizing bound with
  | nil => exact List.Pairwise.nil
  | cons s rest ih =>
    simp only [ascendingRanges]
    split
    · exact List.Pairwise.cons (fun _ h => le_first_of_mem_ascendingRanges h) (ih _)
    · exact ih _

/-- Ranges of code points, in ascending order. -/
structure CodeTable where
  /-- The ranges. -/
  ranges : Array CodeRange
  /-- Each range lies above the ones before it. -/
  ascending : ranges.toList.Pairwise fun a b => a.last < b.first

namespace CodeTable

/-- The table of a list of ranges; one that does not lie above all before it is left out. -/
def ofList (l : List CodeRange) : CodeTable :=
  ⟨(ascendingRanges 0 l).toArray, pairwise_ascendingRanges 0 l⟩

/-- The table that a text writes. -/
def ofText (text : String) : CodeTable :=
  .ofList ((words text.toList).filterMap CodeRange.ofEntry?)

/-- The range that covers a code point, among those at the places from `low` up to `high`. -/
def search (t : CodeTable) (n low high : Nat) (h : high ≤ t.ranges.size) : Option CodeRange :=
  if hlow : low < high then
    let middle := (low + high) / 2
    let r := t.ranges[middle]
    if n < r.first then t.search n low middle (by omega)
    else if r.last < n then t.search n (middle + 1) high h
    else if r.covers n then some r
    else none
  else none
termination_by high - low

/-- The range that covers a code point. -/
def find? (t : CodeTable) (n : Nat) : Option CodeRange :=
  t.search n 0 t.ranges.size (Nat.le_refl _)

/-- Whether a range of the table covers a code point. -/
def contains (t : CodeTable) (n : Nat) : Bool := (t.find? n).isSome

/-- The number of the range that covers a code point. -/
def value? (t : CodeTable) (n : Nat) : Option Nat := (t.find? n).bind fun r => r.values.head?

/-- What a code point is moved to. -/
def image? (t : CodeTable) (n : Nat) : Option (List Nat) := (t.find? n).map fun r => r.image n

example : (ofText "41-5A>61 100/12E>101 1C4>64.17E").image? 0x42 = some [0x62] := by
  decide +kernel

example : (ofText "41-5A>61 100/12E>101 1C4>64.17E").contains 0x101 = false := by
  decide +kernel

end CodeTable
end GroupCall.Text

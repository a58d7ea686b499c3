/-
# Letters beyond ASCII in a label

A label of a domain name with other letters than ASCII is written as its ASCII characters,
a hyphen, and the places of the other characters: these are inserted by ascending code
point, and each insertion is written as its distance from the one before, in a number system
whose digits adapt to the size of the distances.
-/
import GroupCall.Ascending
import GroupCall.Text.Line

namespace GroupCall.Punycode

/-- The digit of a number below 36: letters first. -/
def digit (n : Nat) : Char :=
  if n < 26 then Char.ofNat ('a'.toNat + n) else Char.ofNat ('0'.toNat + n - 26)

/-- The number of a digit. -/
def value? (c : Char) : Option Nat :=
  if 'a' ≤ c ∧ c ≤ 'z' then some (c.toNat - 'a'.toNat)
  else if 'A' ≤ c ∧ c ≤ 'Z' then some (c.toNat - 'A'.toNat)
  else if '0' ≤ c ∧ c ≤ '9' then some (c.toNat - '0'.toNat + 26)
  else none

/-- The threshold below which a digit is the last of its number. -/
def threshold (place bias : Nat) : Nat :=
  if place ≤ bias then 1 else if bias + 26 ≤ place then 26 else place - bias

/-- Divides a distance until it is small; counts the places. -/
def shrink (distance places : Nat) : Nat × Nat :=
  if 455 < distance then shrink (distance / 35) (places + 36) else (distance, places)
termination_by distance
decreasing_by exact Nat.div_lt_self (by omega) (by omega)

/-- The bias after a distance, when `count` characters are in place. -/
def adapt (distance count : Nat) (first : Bool) : Nat :=
  let d := if first then distance / 700 else distance / 2
  let r := shrink (d + d / count) 0
  r.2 + 36 * r.1 / (r.1 + 38)

theorem threshold_bounds (place bias : Nat) :
    1 ≤ threshold place bias ∧ threshold place bias ≤ 26 := by
  unfold threshold
  split
  · omega
  · split <;> omega

/-- A distance as digits. -/
def distanceChars (bias place q : Nat) : List Char :=
  let t := threshold place bias
  if q < t then [digit q]
  else digit (t + (q - t) % (36 - t)) :: distanceChars bias (place + 36) ((q - t) / (36 - t))
termination_by q
decreasing_by
  have h := threshold_bounds place bias
  calc (q - threshold place bias) / (36 - threshold place bias)
      ≤ q - threshold place bias := Nat.div_le_self _ _
    _ < q := by omega

/-! ## Writing -/

/-- What is known between two characters of a label. -/
structure Writer where
  /-- What is written so far. -/
  written : List Char
  /-- The distance from the last insertion. -/
  distance : Nat
  /-- The bias. -/
  bias : Nat
  /-- How many characters are in place. -/
  count : Nat

/-- Passes a character of the label while the code point `m` is inserted. -/
def Writer.pass (basic m : Nat) (w : Writer) (c : Char) : Writer :=
  if c.toNat < m then { w with distance := w.distance + 1 }
  else if c.toNat = m then
    { written := w.written ++ distanceChars w.bias 36 w.distance
      distance := 0
      bias := adapt w.distance (w.count + 1) (w.count = basic)
      count := w.count + 1 }
  else w

/-- Inserts the code points of an ascending list; `n` is the lowest that can come. -/
def Writer.insertAll (label : List Char) (basic : Nat) (w : Writer) (n : Nat) :
    List Nat → Writer
  | [] => w
  | m :: rest =>
    let w := { w with distance := w.distance + (m - n) * (w.count + 1) }
    let w := label.foldl (Writer.pass basic m) w
    Writer.insertAll label basic { w with distance := w.distance + 1 } (m + 1) rest

/-- A label in ASCII. -/
def encode (label : List Char) : List Char :=
  let basic := label.filter fun c => c.toNat < 0x80
  let others := ascending ((label.filter fun c => 0x80 ≤ c.toNat).map Char.toNat)
  let w := Writer.insertAll label basic.length ⟨[], 0, 72, basic.length⟩ 0x80 others
  basic ++ (if basic.isEmpty then [] else ['-']) ++ w.written

/-! ## Reading -/

/-- Reads a distance: `weight` is the weight of the next digit. -/
def readDistance (bias place weight sum : Nat) : List Char → Option (Nat × List Char)
  | [] => none
  | c :: rest =>
    match value? c with
    | none => none
    | some d =>
      let t := threshold place bias
      if d < t then some (sum + d * weight, rest)
      else readDistance bias (place + 36) (weight * (36 - t)) (sum + d * weight) rest

theorem length_of_readDistance {bias place weight sum n : Nat} {text rest : List Char}
    (h : readDistance bias place weight sum text = some (n, rest)) :
    rest.length < text.length := by
  induction text generalizing place weight sum with
  | nil => simp [readDistance] at h
  | cons c more ih =>
    simp only [readDistance] at h
    split at h
    · simp at h
    · split at h
      · simp only [Option.some.injEq, Prod.mk.injEq] at h
        rw [← h.2]; simp
      · have := ih h
        simp only [List.length_cons]; omega

/-- Inserts characters at the places that the digits write; `n` is the last code point and
`i` the last place, counted through all code points. -/
def insertRead (n i bias : Nat) (first : Bool) (out : List Char) (text : List Char) :
    Option (List Char) :=
  match text with
  | [] => some out
  | c :: more =>
    match _h : readDistance bias 36 1 0 (c :: more) with
    | none => none
    | some (distance, rest) =>
      let count := out.length + 1
      let i := i + distance
      let n := n + i / count
      if Nat.isValidChar n then
        let place := i % count
        insertRead n (place + 1) (adapt distance count first) false
          (out.take place ++ Char.ofNat n :: out.drop place) rest
      else none
termination_by text.length
decreasing_by exact length_of_readDistance _h

/-- The last hyphen of a text cuts it in two, if anything stands before it. -/
def splitAtLastHyphen (text : List Char) : List Char × List Char :=
  match Text.splitAtFirst '-' text.reverse with
  | some (back, c :: front) => ((c :: front).reverse, back.reverse)
  | _ => ([], text)

/-- The label that a text in ASCII writes. -/
def decode? (text : List Char) : Option (List Char) :=
  let (basic, digits) := splitAtLastHyphen text
  if basic.all fun c => c.toNat < 0x80 then insertRead 0x80 0 72 true basic digits else none

end GroupCall.Punycode

/-
# Numbers in ascending order

A set of numbers as the ascending list of its members, each once.  Two lists have the same
members exactly if they have the same ascending list.
-/

namespace GroupCall

/-- Puts a number into an ascending list of different numbers. -/
def insertOnce (n : Nat) : List Nat → List Nat
  | [] => [n]
  | m :: rest =>
    if n < m then n :: m :: rest
    else if n = m then m :: rest
    else m :: insertOnce n rest

/-- The numbers of a list, ascending and each once. -/
def ascending (ns : List Nat) : List Nat := ns.foldr insertOnce []

theorem mem_insertOnce {n m : Nat} {l : List Nat} : m ∈ insertOnce n l ↔ m = n ∨ m ∈ l := by
  induction l with
  | nil => simp [insertOnce]
  | cons k rest ih =>
    simp only [insertOnce]
    split
    · simp
    · split
      · rename_i h
        subst h
        simp
      · simp only [List.mem_cons, ih]
        constructor
        · rintro (h | h | h) <;> simp [h]
        · rintro (h | h | h) <;> simp [h]

/-- Nothing is lost and nothing is added. -/
theorem mem_ascending {m : Nat} {ns : List Nat} : m ∈ ascending ns ↔ m ∈ ns := by
  induction ns with
  | nil => simp [ascending]
  | cons n rest ih =>
    have h : ascending (n :: rest) = insertOnce n (ascending rest) := rfl
    rw [h, mem_insertOnce, ih, List.mem_cons]

end GroupCall

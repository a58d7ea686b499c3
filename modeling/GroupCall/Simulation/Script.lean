/-
# Scripted answers

A script says what the surroundings answer, one entry after the other; its last entry
repeats for ever.
-/

namespace GroupCall

/-- A scripted answer. -/
structure Scripted (α : Type) where
  /-- The answer. -/
  answer : α
  /-- After how many milliseconds it comes. -/
  delay : Nat

/-- A sequence of scripted answers that never runs out. -/
structure Script (α : Type) where
  /-- The next entry. -/
  next : Scripted α
  /-- The entries behind it. -/
  rest : List (Scripted α)

namespace Script

variable {α : Type}

/-- The script of a list of entries, or of a default entry if there are none. -/
def ofList (default : Scripted α) : List (Scripted α) → Script α
  | [] => ⟨default, []⟩
  | first :: rest => ⟨first, rest⟩

/-- The next entry and the script behind it. -/
def take (s : Script α) : Scripted α × Script α :=
  match s.rest with
  | [] => (s.next, s)
  | following :: rest => (s.next, ⟨following, rest⟩)

end Script
end GroupCall

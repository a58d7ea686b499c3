/-
# Tables kept in the order of their keys

Participants, receive slots, key rings and running calls are all kept in tables whose
answers are listed by ascending key.  A table is a list of entries; `insert` puts a new
entry in front of the first larger key and replaces an entry of the same key.  The laws at
the end say what each operation does to `get?`, and they need no order axioms, so they hold
for every type of keys.
-/

namespace GroupCall

/-- Entries of keys and values, in the order of the keys. -/
structure Table (κ : Type) (α : Type) where
  /-- The entries, by ascending key. -/
  entries : List (κ × α)
deriving DecidableEq, Repr

namespace Table

variable {κ α : Type}

/-- The table without entries. -/
def empty : Table κ α := ⟨[]⟩

instance : Inhabited (Table κ α) := ⟨empty⟩

/-- The keys, ascending. -/
def keys (t : Table κ α) : List κ := t.entries.map Prod.fst

/-- The values, by ascending key. -/
def values (t : Table κ α) : List α := t.entries.map Prod.snd

/-- How many entries there are. -/
def size (t : Table κ α) : Nat := t.entries.length

/-- Whether there is no entry. -/
def isEmpty (t : Table κ α) : Bool := t.entries.isEmpty

/-- Keeps the entries that pass a test. -/
def filter (p : κ → α → Bool) (t : Table κ α) : Table κ α :=
  ⟨t.entries.filter fun e => p e.1 e.2⟩

/-- Changes every value in place. -/
def map {β : Type} (f : α → β) (t : Table κ α) : Table κ β :=
  ⟨t.entries.map fun e => (e.1, f e.2)⟩

/-- Keeps at most `count` entries, those of the largest keys. -/
def keepLast (t : Table κ α) (count : Nat) : Table κ α :=
  ⟨t.entries.drop (t.entries.length - count)⟩

variable [DecidableEq κ]

/-- The value stored under `k` in a list of entries. -/
def find? (k : κ) : List (κ × α) → Option α
  | [] => none
  | (j, a) :: rest => if k = j then some a else find? k rest

/-- The value stored under a key. -/
def get? (t : Table κ α) (k : κ) : Option α := find? k t.entries

/-- Whether a key has an entry. -/
def contains (t : Table κ α) (k : κ) : Bool := (t.get? k).isSome

/-- Removes the entry of a key. -/
def erase (t : Table κ α) (k : κ) : Table κ α := ⟨t.entries.filter fun e => k ≠ e.1⟩

/-- Applies `f` to the value of `k` in a list of entries. -/
def modifyEntry (k : κ) (f : α → α) : List (κ × α) → List (κ × α)
  | [] => []
  | (j, a) :: rest => if k = j then (j, f a) :: rest else (j, a) :: modifyEntry k f rest

/-- Changes the value of a key, if it has one. -/
def modify (t : Table κ α) (k : κ) (f : α → α) : Table κ α := ⟨modifyEntry k f t.entries⟩

variable [LT κ] [DecidableLT κ]

/-- Puts an entry in front of the first larger key, in place of one with the same key. -/
def insertEntry (k : κ) (a : α) : List (κ × α) → List (κ × α)
  | [] => [(k, a)]
  | (j, b) :: rest =>
    if k < j then (k, a) :: (j, b) :: rest
    else if k = j then (k, a) :: rest
    else (j, b) :: insertEntry k a rest

/-- Stores a value under a key. -/
def insert (t : Table κ α) (k : κ) (a : α) : Table κ α := ⟨insertEntry k a t.entries⟩

/-- The table of a list of entries, in which the last entry of a key counts. -/
def ofList (entries : List (κ × α)) : Table κ α :=
  entries.foldl (fun t e => t.insert e.1 e.2) empty

/-! ## What the operations do to a look-up -/

omit [LT κ] [DecidableLT κ] in
@[simp] theorem get?_empty (k : κ) : (empty : Table κ α).get? k = none := rfl

theorem find?_insertEntry (k j : κ) (a : α) (l : List (κ × α)) :
    find? j (insertEntry k a l) = if j = k then some a else find? j l := by
  induction l with
  | nil => simp [insertEntry, find?]
  | cons e rest ih =>
    obtain ⟨i, b⟩ := e
    simp only [insertEntry]
    split
    · simp [find?]
    · split
      · rename_i h
        subst h
        by_cases hj : j = k <;> simp [find?, hj]
      · rename_i h
        by_cases hj : j = i
        · simp [find?, hj]
          intro e; exact absurd e.symm h
        · simp [find?, hj, ih]

@[simp] theorem get?_insert (t : Table κ α) (k j : κ) (a : α) :
    (t.insert k a).get? j = if j = k then some a else t.get? j :=
  find?_insertEntry k j a t.entries

omit [LT κ] [DecidableLT κ] in
theorem find?_filter_ne (k j : κ) (l : List (κ × α)) :
    find? j (l.filter fun e => decide (k ≠ e.1)) = if j = k then none else find? j l := by
  induction l with
  | nil => simp [find?]
  | cons e rest ih =>
    obtain ⟨i, b⟩ := e
    by_cases hk : k = i
    · subst hk
      simp only [List.filter_cons, ne_eq, not_true, decide_false, Bool.false_eq_true, if_false]
      simp only [ne_eq] at ih
      rw [ih]
      by_cases hj : j = k <;> simp [find?, hj]
    · simp only [List.filter_cons, ne_eq, hk, not_false_iff, decide_true, if_true]
      simp only [ne_eq] at ih
      simp only [find?, ih]
      by_cases hj : j = i
      · simp [hj]
        intro e; exact absurd e.symm hk
      · simp [hj]

omit [LT κ] [DecidableLT κ] in
@[simp] theorem get?_erase (t : Table κ α) (k j : κ) :
    (t.erase k).get? j = if j = k then none else t.get? j :=
  find?_filter_ne k j t.entries

omit [LT κ] [DecidableLT κ] in
theorem find?_modifyEntry (k j : κ) (f : α → α) (l : List (κ × α)) :
    find? j (modifyEntry k f l) = if j = k then (find? j l).map f else find? j l := by
  induction l with
  | nil => simp [modifyEntry, find?]
  | cons e rest ih =>
    obtain ⟨i, b⟩ := e
    simp only [modifyEntry]
    split
    · rename_i h
      subst h
      by_cases hj : j = k <;> simp [find?, hj]
    · rename_i h
      by_cases hj : j = i
      · simp [find?, hj]
        intro e; exact absurd e.symm h
      · simp [find?, hj, ih]

omit [LT κ] [DecidableLT κ] in
@[simp] theorem get?_modify (t : Table κ α) (k j : κ) (f : α → α) :
    (t.modify k f).get? j = if j = k then (t.get? j).map f else t.get? j :=
  find?_modifyEntry k j f t.entries

end Table
end GroupCall

/-
# Tables in order

The entries of a table are in ascending order of their keys, so that a key has at most one
entry and `get?` sees every entry.  Every operation keeps the order; the laws here say so,
and tie the lists of entries, keys and values to look-ups.  A cut that leaves the last entries
commutes with what is done to a table, and an entry is behind the cut exactly if there are few
enough keys above its own.
-/
import GroupCall.Table
import Mathlib.Order.Defs.Unbundled

namespace GroupCall

instance strictTotalOrderUInt32 : IsStrictTotalOrder UInt32 (· < ·) where
  trichotomous _ _ h h' := UInt32.le_antisymm (UInt32.not_lt.1 h') (UInt32.not_lt.1 h)
  irrefl := UInt32.lt_irrefl
  trans _ _ _ := UInt32.lt_trans

namespace Table

variable {κ α β : Type} [DecidableEq κ]

/-! ## More laws of look-ups -/

theorem find?_map (f : α → β) (k : κ) (l : List (κ × α)) :
    find? k (l.map fun e => (e.1, f e.2)) = (find? k l).map f := by
  induction l with
  | nil => rfl
  | cons e rest ih =>
    obtain ⟨j, a⟩ := e
    by_cases h : k = j <;> simp [find?, h, ih]

@[simp] theorem get?_map (t : Table κ α) (f : α → β) (k : κ) :
    (t.map f).get? k = (t.get? k).map f :=
  find?_map f k t.entries

theorem mem_of_find?_eq_some {k : κ} {a : α} {l : List (κ × α)} (h : find? k l = some a) :
    (k, a) ∈ l := by
  induction l with
  | nil => simp [find?] at h
  | cons e rest ih =>
    obtain ⟨j, b⟩ := e
    rw [find?] at h
    split at h
    · rename_i hk
      simp [hk, Option.some.inj h]
    · exact List.mem_cons_of_mem _ (ih h)

theorem find?_isSome_of_mem {k : κ} {a : α} {l : List (κ × α)} (h : (k, a) ∈ l) :
    (find? k l).isSome := by
  induction l with
  | nil => simp at h
  | cons e rest ih =>
    obtain ⟨j, b⟩ := e
    by_cases hk : k = j
    · simp [find?, hk]
    · have hrest : (k, a) ∈ rest := by simpa [hk] using h
      simpa [find?, hk] using ih hrest

/-- The keys are those under which something is stored. -/
theorem mem_keys_iff {t : Table κ α} {k : κ} : k ∈ t.keys ↔ (t.get? k).isSome := by
  constructor
  · intro h
    obtain ⟨⟨j, a⟩, hmem, rfl⟩ := List.mem_map.1 h
    exact find?_isSome_of_mem hmem
  · intro h
    obtain ⟨a, ha⟩ := Option.isSome_iff_exists.1 h
    exact List.mem_map.2 ⟨(k, a), mem_of_find?_eq_some ha, rfl⟩

theorem eq_empty_of_get?_eq_none {t : Table κ α} (h : ∀ k, t.get? k = none) : t = empty := by
  obtain ⟨l⟩ := t
  cases l with
  | nil => rfl
  | cons e rest =>
    have hsome := find?_isSome_of_mem (l := e :: rest) (List.mem_cons_self (a := e))
    have hnone : find? e.1 (e :: rest) = none := h e.1
    rw [hnone] at hsome
    cases hsome

theorem modifyEntry_eq_self {k : κ} {f : α → α} {l : List (κ × α)}
    (h : ∀ a, find? k l = some a → f a = a) : modifyEntry k f l = l := by
  induction l with
  | nil => rfl
  | cons e rest ih =>
    obtain ⟨j, b⟩ := e
    by_cases hk : k = j
    · rw [modifyEntry, if_pos hk, h b (by rw [find?, if_pos hk])]
    · rw [modifyEntry, if_neg hk, ih fun a ha => h a (by rw [find?, if_neg hk, ha])]

/-- A change that leaves alone what is stored under its key changes nothing. -/
theorem modify_eq_self {t : Table κ α} {k : κ} {f : α → α} (h : ∀ a, t.get? k = some a → f a = a) :
    t.modify k f = t := congrArg Table.mk (modifyEntry_eq_self h)

/-- Nothing is removed under a key under which nothing is stored. -/
theorem erase_of_get?_eq_none {t : Table κ α} {k : κ} (h : t.get? k = none) : t.erase k = t := by
  refine congrArg Table.mk (List.filter_eq_self.2 fun e he => ?_)
  rw [decide_eq_true_iff]
  rintro rfl
  have hsome := find?_isSome_of_mem (k := e.1) (a := e.2) he
  rw [show find? e.1 t.entries = none from h] at hsome
  cases hsome

theorem find?_filter (p : κ → Bool) (k : κ) (l : List (κ × α)) :
    find? k (l.filter fun e => p e.1) = if p k then find? k l else none := by
  induction l with
  | nil => simp [find?]
  | cons e rest ih =>
    obtain ⟨j, a⟩ := e
    by_cases hk : k = j
    · subst hk
      by_cases hp : p k <;> simp_all [find?]
    · by_cases hj : p j <;> simp [find?, hk, hj, ih]

theorem get?_filter (t : Table κ α) (p : κ → Bool) (k : κ) :
    (t.filter fun j _ => p j).get? k = if p k then t.get? k else none :=
  find?_filter p k t.entries

/-! ### Changes of every value -/

theorem map_erase (t : Table κ α) (f : α → β) (k : κ) :
    (t.erase k).map f = (t.map f).erase k := by
  simp only [map, erase, List.filter_map]
  rfl

/-- A change of one value is seen through a change of every value. -/
theorem map_modify {f : α → β} {g : α → α} {g' : β → β} (h : ∀ a, f (g a) = g' (f a))
    (t : Table κ α) (k : κ) : (t.modify k g).map f = (t.map f).modify k g' := by
  obtain ⟨l⟩ := t
  simp only [modify, map, mk.injEq]
  induction l with
  | nil => rfl
  | cons e rest ih =>
    obtain ⟨j, a⟩ := e
    simp only [modifyEntry, List.map_cons]
    split
    · simp [h]
    · simp [ih]

/-- It is not seen if it leaves alone what is looked at. -/
theorem map_modify_eq {f : α → β} {g : α → α} (h : ∀ a, f (g a) = f a) (t : Table κ α) (k : κ) :
    (t.modify k g).map f = t.map f :=
  (map_modify (show ∀ a, f (g a) = id (f a) from h) t k).trans (modify_eq_self fun _ _ => rfl)

theorem contains_map (t : Table κ α) (f : α → β) (k : κ) :
    (t.map f).contains k = t.contains k := by
  rw [contains, contains, get?_map, Option.isSome_map]

variable [LT κ]

/-! ## The order -/

/-- The entries are in ascending order of their keys, each key once. -/
def Sorted (t : Table κ α) : Prop := t.entries.Pairwise fun a b => a.1 < b.1

omit [DecidableEq κ] in
theorem sorted_empty : (empty : Table κ α).Sorted := List.Pairwise.nil

theorem Sorted.erase {t : Table κ α} (h : t.Sorted) (k : κ) : (t.erase k).Sorted :=
  List.Pairwise.filter _ h

omit [DecidableEq κ] in
theorem Sorted.filter {t : Table κ α} (h : t.Sorted) (p : κ → α → Bool) : (t.filter p).Sorted :=
  List.Pairwise.filter _ h

omit [DecidableEq κ] in
theorem Sorted.map {t : Table κ α} (h : t.Sorted) (f : α → β) : (t.map f).Sorted :=
  List.pairwise_map.2 h

omit [DecidableEq κ] in
theorem Sorted.keepLast {t : Table κ α} (h : t.Sorted) (count : Nat) : (t.keepLast count).Sorted :=
  List.Pairwise.sublist (List.drop_sublist _ _) h

/-! ### The last entries -/

omit [DecidableEq κ] [LT κ] in
/-- If there is nothing more, all entries are among the last ones. -/
theorem keepLast_of_size_le {t : Table κ α} {count : Nat} (h : t.size ≤ count) :
    t.keepLast count = t := by
  rw [size] at h
  rw [keepLast, Nat.sub_eq_zero_of_le h, List.drop_zero]

omit [DecidableEq κ] [LT κ] in
/-- If there are enough others, the first entry is not among the last ones. -/
theorem keepLast_cons {count : Nat} (e : κ × α) {rest : List (κ × α)} (h : count ≤ rest.length) :
    keepLast ⟨e :: rest⟩ count = keepLast ⟨rest⟩ count := by
  simp only [keepLast, List.length_cons, Nat.succ_sub h, List.drop_succ_cons]

omit [DecidableEq κ] [LT κ] in
theorem size_keepLast (t : Table κ α) (count : Nat) :
    (t.keepLast count).size = min t.size count := by
  simp only [keepLast, size, List.length_drop]
  omega

omit [DecidableEq κ] in
/-- A test that lets no key pass without the higher ones leaves the same last entries whether it
comes before or behind the cut. -/
theorem Sorted.keepLast_filter {t : Table κ α} (h : t.Sorted) {p : κ → Bool}
    (hp : ∀ j k, j < k → p j → p k) (count : Nat) :
    (t.keepLast count).filter (fun j _ => p j) =
      (t.filter fun j _ => p j).keepLast count := by
  obtain ⟨l⟩ := t
  change l.Pairwise _ at h
  induction l with
  | nil => simp [Table.keepLast, Table.filter]
  | cons e rest ih =>
    obtain ⟨hlt, hrest⟩ := List.pairwise_cons.1 h
    by_cases hcount : count ≤ rest.length
    · rw [keepLast_cons e hcount, ih hrest]
      by_cases he : p e.1
      · have hall : rest.filter (fun e => p e.1) = rest :=
          List.filter_eq_self.2 fun e' he' => hp e.1 e'.1 (hlt e' he') he
        simp only [Table.filter, List.filter_cons, he, if_true, hall]
        rw [keepLast_cons e hcount]
      · simp [Table.filter, he]
    · have hsize : (⟨e :: rest⟩ : Table κ α).size ≤ count := by
        simp only [size, List.length_cons]
        omega
      have hfilter : (Table.filter (fun j _ => p j) (⟨e :: rest⟩ : Table κ α)).size ≤ count :=
        Nat.le_trans (List.length_filter_le _ _) hsize
      rw [keepLast_of_size_le hsize, keepLast_of_size_le hfilter]

/-! ### Changes of entries -/

omit [LT κ] in
theorem mem_modifyEntry {k : κ} {f : α → α} {l : List (κ × α)} {e : κ × α}
    (h : e ∈ modifyEntry k f l) : ∃ a, (e.1, a) ∈ l := by
  induction l with
  | nil => simp [modifyEntry] at h
  | cons e' rest ih =>
    obtain ⟨j, b⟩ := e'
    rw [modifyEntry] at h
    split at h <;> rcases List.mem_cons.1 h with rfl | h
    · exact ⟨b, by simp⟩
    · exact ⟨e.2, List.mem_cons_of_mem _ h⟩
    · exact ⟨b, by simp⟩
    · obtain ⟨a, ha⟩ := ih h
      exact ⟨a, List.mem_cons_of_mem _ ha⟩

theorem Sorted.modify {t : Table κ α} (h : t.Sorted) (k : κ) (f : α → α) :
    (t.modify k f).Sorted := by
  obtain ⟨l⟩ := t
  change l.Pairwise _ at h
  change (modifyEntry k f l).Pairwise _
  induction l with
  | nil => exact h
  | cons e rest ih =>
    obtain ⟨j, b⟩ := e
    obtain ⟨hlt, hrest⟩ := List.pairwise_cons.1 h
    rw [modifyEntry]
    split
    · exact List.pairwise_cons.2 ⟨hlt, hrest⟩
    · refine List.pairwise_cons.2 ⟨fun e' he' => ?_, ih hrest⟩
      obtain ⟨a, ha⟩ := mem_modifyEntry he'
      exact hlt (e'.1, a) ha

variable [DecidableLT κ]

theorem map_insert (t : Table κ α) (f : α → β) (k : κ) (a : α) :
    (t.insert k a).map f = (t.map f).insert k (f a) := by
  obtain ⟨l⟩ := t
  simp only [insert, map, mk.injEq]
  induction l with
  | nil => rfl
  | cons e rest ih =>
    obtain ⟨j, b⟩ := e
    simp only [insertEntry, List.map_cons]
    split
    · rfl
    · split
      · rfl
      · rw [List.map_cons, ih]

theorem mem_insertEntry {k : κ} {a : α} {l : List (κ × α)} {e : κ × α}
    (h : e ∈ insertEntry k a l) : e = (k, a) ∨ e ∈ l := by
  induction l with
  | nil => simpa [insertEntry] using h
  | cons e' rest ih =>
    obtain ⟨j, b⟩ := e'
    rw [insertEntry] at h
    split at h
    · simpa using h
    · split at h
      · rcases List.mem_cons.1 h with h | h
        · exact Or.inl h
        · exact Or.inr (List.mem_cons_of_mem _ h)
      · rcases List.mem_cons.1 h with rfl | h
        · exact Or.inr (by simp)
        · exact (ih h).imp_right (List.mem_cons_of_mem _)

/-- A key below all others is put in front of them. -/
theorem insertEntry_of_lt {k : κ} (a : α) {l : List (κ × α)} (h : ∀ e ∈ l, k < e.1) :
    insertEntry k a l = (k, a) :: l := by
  cases l with
  | nil => rfl
  | cons e rest => exact if_pos (h e (by simp))

theorem length_le_insertEntry (k : κ) (a : α) (l : List (κ × α)) :
    l.length ≤ (insertEntry k a l).length := by
  induction l with
  | nil => simp
  | cons e rest ih =>
    rw [insertEntry]
    split
    · simp
    · split
      · simp
      · simpa using ih

variable [IsStrictTotalOrder κ (· < ·)]

theorem Sorted.insert {t : Table κ α} (h : t.Sorted) (k : κ) (a : α) : (t.insert k a).Sorted := by
  obtain ⟨l⟩ := t
  change l.Pairwise _ at h
  change (insertEntry k a l).Pairwise _
  induction l with
  | nil => exact List.pairwise_singleton _ _
  | cons e rest ih =>
    obtain ⟨j, b⟩ := e
    obtain ⟨hlt, hrest⟩ := List.pairwise_cons.1 h
    rw [insertEntry]
    split
    · rename_i hkj
      refine List.pairwise_cons.2 ⟨fun e' he' => ?_, h⟩
      rcases List.mem_cons.1 he' with rfl | he'
      · exact hkj
      · exact IsTrans.trans _ _ _ hkj (hlt e' he')
    · rename_i hkj
      split
      · rename_i heq
        subst heq
        exact List.pairwise_cons.2 ⟨hlt, hrest⟩
      · rename_i hne
        refine List.pairwise_cons.2 ⟨fun e' he' => ?_, ih hrest⟩
        rcases mem_insertEntry he' with rfl | he'
        · rcases trichotomous_of (· < ·) k j with hlt' | heq | hgt
          · exact absurd hlt' hkj
          · exact absurd heq hne
          · exact hgt
        · exact hlt e' he'

/-- What is not among the last entries does not come back when one more is stored. -/
theorem Sorted.keepLast_insert {t : Table κ α} (h : t.Sorted) (k : κ) (a : α) (count : Nat) :
    ((t.keepLast count).insert k a).keepLast count = (t.insert k a).keepLast count := by
  obtain ⟨l⟩ := t
  change l.Pairwise _ at h
  induction l with
  | nil => simp [Table.keepLast]
  | cons e rest ih =>
    obtain ⟨hlt, hrest⟩ := List.pairwise_cons.1 h
    by_cases hcount : count ≤ rest.length
    · have hmore : count ≤ (insertEntry k a rest).length :=
        Nat.le_trans hcount (length_le_insertEntry k a rest)
      rw [keepLast_cons e hcount, ih hrest]
      change Table.keepLast ⟨insertEntry k a rest⟩ count =
        Table.keepLast ⟨insertEntry k a (e :: rest)⟩ count
      -- a key that does not pass the first entry is as far from the last ones as that entry
      have hfront (hk : ∀ e' ∈ rest, k < e'.1) :
          Table.keepLast ⟨insertEntry k a rest⟩ count = Table.keepLast ⟨rest⟩ count := by
        rw [insertEntry_of_lt a hk, keepLast_cons _ hcount]
      rw [insertEntry]
      split
      · rename_i hke
        rw [hfront fun e' he' => IsTrans.trans _ _ _ hke (hlt e' he'),
          keepLast_cons _ (Nat.le_succ_of_le hcount), keepLast_cons _ hcount]
      · split
        · rename_i heq
          rw [hfront fun e' he' => heq ▸ hlt e' he', keepLast_cons _ hcount]
        · rw [keepLast_cons _ hmore]
    · have hsize : (⟨e :: rest⟩ : Table κ α).size ≤ count := by
        simp only [size, List.length_cons]
        omega
      rw [keepLast_of_size_le hsize]

omit [DecidableEq κ] [DecidableLT κ] in
theorem Sorted.nodup_keys {t : Table κ α} (h : t.Sorted) : t.keys.Nodup :=
  List.pairwise_map.2 (List.Pairwise.imp (fun hlt => ne_of_irrefl (r := (· < ·)) hlt) h)

omit [DecidableLT κ] in
/-- In order, a look-up finds every entry. -/
theorem Sorted.mem_entries_iff {t : Table κ α} (h : t.Sorted) {k : κ} {a : α} :
    (k, a) ∈ t.entries ↔ t.get? k = some a := by
  obtain ⟨l⟩ := t
  change l.Pairwise _ at h
  change (k, a) ∈ l ↔ find? k l = some a
  refine ⟨fun hmem => ?_, mem_of_find?_eq_some⟩
  induction l with
  | nil => simp at hmem
  | cons e rest ih =>
    obtain ⟨j, b⟩ := e
    obtain ⟨hlt, hrest⟩ := List.pairwise_cons.1 h
    rcases List.mem_cons.1 hmem with heq | htail
    · cases heq
      simp [find?]
    · have hne : k ≠ j := by
        rintro rfl
        exact irrefl (r := (· < ·)) k (hlt (k, a) htail)
      simpa [find?, hne] using ih hrest htail

omit [DecidableLT κ] in
theorem Sorted.mem_values_iff {t : Table κ α} (h : t.Sorted) {a : α} :
    a ∈ t.values ↔ ∃ k, t.get? k = some a := by
  constructor
  · intro hmem
    obtain ⟨⟨k, b⟩, he, rfl⟩ := List.mem_map.1 hmem
    exact ⟨k, h.mem_entries_iff.1 he⟩
  · rintro ⟨k, hk⟩
    exact List.mem_map.2 ⟨(k, a), h.mem_entries_iff.2 hk, rfl⟩

omit [DecidableLT κ] in
/-- What is kept of a table was in it. -/
theorem Sorted.get?_of_get?_keepLast {t : Table κ α} (h : t.Sorted) {count : Nat} {k : κ} {a : α}
    (hk : (t.keepLast count).get? k = some a) : t.get? k = some a :=
  h.mem_entries_iff.1 (List.mem_of_mem_drop ((h.keepLast count).mem_entries_iff.2 hk))

/-- An entry is kept if there is room for it and for all that have higher keys. -/
theorem Sorted.get?_keepLast_of_lt {t : Table κ α} (h : t.Sorted) {count : Nat} {k : κ} {a : α}
    (hk : t.get? k = some a) (hroom : (t.keys.filter fun j => k < j).length < count) :
    (t.keepLast count).get? k = some a := by
  rw [← (h.keepLast count).mem_entries_iff]
  obtain ⟨front, rest, hsplit⟩ := List.append_of_mem (h.mem_entries_iff.2 hk)
  have habove : ∀ e ∈ rest, k < e.1 := by
    have hsorted : (front ++ (k, a) :: rest).Pairwise fun a b => a.1 < b.1 := hsplit ▸ h
    exact (List.pairwise_cons.1 (List.pairwise_append.1 hsorted).2.1).1
  have hrest : rest.length ≤ (t.keys.filter fun j => k < j).length := by
    have hall : (rest.map Prod.fst).filter (fun j => k < j) = rest.map Prod.fst :=
      List.filter_eq_self.2 fun j hj => by
        obtain ⟨e, he, rfl⟩ := List.mem_map.1 hj
        simpa using habove e he
    have hsub : (rest.map Prod.fst).Sublist t.keys := by
      rw [keys, hsplit, List.map_append, List.map_cons]
      exact ((List.sublist_cons_self _ _).trans (List.sublist_append_right _ _))
    have hlength := (hsub.filter fun j => decide (k < j)).length_le
    rwa [hall, List.length_map] at hlength
  have hfront : (front ++ (k, a) :: rest).length - count ≤ front.length := by
    simp only [List.length_append, List.length_cons]
    omega
  rw [Table.keepLast, hsplit, List.drop_append_of_le_length hfront]
  simp

/-- If anything is kept, the entry with the highest key is. -/
theorem Sorted.get?_keepLast {t : Table κ α} (h : t.Sorted) {count : Nat} (hpos : 0 < count)
    {k : κ} {a : α} (hk : t.get? k = some a) (hmax : ∀ j, (t.get? j).isSome → ¬ k < j) :
    (t.keepLast count).get? k = some a := by
  have hnone : (t.keys.filter fun j => k < j) = [] :=
    List.filter_eq_nil_iff.2 fun j hj => by simpa using hmax j (mem_keys_iff.1 hj)
  exact h.get?_keepLast_of_lt hk (by rwa [hnone])

/-- The last entries are those with fewer than so many keys above their own. -/
theorem Sorted.get?_keepLast_iff {t : Table κ α} (h : t.Sorted) {count : Nat} {k : κ} {a : α} :
    (t.keepLast count).get? k = some a ↔
      t.get? k = some a ∧ (t.keys.filter fun j => k < j).length < count := by
  refine ⟨fun hk => ⟨h.get?_of_get?_keepLast hk, ?_⟩, fun hk => h.get?_keepLast_of_lt hk.1 hk.2⟩
  obtain ⟨front, rest, hsplit⟩ := List.append_of_mem ((h.keepLast count).mem_entries_iff.2 hk)
  have hall : t.entries = t.entries.take (t.entries.length - count) ++ front ++ (k, a) :: rest := by
    rw [List.append_assoc, ← hsplit]
    exact (List.take_append_drop _ _).symm
  have hlength : front.length + (rest.length + 1) ≤ count := by
    have hsize := size_keepLast t count
    simp only [size, hsplit, List.length_append, List.length_cons] at hsize
    omega
  -- what stands in front of the entry has lower keys
  have hbelow : (t.entries.take (t.entries.length - count) ++ front).filter
      (fun e => k < e.1) = [] := by
    refine List.filter_eq_nil_iff.2 fun e he => ?_
    rw [decide_eq_true_iff]
    have hsorted : t.entries.Pairwise fun a b => a.1 < b.1 := h
    rw [hall] at hsorted
    exact asymm ((List.pairwise_append.1 hsorted).2.2 e he (k, a) (by simp))
  have hself : ¬ k < k := irrefl (r := (· < ·)) k
  have habove : (t.keys.filter fun j => k < j).length ≤ rest.length := by
    rw [keys, hall, List.filter_map, List.length_map]
    change (List.filter (fun e : κ × α => decide (k < e.1)) _).length ≤ _
    rw [List.filter_append, hbelow, List.nil_append, List.filter_cons, if_neg (by simpa using hself)]
    exact List.length_filter_le _ _
  omega

/-- Storing a value does not change which keys are above its own. -/
theorem filter_keys_insert (t : Table κ α) (k : κ) (a : α) :
    ((t.insert k a).keys.filter fun j => k < j) = t.keys.filter fun j => k < j := by
  obtain ⟨l⟩ := t
  have hself : ¬ k < k := irrefl (r := (· < ·)) k
  change ((insertEntry k a l).map Prod.fst).filter _ = (l.map Prod.fst).filter _
  induction l with
  | nil => simp [insertEntry, hself]
  | cons e rest ih =>
    obtain ⟨j, b⟩ := e
    rw [insertEntry]
    split
    · simp [hself]
    · split
      · rename_i heq
        simp [heq]
      · rw [List.map_cons, List.map_cons, List.filter_cons, List.filter_cons, ih]

omit [IsStrictTotalOrder κ (· < ·)] in
/-- What a table of a list stores is on the list. -/
theorem mem_of_get?_ofList {l : List (κ × α)} {k : κ} {a : α} (h : (ofList l).get? k = some a) :
    (k, a) ∈ l := by
  suffices hall : ∀ t : Table κ α,
      (l.foldl (fun t e => t.insert e.1 e.2) t).get? k = some a → (k, a) ∈ l ∨ t.get? k = some a by
    simpa using hall _ h
  clear h
  induction l with
  | nil => exact fun _ h => Or.inr h
  | cons e rest ih =>
    intro t ht
    rcases ih _ ht with hmem | hget
    · exact Or.inl (List.mem_cons_of_mem _ hmem)
    · rw [get?_insert] at hget
      split at hget
      · rename_i hk
        cases Option.some.inj hget
        exact Or.inl (by simp [hk])
      · exact Or.inr hget

end Table
end GroupCall

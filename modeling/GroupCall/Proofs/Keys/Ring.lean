/-
# Key rings are sound

A ring keeps at least one key, and the current number is the highest that is kept.  So there
is a key under the current number, and as long as numbers are left the next one is new.
-/
import GroupCall.Crypto.KeyRing
import GroupCall.Proofs.Table

namespace GroupCall
namespace KeyRing

/-- The current number is the highest of the keys that are kept. -/
structure Sound (r : KeyRing) : Prop where
  /-- The keys are in order. -/
  sorted : r.keys.Sorted
  /-- At least one key is kept. -/
  capacity_pos : 0 < r.capacity
  /-- No number is above the current one. -/
  le_current : ∀ id, (r.get? id).isSome → ∃ c, r.current = some c ∧ id ≤ c
  /-- There is a key under the current number. -/
  current_mem : ∀ c, r.current = some c → (r.get? c).isSome

theorem sound_new (capacity : Nat) : (new capacity).Sound :=
  ⟨Table.sorted_empty, by simp only [new]; omega, by simp [new, get?], by simp [new]⟩

/-- A ring is used under its current number. -/
theorem Sound.currentKey? {r : KeyRing} (h : r.Sound) :
    r.currentKey?.map Prod.fst = r.current := by
  rw [KeyRing.currentKey?]
  cases hc : r.current with
  | none => rfl
  | some c =>
    obtain ⟨key, hkey⟩ := Option.isSome_iff_exists.1 (h.current_mem c hc)
    simp [hkey]

/-- A ring that has a current key has it under its current number. -/
theorem current_of_currentKey? {r : KeyRing} {id : KeyId} {key : MediaKey}
    (h : r.currentKey? = some (id, key)) : r.current = some id := by
  obtain ⟨current, hcurrent, hmap⟩ := Option.bind_eq_some_iff.1 h
  obtain ⟨found, -, heq⟩ := Option.map_eq_some_iff.1 hmap
  rw [hcurrent, (Prod.mk.inj heq).1]

theorem Sound.clear {r : KeyRing} (h : r.Sound) : r.clear.Sound :=
  ⟨Table.sorted_empty, h.capacity_pos, by simp [KeyRing.clear, get?], by simp [KeyRing.clear]⟩

theorem current_insert_of_none {r : KeyRing} (h : r.current = none) (id : KeyId) (key : MediaKey) :
    (r.insert id key).current = some id := by
  simp [insert, h]

theorem current_insert_of_some {r : KeyRing} {c : KeyId} (h : r.current = some c) (id : KeyId)
    (key : MediaKey) : (r.insert id key).current = some (if c < id then id else c) := by
  simp only [insert, h]
  split <;> rfl

/-- After a key came in, the current number is the higher one of its number and the current
number before. -/
theorem exists_current_insert (r : KeyRing) (id : KeyId) (key : MediaKey) :
    ∃ c, (r.insert id key).current = some c ∧ (c = id ∨ r.current = some c) ∧ id ≤ c ∧
      ∀ cur, r.current = some cur → cur ≤ c := by
  cases hc : r.current with
  | none =>
    exact ⟨id, current_insert_of_none hc id key, Or.inl rfl, UInt32.le_refl _, by simp⟩
  | some cur =>
    refine ⟨_, current_insert_of_some hc id key, ?_⟩
    split
    · rename_i hlt
      exact ⟨Or.inl rfl, UInt32.le_refl _, fun _ h => Option.some.inj h ▸ UInt32.le_of_lt hlt⟩
    · rename_i hlt
      exact ⟨Or.inr rfl, UInt32.not_lt.1 hlt, fun _ h => Option.some.inj h ▸ UInt32.le_refl _⟩

theorem Sound.insert {r : KeyRing} (h : r.Sound) (id : KeyId) (key : MediaKey) :
    (r.insert id key).Sound := by
  have hsorted := h.sorted.insert id key
  obtain ⟨c, hc, hfrom, hid, hcur⟩ := exists_current_insert r id key
  -- nothing that came in before is above the current number, whether it is kept or not
  have hmax : ∀ j, ((r.keys.insert id key).get? j).isSome → j ≤ c := by
    intro j hj
    rw [Table.get?_insert] at hj
    split at hj
    · rename_i heq
      exact heq ▸ hid
    · obtain ⟨cur, hcur', hle⟩ := h.le_current j hj
      exact UInt32.le_trans hle (hcur cur hcur')
  have hmem : ((r.keys.insert id key).get? c).isSome := by
    rw [Table.get?_insert]
    split
    · rfl
    · rename_i hne
      exact h.current_mem c (hfrom.resolve_left hne)
  refine ⟨hsorted.keepLast _, h.capacity_pos, fun j hj => ⟨c, hc, hmax j ?_⟩, fun c' hc' => ?_⟩
  · obtain ⟨a, ha⟩ := Option.isSome_iff_exists.1 hj
    rw [hsorted.get?_of_get?_keepLast ha]
    rfl
  · cases hc.symm.trans hc'
    obtain ⟨a, ha⟩ := Option.isSome_iff_exists.1 hmem
    have hkept := hsorted.get?_keepLast h.capacity_pos ha fun j hj => UInt32.not_lt.2 (hmax j hj)
    change (Table.get? (Table.keepLast _ _) c).isSome
    rw [hkept]
    rfl

/-- A key that comes in under a number not below the current one is kept. -/
theorem Sound.get?_insert {r : KeyRing} (h : r.Sound) {id : KeyId}
    (hid : ∀ cur, r.current = some cur → cur ≤ id) (key : MediaKey) :
    (r.insert id key).get? id = some key := by
  refine (h.sorted.insert id key).get?_keepLast h.capacity_pos (by simp) fun j hj => ?_
  rw [Table.get?_insert] at hj
  split at hj
  · rename_i heq
    exact heq ▸ UInt32.lt_irrefl _
  · obtain ⟨cur, hcur, hle⟩ := h.le_current j hj
    exact UInt32.not_lt.2 (UInt32.le_trans hle (hid cur hcur))

/-- The numbers above a number under which keys are kept. -/
def above (r : KeyRing) (id : KeyId) : List KeyId := r.keys.keys.filter fun j => id < j

/-- A key that comes in is kept if there is room for it below those with higher numbers. -/
theorem Sound.get?_insert_of_room {r : KeyRing} (h : r.Sound) {id : KeyId}
    (hroom : (r.above id).length < r.capacity) (key : MediaKey) :
    (r.insert id key).get? id = some key := by
  refine (h.sorted.insert id key).get?_keepLast_of_lt (by simp) ?_
  rw [Table.filter_keys_insert]
  exact hroom

/-- The current key stays when one comes in under a lower number. -/
theorem Sound.get?_insert_of_lt {r : KeyRing} (h : r.Sound) {id cur : KeyId}
    (hcur : r.current = some cur) (hlt : id < cur) (key : MediaKey) :
    (r.insert id key).get? cur = r.get? cur := by
  obtain ⟨old, hold⟩ := Option.isSome_iff_exists.1 (h.current_mem cur hcur)
  have hne : cur ≠ id := fun heq => UInt32.lt_irrefl cur (heq ▸ hlt)
  rw [hold]
  refine (h.sorted.insert id key).get?_keepLast h.capacity_pos ?_ fun j hj => ?_
  · rw [Table.get?_insert, if_neg hne]
    exact hold
  · rw [Table.get?_insert] at hj
    split at hj
    · rename_i heq
      exact heq ▸ UInt32.not_lt.2 (UInt32.le_of_lt hlt)
    · obtain ⟨top, htop, hle⟩ := h.le_current j hj
      cases hcur.symm.trans htop
      exact UInt32.not_lt.2 hle

/-! ## New numbers -/

/-- The highest number of a key. -/
def lastId : KeyId := 0xffffffff

/-- While numbers are left, the next one is above the current one. -/
theorem current_lt_nextId {r : KeyRing} {c : KeyId} (hc : r.current = some c) (hlast : c ≠ lastId) :
    c < r.nextId := by
  rw [nextId, hc]
  have hne : c.toNat ≠ 2 ^ 32 - 1 := fun h => hlast (UInt32.toNat_inj.1 h)
  have hlt := c.toNat_lt
  rw [UInt32.lt_iff_toNat_lt, UInt32.toNat_add]
  simp only [UInt32.reduceToNat]
  omega

/-- A new key under the next number is current, while numbers are left. -/
theorem current_insert_nextId {r : KeyRing} (hlast : r.current ≠ some lastId) (key : MediaKey) :
    (r.insert r.nextId key).current = some r.nextId := by
  cases hc : r.current with
  | none => exact current_insert_of_none hc _ key
  | some c =>
    have hlt := current_lt_nextId hc fun heq => hlast (heq ▸ hc)
    rw [current_insert_of_some hc, if_pos hlt]

/-- A new key under the next number is kept, while numbers are left. -/
theorem Sound.get?_insert_nextId {r : KeyRing} (h : r.Sound) (hlast : r.current ≠ some lastId)
    (key : MediaKey) : (r.insert r.nextId key).get? r.nextId = some key :=
  h.get?_insert (fun _ hcur =>
    UInt32.le_of_lt (current_lt_nextId hcur fun heq => hlast (heq ▸ hcur))) key

/-- When numbers are exhausted, the next one is far below the current one. -/
theorem nextId_lt_lastId {r : KeyRing} (hlast : r.current = some lastId) : r.nextId < lastId := by
  rw [nextId, hlast]
  decide

/-- When numbers are exhausted, a new key does not become current. -/
theorem current_insert_exhausted {r : KeyRing} (hlast : r.current = some lastId) (key : MediaKey) :
    (r.insert r.nextId key).current = some lastId := by
  rw [current_insert_of_some hlast, nextId, hlast]
  rfl

/-! ## What a number stands for -/

/-- A number stands for a key as long as it is current, and is not current again once there
is a higher one. -/
def Reached (r : KeyRing) (id : KeyId) (key : MediaKey) : Prop :=
  r.current = some id ∧ r.get? id = some key ∨ ∃ cur, r.current = some cur ∧ id < cur

/-- What is encrypted under the number is encrypted under the key. -/
theorem Reached.eq_of_currentKey? {r : KeyRing} {id : KeyId} {key key' : MediaKey}
    (h : r.Reached id key) (hkey : r.currentKey? = some (id, key')) : key' = key := by
  obtain ⟨cur, hcur, hmap⟩ := Option.bind_eq_some_iff.1 hkey
  obtain ⟨found, hfound, heq⟩ := Option.map_eq_some_iff.1 hmap
  obtain ⟨rfl, rfl⟩ := Prod.mk.inj heq
  obtain ⟨-, hget⟩ | ⟨cur', hcur', hlt⟩ := h
  · exact Option.some.inj (hfound.symm.trans hget)
  · cases hcur.symm.trans hcur'
    exact absurd hlt (UInt32.lt_irrefl _)

/-- The number of a new key stands for it. -/
theorem Sound.reached_nextId {r : KeyRing} (h : r.Sound) (key : MediaKey) :
    (r.insert r.nextId key).Reached r.nextId key := by
  by_cases hlast : r.current = some lastId
  · exact Or.inr ⟨lastId, current_insert_exhausted hlast key, nextId_lt_lastId hlast⟩
  · exact Or.inl ⟨current_insert_nextId hlast key, h.get?_insert_nextId hlast key⟩

/-- A number still stands for its key after a new one came in. -/
theorem Reached.insert_nextId {r : KeyRing} {id : KeyId} {key : MediaKey} (h : r.Reached id key)
    (hring : r.Sound) (new : MediaKey) : (r.insert r.nextId new).Reached id key := by
  by_cases hlast : r.current = some lastId
  · have hcurrent := current_insert_exhausted hlast new
    obtain ⟨hcur, hget⟩ | ⟨cur, hcur, hlt⟩ := h <;> cases hlast.symm.trans hcur
    · refine Or.inl ⟨hcurrent, ?_⟩
      rw [hring.get?_insert_of_lt hlast (nextId_lt_lastId hlast), hget]
    · exact Or.inr ⟨lastId, hcurrent, hlt⟩
  · have hbelow : ∀ cur, r.current = some cur → cur < r.nextId := fun cur hcur =>
      current_lt_nextId hcur fun heq => hlast (heq ▸ hcur)
    refine Or.inr ⟨r.nextId, current_insert_nextId hlast new, ?_⟩
    obtain ⟨hcur, -⟩ | ⟨cur, hcur, hlt⟩ := h
    · exact hbelow id hcur
    · exact UInt32.lt_trans hlt (hbelow cur hcur)

end KeyRing
end GroupCall

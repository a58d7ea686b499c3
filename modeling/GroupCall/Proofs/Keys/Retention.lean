/-
# What a key ring keeps

Keys come into a ring under any numbers and in any order, keys below a number are forgotten, and
the ring may be cleared.  What it holds is told from this history alone.  A key stands if it was
neither replaced nor forgotten nor cleared away since it came in; the ring holds those of the
highest numbers for which a key stands, as many as it has room for, and its current number is the
highest that came in since it was cleared.

A ring that is full pushes keys out, and a later step may make room again.  So the ring is compared
with a ledger that pushes none out: after every step it holds the last entries of the ledger.  What
was pushed out lies below all that is kept, and whatever makes room forgets it too.

The next number of our own is above all others as long as there is a higher one.  Behind the
highest number of all it is zero again, and a key under it does not become current.
-/
import GroupCall.Proofs.Histories
import GroupCall.Proofs.Keys.Ring
import Mathlib.Data.Set.Card

namespace GroupCall

/-! ## Histories -/

/-- Something that happens to a key ring. -/
inductive RingStep where
  /-- A key comes in. -/
  | insert (id : KeyId) (key : MediaKey)
  /-- The keys below a number are forgotten. -/
  | purgeBefore (id : KeyId)
  /-- The ring is cleared. -/
  | clear
deriving DecidableEq

namespace RingStep

/-- A step leaves the key of a number alone: it neither replaces nor forgets it. -/
def Spares (id : KeyId) : RingStep → Prop
  | .insert other _ => other ≠ id
  | .purgeBefore bound => bound ≤ id
  | .clear => False

end RingStep

namespace KeyRing

/-- A key stands under a number: it came in, and every step since spared it. -/
def Standing (steps : List RingStep) (id : KeyId) (key : MediaKey) : Prop :=
  Since (· = .insert id key) (RingStep.Spares id) steps

/-- The numbers under which a key stands. -/
def standingIds (steps : List RingStep) : Set KeyId := {id | ∃ key, Standing steps id key}

/-- A key came in under a number since the ring was last cleared. -/
def Arrived (steps : List RingStep) (id : KeyId) : Prop :=
  Since (fun step => ∃ key, step = .insert id key) (· ≠ .clear) steps

/-- The keys below some higher number were forgotten, and no key came in under the number
since. -/
def Purged (steps : List RingStep) (id : KeyId) : Prop :=
  Since (fun step => ∃ bound, step = .purgeBefore bound ∧ id < bound)
    (fun step => ∀ key, step ≠ .insert id key) steps

/-- The ring after a step. -/
def take (r : KeyRing) : RingStep → KeyRing
  | .insert id key => r.insert id key
  | .purgeBefore id => r.purgeBefore id
  | .clear => r.clear

/-- The ring after a run. -/
def run (r : KeyRing) (steps : List RingStep) : KeyRing := steps.foldl take r

theorem run_concat (r : KeyRing) (steps : List RingStep) (step : RingStep) :
    r.run (steps ++ [step]) = (r.run steps).take step := by
  simp [run]

section Histories

variable {steps : List RingStep} {step : RingStep} {id : KeyId} {key : MediaKey}

theorem standing_insert {other : KeyId} {new : MediaKey} :
    Standing (steps ++ [.insert other new]) id key ↔
      if id = other then new = key else Standing steps id key := by
  rw [Standing, since_concat, Standing]
  split
  · rename_i h
    subst h
    simp [RingStep.Spares]
  · rename_i h
    simp [RingStep.Spares, Ne.symm h]

theorem standing_purgeBefore {bound : KeyId} :
    Standing (steps ++ [.purgeBefore bound]) id key ↔ bound ≤ id ∧ Standing steps id key := by
  simp [Standing, since_concat, RingStep.Spares]

theorem not_standing_clear : ¬ Standing (steps ++ [.clear]) id key := by
  simp [Standing, since_concat, RingStep.Spares]

theorem arrived_insert {other : KeyId} {new : MediaKey} :
    Arrived (steps ++ [.insert other new]) id ↔ id = other ∨ Arrived steps id := by
  simp [Arrived, since_concat, eq_comm]

theorem arrived_purgeBefore {bound : KeyId} :
    Arrived (steps ++ [.purgeBefore bound]) id ↔ Arrived steps id := by
  simp [Arrived, since_concat]

theorem not_arrived_clear : ¬ Arrived (steps ++ [.clear]) id := by
  simp [Arrived, since_concat]

/-- A number under which a key stands has come in. -/
theorem Standing.arrived (h : Standing steps id key) : Arrived steps id := by
  obtain ⟨before, step, after, rfl, hstep, hafter⟩ := h
  refine ⟨before, step, after, rfl, ⟨key, hstep⟩, fun later hlater heq => ?_⟩
  exact (heq ▸ hafter later hlater : RingStep.Spares id .clear)

/-- No key stands under a number since it was purged. -/
theorem Purged.not_standing (h : Purged steps id) (key : MediaKey) :
    ¬ Standing steps id key := by
  induction steps using List.reverseRecOn with
  | nil => exact not_since_nil
  | append_singleton steps step ih =>
    rintro hstanding
    rcases since_concat.1 h with ⟨bound, rfl, hlt⟩ | ⟨hno, hbefore⟩
    · exact UInt32.not_lt.2 (standing_purgeBefore.1 hstanding).1 hlt
    · rcases since_concat.1 hstanding with hnew | ⟨-, hold⟩
      · exact hno key hnew
      · exact ih hbefore hold

/-- A number that has come in has a key that stands, or was purged since. -/
theorem Arrived.standing_or_purged (h : Arrived steps id) :
    (∃ key, Standing steps id key) ∨ Purged steps id := by
  induction steps using List.reverseRecOn with
  | nil => exact absurd h not_since_nil
  | append_singleton steps step ih =>
    cases step with
    | insert other new =>
      by_cases heq : id = other
      · exact Or.inl ⟨new, standing_insert.2 (by rw [if_pos heq])⟩
      · rcases ih ((arrived_insert.1 h).resolve_left heq) with ⟨key, hold⟩ | hpurged
        · exact Or.inl ⟨key, standing_insert.2 (by rwa [if_neg heq])⟩
        · refine Or.inr (since_concat.2 (Or.inr ⟨fun key hsame => ?_, hpurged⟩))
          cases hsame
          exact heq rfl
    | purgeBefore bound =>
      by_cases hlt : id < bound
      · exact Or.inr (since_concat.2 (Or.inl ⟨bound, rfl, hlt⟩))
      · refine (ih (arrived_purgeBefore.1 h)).imp ?_ fun hpurged => ?_
        · rintro ⟨key, hold⟩
          exact ⟨key, standing_purgeBefore.2 ⟨UInt32.not_lt.1 hlt, hold⟩⟩
        · exact since_concat.2 (Or.inr ⟨by simp, hpurged⟩)
    | clear => exact absurd h not_arrived_clear

end Histories

/-! ## The ledger -/

/-- What a ring with room for all would hold after a step. -/
def enter (t : Table KeyId MediaKey) : RingStep → Table KeyId MediaKey
  | .insert id key => t.insert id key
  | .purgeBefore id => t.filter fun j _ => decide (id ≤ j)
  | .clear => .empty

/-- What a ring with room for all would hold after a history. -/
def ledger (steps : List RingStep) : Table KeyId MediaKey := steps.foldl enter .empty

theorem ledger_concat (steps : List RingStep) (step : RingStep) :
    ledger (steps ++ [step]) = enter (ledger steps) step := by
  simp [ledger]

theorem sorted_enter {t : Table KeyId MediaKey} (h : t.Sorted) (step : RingStep) :
    (enter t step).Sorted := by
  cases step with
  | insert id key => exact h.insert id key
  | purgeBefore id => exact h.filter _
  | clear => exact Table.sorted_empty

theorem sorted_ledger (steps : List RingStep) : (ledger steps).Sorted := by
  induction steps using List.reverseRecOn with
  | nil => exact Table.sorted_empty
  | append_singleton steps step ih =>
    rw [ledger_concat]
    exact sorted_enter ih step

/-- The ledger holds the keys that stand. -/
theorem get?_ledger {steps : List RingStep} {id : KeyId} {key : MediaKey} :
    (ledger steps).get? id = some key ↔ Standing steps id key := by
  induction steps using List.reverseRecOn with
  | nil => simp [ledger, Standing, not_since_nil]
  | append_singleton steps step ih =>
    rw [ledger_concat]
    cases step with
    | insert other new =>
      rw [standing_insert, ← ih, enter, Table.get?_insert]
      split <;> simp
    | purgeBefore bound =>
      rw [standing_purgeBefore, ← ih, enter, Table.get?_filter]
      split <;> simp_all
    | clear => simp [enter, not_standing_clear]

theorem mem_keys_ledger {steps : List RingStep} {id : KeyId} :
    id ∈ (ledger steps).keys ↔ id ∈ standingIds steps := by
  rw [Table.mem_keys_iff, Option.isSome_iff_exists]
  exact exists_congr fun key => get?_ledger

/-- Numbers of the ledger are counted as numbers under which a key stands. -/
theorem ncard_standingIds (steps : List RingStep) (p : KeyId → Bool) :
    {j ∈ standingIds steps | p j}.ncard = ((ledger steps).keys.filter p).length := by
  have hset : {j ∈ standingIds steps | p j} = ↑((ledger steps).keys.filter p).toFinset := by
    ext j
    simp [mem_keys_ledger]
  rw [hset, Set.ncard_coe_finset,
    List.toFinset_card_of_nodup ((sorted_ledger steps).nodup_keys.filter _)]

/-! ## The ring after a history -/

/-- What a ring holds after a history. -/
structure Recorded (maxKeys : Nat) (steps : List RingStep) (r : KeyRing) : Prop where
  /-- There is room for at least one key. -/
  capacity : r.capacity = max maxKeys 1
  /-- The last entries of the ledger are kept. -/
  keys : r.keys = (ledger steps).keepLast r.capacity
  /-- There is no current number as long as nothing has come in. -/
  unset : r.current = none → ∀ id, ¬ Arrived steps id
  /-- The current number has come in, and none above it has. -/
  highest : ∀ current, r.current = some current →
    Arrived steps current ∧ ∀ id, Arrived steps id → id ≤ current

theorem recorded_new (maxKeys : Nat) : Recorded maxKeys [] (new maxKeys) :=
  ⟨rfl, by simp [new, ledger, Table.keepLast, Table.empty], fun _ _ => not_since_nil,
    fun _ h => by cases h⟩

namespace Recorded

variable {maxKeys : Nat} {steps : List RingStep} {r : KeyRing}

theorem insert (h : Recorded maxKeys steps r) (id : KeyId) (key : MediaKey) :
    Recorded maxKeys (steps ++ [.insert id key]) (r.insert id key) where
  capacity := h.capacity
  keys := by
    rw [ledger_concat, enter]
    simp only [KeyRing.insert, h.keys]
    exact (sorted_ledger steps).keepLast_insert id key r.capacity
  unset hnone := by
    obtain ⟨current, hcurrent, -⟩ := exists_current_insert r id key
    cases hnone.symm.trans hcurrent
  highest current hcurrent := by
    obtain ⟨current', hcurrent', hfrom, hid, hle⟩ := exists_current_insert r id key
    cases hcurrent.symm.trans hcurrent'
    refine ⟨arrived_insert.2 (hfrom.imp_right fun hold => (h.highest current hold).1), ?_⟩
    intro j hj
    rcases arrived_insert.1 hj with rfl | hj
    · exact hid
    · cases hold : r.current with
      | none => exact absurd hj (h.unset hold j)
      | some old => exact UInt32.le_trans ((h.highest old hold).2 j hj) (hle old hold)

theorem purgeBefore (h : Recorded maxKeys steps r) (bound : KeyId) :
    Recorded maxKeys (steps ++ [.purgeBefore bound]) (r.purgeBefore bound) where
  capacity := h.capacity
  keys := by
    rw [ledger_concat, enter]
    simp only [KeyRing.purgeBefore, h.keys]
    refine (sorted_ledger steps).keepLast_filter (p := fun j => decide (bound ≤ j)) ?_ r.capacity
    intro j k hjk hj
    rw [decide_eq_true_iff] at hj ⊢
    exact UInt32.le_trans hj (UInt32.le_of_lt hjk)
  unset hnone id := arrived_purgeBefore.not.2 (h.unset hnone id)
  highest current hcurrent := by
    simpa only [arrived_purgeBefore] using h.highest current hcurrent

theorem clear (h : Recorded maxKeys steps r) :
    Recorded maxKeys (steps ++ [.clear]) r.clear where
  capacity := h.capacity
  keys := by
    rw [ledger_concat]
    simp [enter, KeyRing.clear, Table.keepLast, Table.empty]
  unset _ _ := not_arrived_clear
  highest _ hcurrent := by cases hcurrent

theorem take (h : Recorded maxKeys steps r) (step : RingStep) :
    Recorded maxKeys (steps ++ [step]) (r.take step) := by
  cases step with
  | insert id key => exact h.insert id key
  | purgeBefore bound => exact h.purgeBefore bound
  | clear => exact h.clear

end Recorded

theorem recorded_run (maxKeys : Nat) (steps : List RingStep) :
    Recorded maxKeys steps ((new maxKeys).run steps) := by
  induction steps using List.reverseRecOn with
  | nil => exact recorded_new maxKeys
  | append_singleton steps step ih =>
    rw [run_concat]
    exact ih.take step

namespace Recorded

variable {maxKeys : Nat} {steps : List RingStep} {r : KeyRing} {id : KeyId} {key : MediaKey}

/-- The ring holds the keys that stand under numbers with few enough such numbers above. -/
theorem get?_iff (h : Recorded maxKeys steps r) :
    r.get? id = some key ↔
      Standing steps id key ∧ {j ∈ standingIds steps | id < j}.ncard < max maxKeys 1 := by
  have hcount := ncard_standingIds steps fun j => decide (id < j)
  simp only [decide_eq_true_iff] at hcount
  rw [hcount, ← h.capacity, ← get?_ledger, KeyRing.get?, h.keys]
  exact (sorted_ledger steps).get?_keepLast_iff

theorem size_eq (h : Recorded maxKeys steps r) :
    r.size = min (standingIds steps).ncard (max maxKeys 1) := by
  have hcount := ncard_standingIds steps fun _ => true
  simp only [Set.sep_true, List.filter_true] at hcount
  rw [KeyRing.size, h.keys, Table.size_keepLast, h.capacity, hcount, Table.keys, List.length_map,
    Table.size]

theorem current_iff (h : Recorded maxKeys steps r) {current : KeyId} :
    r.current = some current ↔
      Arrived steps current ∧ ∀ id, Arrived steps id → id ≤ current := by
  refine ⟨h.highest current, fun ⟨harrived, hmax⟩ => ?_⟩
  cases hold : r.current with
  | none => exact absurd harrived (h.unset hold current)
  | some old =>
    obtain ⟨harrived', hmax'⟩ := h.highest old hold
    rw [UInt32.le_antisymm (hmax old harrived') (hmax' current harrived)]

theorem current_eq_none_iff (h : Recorded maxKeys steps r) :
    r.current = none ↔ ∀ id, ¬ Arrived steps id := by
  refine ⟨h.unset, fun hno => ?_⟩
  cases hold : r.current with
  | none => rfl
  | some old => exact absurd (h.highest old hold).1 (hno old)

/-- No key stands above a number above which none has come in. -/
theorem ncard_above (hmax : ∀ j, Arrived steps j → j ≤ id) :
    {j ∈ standingIds steps | id < j}.ncard = 0 := by
  have hempty : {j ∈ standingIds steps | id < j} = ∅ := by
    refine Set.eq_empty_iff_forall_notMem.2 fun j hj => ?_
    obtain ⟨⟨key, hstanding⟩, hlt⟩ := hj
    exact UInt32.not_lt.2 (hmax j hstanding.arrived) hlt
  rw [hempty, Set.ncard_empty]

/-- A key that stands under the highest number is kept. -/
theorem get?_of_highest (h : Recorded maxKeys steps r) (hmax : ∀ j, Arrived steps j → j ≤ id)
    (hstanding : Standing steps id key) : r.get? id = some key := by
  refine h.get?_iff.2 ⟨hstanding, ?_⟩
  rw [ncard_above hmax]
  omega

/-- The current key is missing exactly if it was purged. -/
theorem get?_current_eq_none_iff (h : Recorded maxKeys steps r) (hcurrent : r.current = some id) :
    r.get? id = none ↔ Purged steps id := by
  obtain ⟨harrived, hmax⟩ := h.highest id hcurrent
  constructor
  · intro hnone
    refine harrived.standing_or_purged.resolve_left ?_
    rintro ⟨key, hstanding⟩
    cases hnone.symm.trans (h.get?_of_highest hmax hstanding)
  · intro hpurged
    refine Option.eq_none_iff_forall_ne_some.2 fun key hkey => ?_
    exact hpurged.not_standing key (h.get?_iff.1 hkey).1

/-- A key that comes in pushes none out that has a higher number. -/
theorem get?_insert_of_lt (h : Recorded maxKeys steps r) {j : KeyId} (hlt : id < j) :
    (r.insert id key).get? j = r.get? j := by
  have hne {k : KeyId} (hk : id < k) : k ≠ id := fun heq => UInt32.lt_irrefl id (heq ▸ hk)
  have hstanding {k : KeyId} (hk : id < k) (key' : MediaKey) :
      Standing (steps ++ [.insert id key]) k key' ↔ Standing steps k key' := by
    rw [standing_insert, if_neg (hne hk)]
  have habove : {k ∈ standingIds (steps ++ [.insert id key]) | j < k} =
      {k ∈ standingIds steps | j < k} := by
    ext k
    refine and_congr_left fun hk => exists_congr fun key' => ?_
    exact hstanding (UInt32.lt_trans hlt hk) key'
  refine Option.ext fun key' => ?_
  rw [(h.insert id key).get?_iff, h.get?_iff, hstanding hlt, habove]

/-- A late key does not become current. -/
theorem current_insert_of_lt (h : Recorded maxKeys steps r) {j : KeyId} (hj : Arrived steps j)
    (hlt : id < j) : (r.insert id key).current = r.current := by
  cases hold : r.current with
  | none => exact absurd hj (h.unset hold j)
  | some old =>
    have hle : ¬ old < id := UInt32.not_lt.2
      (UInt32.le_of_lt (UInt32.lt_of_lt_of_le hlt ((h.highest old hold).2 j hj)))
    rw [current_insert_of_some hold, if_neg hle]

end Recorded

/-- **What a ring keeps.**  After every history, a ring holds exactly the keys that stand under
the highest numbers, each number with the key that came in last, and as many as it has room for.
Its current number is the highest that came in since it was cleared, used with its key as long as
the ring holds it, and the ring misses it only if it was purged.  A key that comes in pushes out no
key of a higher number, and a late one does not become current. -/
theorem retention_along_runs (maxKeys : Nat) (steps : List RingStep) :
    let r := (new maxKeys).run steps
    (∀ id key, r.get? id = some key ↔
      Standing steps id key ∧ {j ∈ standingIds steps | id < j}.ncard < max maxKeys 1) ∧
    r.size = min (standingIds steps).ncard (max maxKeys 1) ∧
    (∀ current, r.current = some current ↔
      Arrived steps current ∧ ∀ id, Arrived steps id → id ≤ current) ∧
    (r.current = none ↔ ∀ id, ¬ Arrived steps id) ∧
    (∀ id key, r.currentKey? = some (id, key) ↔ r.current = some id ∧ r.get? id = some key) ∧
    (∀ current, r.current = some current → (r.get? current = none ↔ Purged steps current)) ∧
    (∀ id key j, id < j → (r.insert id key).get? j = r.get? j) ∧
    ∀ id key j, Arrived steps j → id < j → (r.insert id key).current = r.current := by
  intro r
  have h : Recorded maxKeys steps r := recorded_run maxKeys steps
  refine ⟨fun id key => h.get?_iff, h.size_eq, fun current => h.current_iff, h.current_eq_none_iff,
    fun id key => ?_, fun current hcurrent => h.get?_current_eq_none_iff hcurrent,
    fun id key j hlt => h.get?_insert_of_lt hlt, fun id key j hj hlt =>
    h.current_insert_of_lt hj hlt⟩
  rw [currentKey?, Option.bind_eq_some_iff]
  constructor
  · rintro ⟨id', hcurrent, hmap⟩
    obtain ⟨key', hkey, heq⟩ := Option.map_eq_some_iff.1 hmap
    cases heq
    exact ⟨hcurrent, hkey⟩
  · rintro ⟨hcurrent, hkey⟩
    exact ⟨id, hcurrent, by rw [hkey, Option.map_some]⟩

/-! ## The next number -/

namespace Recorded

variable {maxKeys : Nat} {steps : List RingStep} {r : KeyRing}

theorem arrived_lastId_iff (h : Recorded maxKeys steps r) :
    Arrived steps lastId ↔ r.current = some lastId := by
  refine ⟨fun harrived => h.current_iff.2 ⟨harrived, fun id _ => ?_⟩, fun hcurrent =>
    (h.highest lastId hcurrent).1⟩
  have hlt := id.toNat_lt
  rw [UInt32.le_iff_toNat_le]
  simp only [lastId, UInt32.reduceToNat]
  omega

/-- While numbers are left, the next one is above all that have come in. -/
theorem lt_nextId (h : Recorded maxKeys steps r) (hlast : ¬ Arrived steps lastId) {id : KeyId}
    (hid : Arrived steps id) : id < r.nextId := by
  cases hold : r.current with
  | none => exact absurd hid (h.unset hold id)
  | some current =>
    have hne : current ≠ lastId := fun heq => hlast (h.arrived_lastId_iff.2 (heq ▸ hold))
    exact UInt32.lt_of_le_of_lt ((h.highest current hold).2 id hid) (current_lt_nextId hold hne)

/-- A new key under the next number is kept, while numbers are left. -/
theorem get?_insert_nextId (h : Recorded maxKeys steps r) (hlast : ¬ Arrived steps lastId)
    (key : MediaKey) : (r.insert r.nextId key).get? r.nextId = some key := by
  refine (h.insert r.nextId key).get?_of_highest (fun j hj => ?_) ?_
  · rcases arrived_insert.1 hj with rfl | hj
    · exact UInt32.le_refl _
    · exact UInt32.le_of_lt (h.lt_nextId hlast hj)
  · rw [standing_insert, if_pos rfl]

/-- When numbers are exhausted, the current key is that of the highest number, and it stays. -/
theorem currentKey?_exhausted (h : Recorded maxKeys steps r) (hlast : Arrived steps lastId)
    (key : MediaKey) :
    (∃ old, r.currentKey? = some (lastId, old)) ∧
      (r.insert r.nextId key).currentKey? = r.currentKey? := by
  have hcurrent := h.arrived_lastId_iff.1 hlast
  have hkept : (r.get? lastId).isSome := by
    rw [Option.isSome_iff_ne_none, Ne, h.get?_current_eq_none_iff hcurrent]
    -- no number is above the highest one, so nothing purges it
    rintro ⟨before, step, after, -, ⟨bound, -, hlt⟩, -⟩
    have hbound := bound.toNat_lt
    rw [UInt32.lt_iff_toNat_lt] at hlt
    simp only [lastId, UInt32.reduceToNat] at hlt
    omega
  obtain ⟨old, hold⟩ := Option.isSome_iff_exists.1 hkept
  have hcurrentKey : r.currentKey? = some (lastId, old) := by
    rw [currentKey?, hcurrent, Option.bind_some, hold, Option.map_some]
  refine ⟨⟨old, hcurrentKey⟩, ?_⟩
  rw [currentKey?, current_insert_exhausted hcurrent, Option.bind_some,
    h.get?_insert_of_lt (nextId_lt_lastId hcurrent), hold, Option.map_some, hcurrentKey]

end Recorded

/-- **When a rotation takes effect.**  After every history, a key that comes in under the next
number is the current one, under a number above all that came in since the ring was cleared,
exactly if the highest number of all is not among these.  Otherwise the next number is zero, and
the key of the highest number stays the current one. -/
theorem rotation_along_runs (maxKeys : Nat) (steps : List RingStep) (key : MediaKey) :
    let r := (new maxKeys).run steps
    let r' := r.insert r.nextId key
    ((r'.current = some r.nextId ∧ r'.get? r.nextId = some key ∧
        r'.currentKey? = some (r.nextId, key) ∧ ∀ id, Arrived steps id → id < r.nextId) ↔
      ¬ Arrived steps lastId) ∧
    (Arrived steps lastId → r.nextId = 0 ∧ r'.current = some lastId ∧
      (∃ old, r.currentKey? = some (lastId, old)) ∧ r'.currentKey? = r.currentKey?) := by
  intro r r'
  have h : Recorded maxKeys steps r := recorded_run maxKeys steps
  have hlast := h.arrived_lastId_iff
  refine ⟨⟨fun heffect harrived => ?_, fun hnot => ?_⟩, fun harrived => ?_⟩
  · exact UInt32.lt_irrefl _ (UInt32.lt_trans (nextId_lt_lastId (hlast.1 harrived))
      (heffect.2.2.2 lastId harrived))
  · have hcurrent : r'.current = some r.nextId := current_insert_nextId (hlast.not.1 hnot) key
    have hkept : r'.get? r.nextId = some key := h.get?_insert_nextId hnot key
    refine ⟨hcurrent, hkept, ?_, fun id hid => h.lt_nextId hnot hid⟩
    rw [currentKey?, hcurrent, Option.bind_some, hkept, Option.map_some]
  · have hcurrent := hlast.1 harrived
    refine ⟨?_, current_insert_exhausted hcurrent key, h.currentKey?_exhausted harrived key⟩
    rw [nextId, hcurrent]
    rfl

/-- Behind the highest number the next one is zero, and a new key under it is not used. -/
theorem rotation_exhausted :
    let old : MediaKey := Vector.replicate 16 7
    let key : MediaKey := Vector.replicate 16 9
    let r := (new 4).run [.insert lastId old]
    r.nextId = 0 ∧ (r.insert r.nextId key).get? r.nextId = some key ∧
      (r.insert r.nextId key).currentKey? = some (lastId, old) ∧
      (r.insert r.nextId key).currentKey? ≠ some (r.nextId, key) := by
  decide

end KeyRing
end GroupCall

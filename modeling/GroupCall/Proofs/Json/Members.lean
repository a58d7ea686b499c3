/-
# Members of objects

An object that is put together from members lists them by ascending key, and a key has the
value that was written for it.
-/
import GroupCall.Json.Value
import Mathlib.Data.List.Nodup

namespace GroupCall.Json

/-! ### Look-ups -/

theorem member?_cons (key k : String) (j : Json) (members : List (String × Json)) :
    member? key ((k, j) :: members) = if key = k then some j else member? key members := rfl

theorem member?_eq_none {key : String} {members : List (String × Json)}
    (h : key ∉ members.map Prod.fst) : member? key members = none := by
  induction members with
  | nil => rfl
  | cons m members ih =>
    obtain ⟨hne, hmembers⟩ := not_or.1 (mt List.mem_cons.2 h)
    rw [member?, if_neg hne, ih hmembers]

theorem member?_putMember (key k : String) (item : Json) (members : List (String × Json)) :
    member? key (putMember k item members) =
      if key = k then some item else member? key members := by
  induction members with
  | nil => rfl
  | cons m members ih =>
    obtain ⟨k', j⟩ := m
    rw [putMember]
    split
    · rfl
    split
    · next hk =>
      subst hk
      rw [member?_cons, member?_cons]
      split <;> rfl
    · next hk =>
      rw [member?_cons, member?_cons, ih]
      split
      · next hkey => rw [if_neg fun h => hk (h.symm.trans hkey)]
      · rfl

/-! ### Objects in order -/

/-- Members by ascending key. -/
abbrev Ascends (members : List (String × Json)) : Prop :=
  members.Pairwise fun m n => m.1 < n.1

theorem Ascends.nodup {members : List (String × Json)} (h : Ascends members) :
    (members.map Prod.fst).Nodup := by
  refine List.pairwise_map.2 (h.imp fun hlt heq => ?_)
  exact String.lt_irrefl _ (heq ▸ hlt)

theorem mem_putMember {key : String} {item : Json} {members : List (String × Json)}
    {m : String × Json} (h : m ∈ putMember key item members) : m = (key, item) ∨ m ∈ members := by
  induction members with
  | nil => exact .inl (by simpa [putMember] using h)
  | cons n members ih =>
    rw [putMember] at h
    split at h
    · exact List.mem_cons.1 h
    split at h
    · rcases List.mem_cons.1 h with h | h
      · exact .inl h
      · exact .inr (List.mem_cons_of_mem _ h)
    · rcases List.mem_cons.1 h with h | h
      · exact .inr (h ▸ List.mem_cons_self)
      · exact (ih h).imp id (List.mem_cons_of_mem _)

theorem Ascends.putMember {members : List (String × Json)} (h : Ascends members) (key : String)
    (item : Json) : Ascends (putMember key item members) := by
  induction members with
  | nil => simp [Json.putMember]
  | cons m members ih =>
    obtain ⟨k, j⟩ := m
    obtain ⟨hk, hmembers⟩ := List.pairwise_cons.1 h
    rw [Json.putMember]
    split
    · next hlt =>
      refine List.pairwise_cons.2 ⟨?_, h⟩
      rintro n (_ | ⟨_, hn⟩)
      · exact hlt
      · exact String.lt_trans hlt (hk n hn)
    split
    · next heq =>
      subst heq
      exact List.pairwise_cons.2 ⟨hk, hmembers⟩
    · next hnlt hne =>
      refine List.pairwise_cons.2 ⟨fun n hn => ?_, ih hmembers⟩
      rcases mem_putMember hn with rfl | hn
      · -- of two different keys one is the smaller
        refine Decidable.by_contra fun hkey => hne ?_
        exact String.le_antisymm (String.not_lt.1 hkey) (String.not_lt.1 hnlt)
      · exact hk n hn

/-- The members of a list in order, each key with its last value. -/
def inOrder (members : List (String × Json)) : List (String × Json) :=
  members.foldl (fun ms m => putMember m.1 m.2 ms) []

theorem ofMembers_eq (members : List (String × Json)) :
    ofMembers members = .object (inOrder members) := rfl

theorem ascends_foldl {before : List (String × Json)} (h : Ascends before)
    (members : List (String × Json)) :
    Ascends (members.foldl (fun ms m => putMember m.1 m.2 ms) before) := by
  induction members generalizing before with
  | nil => exact h
  | cons m members ih => exact ih (h.putMember m.1 m.2)

theorem ascends_inOrder (members : List (String × Json)) : Ascends (inOrder members) :=
  ascends_foldl List.Pairwise.nil members

theorem mem_of_mem_inOrder {members : List (String × Json)} {m : String × Json}
    (h : m ∈ inOrder members) : m ∈ members := by
  have hfold : ∀ (members before : List (String × Json)),
      m ∈ members.foldl (fun ms m => putMember m.1 m.2 ms) before → m ∈ before ∨ m ∈ members := by
    intro members
    induction members with
    | nil => exact fun before h => .inl h
    | cons n members ih =>
      intro before h
      rcases ih _ h with h | h
      · rcases mem_putMember h with rfl | h
        · exact .inr List.mem_cons_self
        · exact .inl h
      · exact .inr (List.mem_cons_of_mem _ h)
  exact (hfold members [] h).resolve_left List.not_mem_nil

/-- If no key is repeated, every key has the value that was written for it. -/
theorem member?_inOrder {members : List (String × Json)} (h : (members.map Prod.fst).Nodup)
    (key : String) : member? key (inOrder members) = member? key members := by
  have hfold : ∀ (members before : List (String × Json)), (members.map Prod.fst).Nodup →
      member? key (members.foldl (fun ms m => putMember m.1 m.2 ms) before) =
        (member? key members).or (member? key before) := by
    intro members
    induction members with
    | nil => exact fun before _ => rfl
    | cons m members ih =>
      obtain ⟨k, j⟩ := m
      intro before h
      obtain ⟨hk, hmembers⟩ := List.nodup_cons.1 h
      rw [List.foldl_cons, ih _ hmembers, member?_putMember, member?_cons]
      split
      · next heq =>
        subst heq
        rw [member?_eq_none hk]
        rfl
      · rfl
  rw [inOrder, hfold members [] h]
  exact Option.or_none

theorem putMember_append {key : String} {item : Json} {members : List (String × Json)}
    (h : ∀ m ∈ members, m.1 < key) :
    putMember key item members = members ++ [(key, item)] := by
  induction members with
  | nil => rfl
  | cons m members ih =>
    obtain ⟨k, j⟩ := m
    have hk : k < key := h (k, j) (by simp)
    have hne : key ≠ k := fun he => String.lt_irrefl k (he ▸ hk)
    rw [putMember, if_neg (String.lt_asymm hk), if_neg hne,
      ih fun m hm => h m (List.mem_cons_of_mem _ hm)]
    rfl

theorem foldl_putMember_of_ascends {before members : List (String × Json)}
    (h : Ascends (before ++ members)) :
    members.foldl (fun ms m => putMember m.1 m.2 ms) before = before ++ members := by
  induction members generalizing before with
  | nil => simp
  | cons m members ih =>
    have hm : ∀ n ∈ before, n.1 < m.1 := fun n hn =>
      (List.pairwise_append.1 h).2.2 n hn m (by simp)
    rw [List.foldl_cons, putMember_append hm, ih (by simpa using h), List.append_assoc]
    rfl

/-- Members by ascending key are an object as they stand. -/
theorem ofMembers_of_ascends {members : List (String × Json)} (h : Ascends members) :
    ofMembers members = .object members := by
  have hfold := foldl_putMember_of_ascends (show Ascends ([] ++ members) from h)
  rw [ofMembers, hfold, List.nil_append]

end GroupCall.Json

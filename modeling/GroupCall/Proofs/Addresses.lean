/-
# Addresses as sets

Answers of look-ups are compared through ascending lists of numbers.  They agree exactly if they
have the same members: an ascending list is determined by its members, and an address by its
number.
-/
import GroupCall.Net.Addresses
import Mathlib.Data.List.Sort

namespace GroupCall

theorem pairwise_insertOnce {n : Nat} {l : List Nat} (h : l.Pairwise (· < ·)) :
    (insertOnce n l).Pairwise (· < ·) := by
  induction l with
  | nil => simp [insertOnce]
  | cons m rest ih =>
    obtain ⟨hm, hrest⟩ := List.pairwise_cons.1 h
    rw [insertOnce]
    split
    · rename_i hlt
      refine List.pairwise_cons.2 ⟨List.forall_mem_cons.2 ⟨hlt, fun k hk => ?_⟩, h⟩
      exact Nat.lt_trans hlt (hm k hk)
    · split
      · exact h
      · refine List.pairwise_cons.2 ⟨fun k hk => ?_, ih hrest⟩
        rcases mem_insertOnce.1 hk with rfl | hk
        · omega
        · exact hm k hk

theorem pairwise_ascending (ns : List Nat) : (ascending ns).Pairwise (· < ·) := by
  induction ns with
  | nil => exact .nil
  | cons n rest ih => exact pairwise_insertOnce ih

/-- Two lists have the same ascending list exactly if they have the same members. -/
theorem ascending_eq_iff {ns ms : List Nat} :
    ascending ns = ascending ms ↔ ∀ n, n ∈ ns ↔ n ∈ ms := by
  refine ⟨fun h n => ?_, fun h => ?_⟩
  · rw [← mem_ascending, h, mem_ascending]
  · refine (pairwise_ascending ns).eq_of_mem_iff (pairwise_ascending ms) fun n => ?_
    rw [mem_ascending, mem_ascending, h]

/-- Whether lists have the same numbers, if the numbers tell their members apart. -/
theorem ascending_map_eq_iff {α : Type} {f : α → Nat} (hf : ∀ a b, f a = f b → a = b)
    {l l' : List α} : ascending (l.map f) = ascending (l'.map f) ↔ ∀ a, a ∈ l ↔ a ∈ l' := by
  have hmem : ∀ (l : List α) a, f a ∈ l.map f ↔ a ∈ l := fun l a => by
    refine ⟨fun h => ?_, List.mem_map_of_mem⟩
    obtain ⟨b, hb, heq⟩ := List.mem_map.1 h
    exact hf b a heq ▸ hb
  rw [ascending_eq_iff]
  refine ⟨fun h a => ?_, fun h n => ?_⟩
  · rw [← hmem l, ← hmem l', h]
  · simp only [List.mem_map, h]

theorem Ipv4.eq_of_toNat {a b : Ipv4} (h : a.bits.toNat = b.bits.toNat) : a = b := by
  cases a
  cases b
  exact congrArg Ipv4.mk (UInt32.toNat_inj.1 h)

/-- Groups of the same number are told apart by the number that they write. -/
theorem eq_of_foldl_groups {l l' : List UInt16} {n n' : Nat} (hlength : l.length = l'.length)
    (h : l.foldl (fun n g => n * 0x10000 + g.toNat) n =
      l'.foldl (fun n g => n * 0x10000 + g.toNat) n') : n = n' ∧ l = l' := by
  induction l generalizing l' n n' with
  | nil =>
    cases l' with
    | nil => exact ⟨h, rfl⟩
    | cons _ _ => cases hlength
  | cons g rest ih =>
    cases l' with
    | nil => cases hlength
    | cons g' rest' =>
      obtain ⟨hfirst, rfl⟩ := ih (Nat.succ.inj hlength) h
      have hfirst : n * 0x10000 + g.toNat = n' * 0x10000 + g'.toNat := hfirst
      have hg := g.toNat_lt
      have hg' := g'.toNat_lt
      have heq : g.toNat = g'.toNat := by omega
      exact ⟨by omega, by rw [UInt16.toNat_inj.1 heq]⟩

theorem Ipv6.eq_of_toNat {a b : Ipv6} (h : a.toNat = b.toNat) : a = b := by
  obtain ⟨-, hlist⟩ := eq_of_foldl_groups (by simp) h
  cases a
  cases b
  exact congrArg Ipv6.mk (Vector.toList_inj.1 hlist)

namespace Addresses

/-- The same addresses, in any order and any number. -/
structure Same (a b : Addresses) : Prop where
  /-- Those of version 4. -/
  ipv4 : ∀ address, address ∈ a.ipv4 ↔ address ∈ b.ipv4
  /-- Those of version 6. -/
  ipv6 : ∀ address, address ∈ a.ipv6 ↔ address ∈ b.ipv6

theorem sameSet_iff {a b : Addresses} : a.sameSet b = true ↔ a.Same b := by
  rw [sameSet, Bool.and_eq_true, decide_eq_true_iff, decide_eq_true_iff,
    ascending_map_eq_iff fun _ _ => Ipv4.eq_of_toNat,
    ascending_map_eq_iff fun _ _ => Ipv6.eq_of_toNat]
  exact ⟨fun h => ⟨h.1, h.2⟩, fun h => ⟨h.ipv4, h.ipv6⟩⟩

/-! ### Lists of addresses of either version -/

theorem mem_ipv4_ofList {ips : List IpAddress} {address : Ipv4} :
    address ∈ (ofList ips).ipv4 ↔ .v4 address ∈ ips := by
  induction ips with
  | nil => simp [ofList, none]
  | cons ip ips ih => cases ip <;> simp [ofList, ih]

theorem mem_ipv6_ofList {ips : List IpAddress} {address : Ipv6} :
    address ∈ (ofList ips).ipv6 ↔ .v6 address ∈ ips := by
  induction ips with
  | nil => simp [ofList, none]
  | cons ip ips ih => cases ip <;> simp [ofList, ih]

theorem same_ofList_iff {ips ips' : List IpAddress} :
    (ofList ips).Same (ofList ips') ↔ ∀ ip, ip ∈ ips ↔ ip ∈ ips' := by
  constructor
  · intro h ip
    cases ip with
    | v4 address => rw [← mem_ipv4_ofList, h.ipv4, mem_ipv4_ofList]
    | v6 address => rw [← mem_ipv6_ofList, h.ipv6, mem_ipv6_ofList]
  · intro h
    exact ⟨fun address => by rw [mem_ipv4_ofList, h, mem_ipv4_ofList],
      fun address => by rw [mem_ipv6_ofList, h, mem_ipv6_ofList]⟩

namespace Same

variable {a b c : Addresses}

theorem refl (a : Addresses) : a.Same a := ⟨fun _ => Iff.rfl, fun _ => Iff.rfl⟩

theorem symm (h : a.Same b) : b.Same a := ⟨fun x => (h.ipv4 x).symm, fun x => (h.ipv6 x).symm⟩

theorem trans (h : a.Same b) (h' : b.Same c) : a.Same c :=
  ⟨fun x => (h.ipv4 x).trans (h'.ipv4 x), fun x => (h.ipv6 x).trans (h'.ipv6 x)⟩

end Same
end Addresses
end GroupCall
